import BundlePatch.File.System

/-!
# File/Copy — copying one file

A copy whose target is a directory goes into it, under the last name of the source.  The source is
opened before the target, so of two faults the one of the source is reported; a copy of a file onto
itself is refused before either is opened.

What can be copied is copied whole (`FileSystem.copy`), unless the system **breaks the copy off**
(`BrokenCopy`).  Then the target, once it is open, is left with as much as it has got by then.
-/

namespace BundlePatch

/-- The target of a copy: where it is and **how it is shown** in messages. -/
structure CopyTarget where
  path : Path
  shown : String
  deriving DecidableEq, Repr

namespace Path

/-- What follows the last slash in the written form of a path. -/
def baseText (p : Path) : String :=
  match p.root, p.parts.getLast? with
  | _, some name => name
  | .here, none => "."
  | _, none => ""

@[simp] theorem baseText_child (p : Path) (name : String) : (p.child name).baseText = name := by
  rw [baseText, child, List.getLast?_concat]

/-- The text that shows a path as a value, where two paths are named together. -/
def display (p : Path) : String := s!"PosixPath({quoted p.toString})"

end Path

namespace FileSystem

/-- Where a copy of `source` to `target` ends up: at the target, or **inside it** if it is a
directory. -/
def copyTarget (fs : FileSystem) (source target : Path) : CopyTarget × String :=
  if fs.isDirectory target then
    let base := source.baseText
    let written := target.toString
    let joined := (if written.endsWith "/" then written else written ++ "/") ++ base
    let path := if base = "" || base = "." then target else target.child base
    (⟨path, joined⟩, quoted joined)
  else (⟨target, target.toString⟩, target.display)

/-- Whether two paths lead to the same thing. -/
def sameEntry (fs : FileSystem) (a b : Path) : Bool :=
  match fs.stat a, fs.stat b with
  | .ok (la, _), .ok (lb, _) => la == lb
  | _, _ => false

/-- **Copies a file.** -/
def copy (fs : FileSystem) (source target : Path) : Except FileError FileSystem := do
  if source.hasNul || target.hasNul then throw .embeddedNul
  let (dest, display) := fs.copyTarget source target
  if fs.sameEntry source dest.path then throw (.sameFile source.display display)
  let bytes ← (fs.read source).mapError (.refused · source.toString)
  (fs.write dest.path bytes).mapError (.refused · dest.shown)

end FileSystem

/-- A copy that the system **breaks off** although it could be made: before the target is opened, or
when so many bytes have been copied, which may be all of them. -/
structure BrokenCopy where
  bytes? : Option Nat := none
  message : String
  deriving DecidableEq, Repr

/-- What a copy that is broken off **leaves**. -/
def BrokenCopy.leave (b : BrokenCopy) (fs : FileSystem) (source target : Path) : FileSystem :=
  match b.bytes? with
  | none => fs
  | some n =>
    match fs.read source with
    | .error _ => fs
    | .ok bytes => fs.writeIfPossible (fs.copyTarget source target).1.path (bytes.take n)

/-- Copies a file, **unless the copy is broken off**: what is left, and whether it is whole. -/
def FileSystem.copyUnless (fs : FileSystem) (broken? : Option BrokenCopy) (source target : Path) :
    FileSystem × Except FileError Unit :=
  match fs.copy source target with
  | .error why => (fs, .error why)
  | .ok fs' =>
    match broken? with
    | none => (fs', .ok ())
    | some b => (b.leave fs source target, .error (.brokenOff b.message))

end BundlePatch
