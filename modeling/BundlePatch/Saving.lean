import BundlePatch.File.Source

/-!
# Saving — writing the result, or breaking off on the way

A run is given the way to save its result as a `Saver`.  The usual one writes the whole text; a
`BrokenSave` describes one that **does some damage and then fails**.
-/

namespace BundlePatch

/-- A way to save a text in a file: what it leaves, and whether it succeeds. -/
abbrev Saver := FileSystem → Path → Text → FileSystem × Except Fault Unit

namespace Saver

/-- Writes the whole text. -/
def whole : Saver := FileSystem.writeSource

end Saver

namespace FileSystem

/-- Takes away what stands at a path, with everything below it. -/
def remove (fs : FileSystem) (p : Path) : FileSystem :=
  match fs.follow p with
  | .ok loc => fs.erase loc
  | .error _ => fs

end FileSystem

/-- A save that **breaks off**: it writes some bytes of the text or none, takes paths away, makes
directories, and fails with a message. -/
structure BrokenSave where
  bytes? : Option Nat := none
  removed : List Path := []
  made : List Path := []
  message : String
  deriving Repr

/-- Saving that breaks off. -/
def BrokenSave.save (b : BrokenSave) : Saver := fun fs p s =>
  let written :=
    match b.bytes? with
    | none => fs
    | some n => fs.writeIfPossible p ((Utf8.encode s).take n)
  let cleared := b.removed.foldl FileSystem.remove written
  let rebuilt := b.made.foldl (fun fs dir => (fs.makeDirectories dir).1) cleared
  (rebuilt, .error (.saveBroken b.message))

end BundlePatch
