import BundlePatch.Text.Class

/-!
# File/Path — names of files

A path is a root and a list of parts.  Reading a path drops empty parts and parts that are `.`,
keeps `..`, and keeps a root of exactly two slashes apart from the usual one; a path without root
and parts is written `.`.  So every path has **one written form**.
-/

namespace BundlePatch

/-- Where a path starts. -/
inductive Root where
  /-- At the working directory. -/
  | here
  /-- At `/`. -/
  | top
  /-- At `//`. -/
  | double
  deriving DecidableEq, Repr

/-- The slashes that a root is written with. -/
def Root.text : Root → String
  | .here => ""
  | .top => "/"
  | .double => "//"

/-- A path to a file or directory. -/
structure Path where
  root : Root := .here
  parts : List String
  deriving DecidableEq, Repr

namespace Path

/-- The parts of a text between its slashes, without the empty ones and those that are `.`. -/
def components (s : String) : List String :=
  ((Text.pieces '/' s.toList).map String.ofList).filter fun part => part ≠ "" && part ≠ "."

/-- **Reads a path.** -/
def ofString (s : String) : Path where
  root :=
    match s.toList with
    | '/' :: '/' :: '/' :: _ => .top
    | '/' :: '/' :: _ => .double
    | '/' :: _ => .top
    | _ => .here
  parts := components s

/-- The **written form** of a path. -/
def toString (p : Path) : String :=
  match p.root, p.parts with
  | .here, [] => "."
  | root, parts => root.text ++ "/".intercalate parts

instance : ToString Path := ⟨toString⟩

/-- The path of the directory that a path stands in; a root stands in itself. -/
def parent (p : Path) : Path := { p with parts := p.parts.dropLast }

/-- A name below a path. -/
def child (p : Path) (name : String) : Path := { p with parts := p.parts ++ [name] }

/-- The last part of a path. -/
def name (p : Path) : String := p.parts.getLast?.getD ""

/-- The name cut at its **last point**, unless that point is its first or last character: the name
without its ending, and the ending with its point. -/
def splitName (p : Path) : String × String :=
  let cs := p.name.toList
  let ending := (cs.reverse.takeWhile (· ≠ '.')).reverse
  let stem := cs.take (cs.length - ending.length - 1)
  if ending.length < cs.length && stem ≠ [] && ending ≠ [] then
    (String.ofList stem, String.ofList ('.' :: ending))
  else (p.name, "")

/-- The name without its ending. -/
def stem (p : Path) : String := p.splitName.1

/-- The ending of the name with its point, if it has one. -/
def suffix (p : Path) : String := p.splitName.2

/-- Whether a NUL, which no file name holds, occurs in a path. -/
def hasNul (p : Path) : Bool := p.parts.any fun part => part.toList.contains '\x00'

end Path

end BundlePatch
