import BundlePatch.Text.Quoted

/-!
# File/Error — why an operation on files fails

The operating system **refuses** an operation for one of five reasons and names the path that it
was given.  Two more failures are found before it is asked: a copy of a file onto itself, and a path
with a NUL in it, which is a misuse of the operation rather than a refusal.  And what it has granted
it may still **break off**, because the disk is full or will not be read, and then it gives only a
message.
-/

namespace BundlePatch

/-- A reason of the operating system. -/
inductive Refusal where
  /-- There is nothing at the path, or no directory that it could stand in. -/
  | missing
  /-- There is something at the path already. -/
  | alreadyThere
  /-- A part of the path that has more parts after it is a file. -/
  | notDirectory
  /-- There is a directory where a file is wanted. -/
  | isDirectory
  /-- A part of the path, or the path itself, is too long. -/
  | nameTooLong
  deriving DecidableEq, Repr

namespace Refusal

/-- The number of a reason. -/
def number : Refusal → Nat
  | .missing => 2
  | .alreadyThere => 17
  | .notDirectory => 20
  | .isDirectory => 21
  | .nameTooLong => 36

/-- The wording of a reason. -/
def text : Refusal → String
  | .missing => "No such file or directory"
  | .alreadyThere => "File exists"
  | .notDirectory => "Not a directory"
  | .isDirectory => "Is a directory"
  | .nameTooLong => "File name too long"

end Refusal

/-- The failure of an operation on files. -/
inductive FileError where
  /-- The operating system refuses the operation on this path. -/
  | refused (why : Refusal) (path : String)
  /-- Source and target of a copy, as they are shown, are one file. -/
  | sameFile (source target : String)
  /-- A path holds a NUL. -/
  | embeddedNul
  /-- The operating system breaks the operation off, with this message. -/
  | brokenOff (message : String)
  deriving DecidableEq, Repr

namespace FileError

/-- The **wording** of a failure. -/
def message : FileError → String
  | .refused why path => s!"[Errno {why.number}] {why.text}: {quoted path}"
  | .sameFile source target => s!"{source} and {target} are the same file"
  | .embeddedNul => "embedded null byte"
  | .brokenOff message => message

/-- Whether the failure is one of the **environment** and not a misuse. -/
def isEnvironmental : FileError → Bool
  | .embeddedNul => false
  | _ => true

end FileError

end BundlePatch
