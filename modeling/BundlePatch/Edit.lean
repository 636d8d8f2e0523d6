import BundlePatch.Alias

/-!
# Edit — replacing the templates of a function by calls

Each template `` `file://${path.resolve(FILE)}` `` of a function becomes the call
`converter(path.resolve(FILE)).href`, with the names that the same bundle uses.  `Edit.plan` lists the
replacements from left to right, `Edit.compose` carries out any list of replacements in **one pass**
over the text of the function, in the order of their positions, and refuses one that does not fit.
-/

namespace BundlePatch

/-- A **replacement** in a source: the range, the text that stands there, the text that comes there,
and the variable that holds the file. -/
structure Edit where
  start : Int
  stop : Int
  old : Text
  new : Text
  file : Text
  deriving DecidableEq, Repr

namespace Edit

/-- The template with a given name of the path module; the variable of the file is part 3. -/
def template (path : Text) : Pattern :=
  [.word "`file://$\x7b".toList, .word path, .word ".resolve(".toList, .some isIdentifier,
    .word ")\x7d`".toList]

/-- The call that replaces a template. -/
def call (converter path file : Text) : Text :=
  converter ++ '(' :: path ++ ".resolve(".toList ++ file ++ ")).href".toList

/-- The call, with a **space in front** when the character before the template belongs to a name:
a keyword and the call must not run together. -/
def separated (last? : Option Char) (call : Text) : Text :=
  if last?.any isIdentifier then ' ' :: call else call

/-- The replacements for the templates found in a stretch of a function that starts at `position`
of the source and follows the character `last?`. -/
def planFrom (path converter : Text) : (position : Int) → (last? : Option Char) → List Segment →
    List Edit
  | _, _, [] => []
  | position, last?, seg :: segs =>
    let start := position + seg.gap.length
    let stop := start + seg.text.length
    let file := seg.part 3
    let new := separated (seg.gap.getLast?.or last?) (call converter path file)
    ⟨start, stop, seg.text, new, file⟩ :: planFrom path converter stop seg.text.getLast? segs

/-- The **replacements that a function calls for**; none unless both names are known. -/
def plan (routine : Routine) (aliases : Aliases) : List Edit :=
  match aliases.named? .path, aliases.named? .converter with
  | some path, some converter =>
    planFrom path converter routine.start none (Pattern.scan (template path) routine.code).1
  | _, _ => []

/-- Carries out replacements in order, from position `cursor` of the function on. -/
def splice (routine : Routine) : (cursor : Int) → List Edit → Except Fault Text
  | cursor, [] => .ok (routine.code.sliceFrom cursor)
  | cursor, e :: edits =>
    let first := e.start - routine.start
    let last := e.stop - routine.start
    if first < cursor ∨ routine.code.slice first last ≠ e.old then .error (.staleEdit e.start)
    else
      (splice routine last edits).map fun rest =>
        routine.code.slice cursor first ++ (e.new ++ rest)

/-- Whether a replacement comes no later than another. -/
def startsBy (a b : Edit) : Bool := a.start ≤ b.start

/-- The text of a function **after all replacements**.  They are taken by position, those at one
position in the order given. -/
def compose (routine : Routine) (edits : List Edit) : Except Fault Text :=
  splice routine 0 (edits.mergeSort startsBy)

end Edit

end BundlePatch
