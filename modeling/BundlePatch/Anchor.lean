import BundlePatch.Fault
import BundlePatch.Pattern.Search

/-!
# Anchor — the return statement that marks a function

Minified names change from build to build, but the object that the function returns keeps the names
of its fields and their order:

    return{initialize:G,shutdown:Z,getServerForFile:Y,…,isFileOpen:W}

`Anchor.pattern` is that statement for any list of field names, with blanks between its tokens and a
name after each colon.  `Anchor.locate` finds the first one, `Anchor.survey` also counts them.
-/

namespace BundlePatch

/-- A **piece of a text that is looked for**: its characters, where it starts and where it stops. -/
structure Anchor where
  text : Text
  start : Int
  stop : Int
  deriving DecidableEq, Repr

namespace Anchor

/-- The fields of the object that manages language servers, in order. -/
def fields : List Text :=
  ["initialize", "shutdown", "getServerForFile", "ensureServerStarted", "sendRequest",
    "getAllServers", "openFile", "changeFile", "saveFile", "closeFile", "isFileOpen"].map
    String.toList

/-- A token with blanks around it. -/
def spaced (token : Text) : Pattern := [.many isBlank, .word token, .many isBlank]

/-- A field and the name of its value. -/
def field (name : Text) : Pattern := .word name :: spaced [':'] ++ [.some isIdentifier]

/-- The fields of the object, with commas between them. -/
def body : List Text → Pattern
  | [] => []
  | [name] => field name
  | name :: names => field name ++ spaced [','] ++ body names

/-- The **return statement** of an object with these fields. -/
def pattern (names : List Text) : Pattern :=
  .word "return".toList :: spaced ['{'] ++ body names ++ [.many isBlank, .word ['}']]

/-- The anchor that starts at a position. -/
def ofText (start : Nat) (text : Text) : Anchor where
  text := text
  start := start
  stop := start + text.length

/-- The **first anchor** of a source. -/
def locate (names : List Text) (source : Text) : Except Fault Anchor :=
  match Pattern.search? (pattern names) source with
  | none => .error .anchorMissing
  | some hit => .ok (ofText hit.start hit.text)

/-- The first anchor of a source, and the **number of all anchors** in it. -/
def survey (names : List Text) (source : Text) : Except Fault (Anchor × Nat) :=
  match (Pattern.scan (pattern names) source).1 with
  | [] => .error .anchorMissing
  | first :: others => .ok (ofText first.gap.length first.text, others.length + 1)

end Anchor

end BundlePatch
