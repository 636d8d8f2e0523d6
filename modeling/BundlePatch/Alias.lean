import BundlePatch.Routine

/-!
# Alias — the local names of what a function uses, and how it makes file addresses

A file address needs two things: the `path` module and the function `pathToFileURL` of the `url`
module.  A minified bundle knows both under other names.  The converter is named where the source
imports it, the path module where the function calls `resolve` on it.

The function makes its addresses in one of two shapes:

* `Shape.legacy` — a template, `` `file://${NAME.resolve(…)}` ``;
* `Shape.target` — a call, `NAME(NAME.resolve(…)).href`.
-/

namespace BundlePatch

/-- How a function makes file addresses. -/
inductive Shape where
  /-- By a template. -/
  | legacy
  /-- By a call of the converter. -/
  | target
  /-- In no way known. -/
  | unrecognized
  deriving DecidableEq, Repr

namespace Shape

/-- The name of a shape. -/
def name : Shape → String
  | .legacy => "legacy"
  | .target => "target"
  | .unrecognized => "unrecognized"

/-- The shape with a given name. -/
def ofName (s : String) : Except Fault Shape :=
  if s = legacy.name then .ok .legacy
  else if s = target.name then .ok .target
  else if s = unrecognized.name then .ok .unrecognized
  else .error (.unknownShape s)

end Shape

/-- What a function needs in order to make file addresses. -/
inductive Role where
  /-- The path module. -/
  | path
  /-- The function that turns a path into an address. -/
  | converter
  deriving DecidableEq, Repr

namespace Role

/-- The name of a role outside any bundle. -/
def name : Role → String
  | .path => "path"
  | .converter => "pathToFileURL"

/-- The roles that have to be filled, in the order in which they are reported. -/
def required : List Role := [.path, .converter]

end Role

/-- The **local names** found for the two roles, and the shape of the function. -/
structure Aliases where
  path? : Option Text := none
  converter? : Option Text := none
  shape : Shape := .unrecognized
  deriving DecidableEq, Repr

namespace Aliases

/-- The local name for a role. -/
def get? (a : Aliases) : Role → Option Text
  | .path => a.path?
  | .converter => a.converter?

/-- The local name for a role, if there is one that is **not empty**. -/
def named? (a : Aliases) (role : Role) : Option Text :=
  (a.get? role).filter (· ≠ [])

/-- Only the legacy shape calls for a patch. -/
def needsPatching (a : Aliases) : Bool := a.shape == .legacy

/-- The roles without a name. -/
def missingRoles (a : Aliases) : List Role :=
  Role.required.filter fun role => (a.named? role).isNone

end Aliases

/-! ## The converter -/

namespace UrlImport

/-- A quotation mark of either kind. -/
def isQuote (c : Char) : Bool := c == '"' || c == '\''

/-- An import of names from the `url` module. -/
def pattern : Pattern :=
  [.word "import".toList, .many isBlank, .word ['{'], .many (· != '}'), .word ['}'],
    .many isBlank, .word "from".toList, .many isBlank, .one isQuote, .option "node:".toList,
    .word "url".toList, .one isQuote]

/-- The part of the pattern between the braces. -/
def bodyIndex : Nat := 3

/-- A name that is imported under another one. -/
def renamed : Pattern :=
  [.some isIdentifier, .some isBlank, .word "as".toList, .some isBlank, .some isIdentifier, .stop]

/-- A name that is imported as it is. -/
def plain : Pattern := [.some isIdentifier, .stop]

/-- The **name and the local name** that one part of an import gives. -/
def binding? (part : Text) : Option (Text × Text) :=
  let part := part.trim
  match Pattern.match? renamed part with
  | some (parts, _) => some (parts.getD 0 [], parts.getD 4 [])
  | none =>
    match Pattern.match? plain part with
    | some (parts, _) => some (parts.getD 0 [], parts.getD 0 [])
    | none => none

/-- The local name of the converter in the text between the braces of an import. -/
def converterIn? (body : Text) : Option Text :=
  (body.pieces ',').findSome? fun part =>
    match binding? part with
    | some (name, localName) => if name = Role.converter.name.toList then some localName else none
    | none => none

/-- The local name of the converter in a source: the **first** that an import gives. -/
def converter? (source : Text) : Option Text :=
  (Pattern.scan pattern source).1.findSome? fun seg => converterIn? (seg.part bodyIndex)

end UrlImport

/-! ## The path module -/

namespace Address

/-- What stands inside the parentheses of a call. -/
def isArgument (c : Char) : Bool := c != ')'

/-- The **legacy** shape; the name of the path module is part 1. -/
def legacy : Pattern :=
  [.word "`file://$\x7b".toList, .some isIdentifier, .word ".resolve(".toList, .some isArgument,
    .word ")\x7d`".toList]

/-- The **target** shape; the name of the path module is part 2. -/
def target : Pattern :=
  [.some isIdentifier, .word ['('], .some isIdentifier, .word ".resolve(".toList, .some isArgument,
    .word ")).href".toList]

/-- Any call of `resolve`; the name of what it is called on is part 0. -/
def call : Pattern := [.some isIdentifier, .word ".resolve(".toList]

/-- How a function makes its addresses. -/
def shape (code : Text) : Shape :=
  if (Pattern.search? legacy code).isSome then .legacy
  else if (Pattern.search? target code).isSome then .target
  else .unrecognized

/-- The local name of the path module.  The two shapes name it directly; a call of `resolve` on
something else is **only a fallback**. -/
def path? (code : Text) : Option Text :=
  match Pattern.search? legacy code with
  | some hit => some (hit.part 1)
  | none =>
    match Pattern.search? target code with
    | some hit => some (hit.part 2)
    | none => (Pattern.search? call code).map (·.part 0)

end Address

/-- The **names that a function of a source uses**. -/
def Aliases.ofRoutine (source : Text) (routine : Routine) : Aliases where
  path? := Address.path? routine.code
  converter? := UrlImport.converter? source
  shape := Address.shape routine.code

end BundlePatch
