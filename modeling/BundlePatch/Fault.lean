import BundlePatch.File.Error
import BundlePatch.File.Path
import BundlePatch.File.Utf8

/-!
# Fault — everything that can end a patch run

A `Fault` is a cause, with what is needed to word it.  `Fault.message` words all of them, and
`Fault.kind?` sorts those that a run reports by itself into a small tree of kinds, in which
`Kind.IsA` says what counts as what.  Faults without a kind are misuses, not outcomes of a run.
-/

namespace BundlePatch

/-! ## Kinds -/

/-- A kind of fault. -/
inductive Kind where
  /-- Any fault that a run reports. -/
  | patch
  /-- The command line is not usable. -/
  | argument
  /-- There is no file to patch. -/
  | target
  /-- A backup, the reading or the writing of a file failed. -/
  | storage
  /-- The text that marks the function is not there. -/
  | anchor
  /-- The function around the anchor is not as expected. -/
  | boundary
  /-- The brackets of that function do not pair up. -/
  | bracket
  deriving DecidableEq, Repr

namespace Kind

/-- The next wider kind. -/
def wider? : Kind → Option Kind
  | .patch => none
  | .bracket => some .boundary
  | _ => some .patch

/-- Whether a kind **is one of** another: the same, or the wider kind is. -/
def isA (a b : Kind) : Bool :=
  a == b ||
  match wider? a with
  | none => false
  | some w => w == b || wider? w == some b

end Kind

/-! ## Faults -/

/-- The cause that ends a run. -/
inductive Fault where
  /-- No file to patch is named on the command line. -/
  | targetUnnamed
  /-- The file to patch does not exist. -/
  | targetMissing (target : Path)
  /-- No backup could be made. -/
  | backupFailed (target : Path) (why : FileError)
  /-- A file could not be read as a text, for the reason given in words. -/
  | unreadable (file : Path) (why : String)
  /-- A file could not be written. -/
  | unwritable (file : Path) (why : FileError)
  /-- Saving the result broke off with this message. -/
  | saveBroken (message : String)
  /-- No return statement with the expected fields. -/
  | anchorMissing
  /-- No bracket closes the function. -/
  | closingMissing
  /-- No bracket opens the function. -/
  | openingMissing
  /-- No function header in front of the opening bracket. -/
  | headerMissing
  /-- The function found does not hold the anchor. -/
  | anchorOutside (name : Text) (start stop : Int)
  /-- The text of the function holds more brackets of one kind than of the other. -/
  | unbalanced (name : Text)
  /-- An edit does not fit the text, or overlaps the one before it. -/
  | staleEdit (position : Int)
  /-- A position outside the text was looked at. -/
  | beyondText
  /-- A position that no index can hold was looked at. -/
  | beyondIndex
  /-- A search was to end at a position that no index can hold. -/
  | endBeyondIndex
  /-- There is no shape of this name. -/
  | unknownShape (name : String)
  /-- The home directory that a path begins with is not known. -/
  | homeUnknown
  /-- The width of the context was given as an option without a value. -/
  | contextUnset
  /-- An operation on files failed outside of any step that would explain it. -/
  | disk (why : FileError)
  deriving DecidableEq, Repr

namespace Fault

/-- The **wording** of a fault. -/
def message : Fault → String
  | .targetUnnamed => "CLI file path is required"
  | .targetMissing target => s!"CLI file not found: {target}"
  | .backupFailed target why => s!"Could not create backup of {target}: {why.message}"
  | .unreadable file why => s!"Could not read {file}: {why}"
  | .unwritable file why => s!"Could not write {file}: {why.message}"
  | .saveBroken message => message
  | .anchorMissing => "Could not find LSP function return statement"
  | .closingMissing => "Could not find function closing brace after return statement"
  | .openingMissing => "Bracket mismatch: could not find function start"
  | .headerMissing => "Could not find function declaration before opening brace"
  | .anchorOutside name start stop =>
    s!"Resolved function {String.ofList name} ({start}-{stop}) does not contain the anchor"
  | .unbalanced name => s!"Function {String.ofList name} has unbalanced braces"
  | .staleEdit position => s!"Stale or overlapping patch operation at {position}"
  | .beyondText => "string index out of range"
  | .beyondIndex => "cannot fit 'int' into an index-sized integer"
  | .endBeyondIndex => "Python int too large to convert to C ssize_t"
  | .unknownShape name => s!"{quoted name} is not a valid UriShape"
  | .homeUnknown => "Could not determine home directory."
  | .contextUnset => "'>' not supported between instances of 'list' and 'int'"
  | .disk why => why.message

/-- The **kind** of a fault; none if it is a misuse. -/
def kind? : Fault → Option Kind
  | .targetUnnamed => some .argument
  | .targetMissing _ => some .target
  | .backupFailed .. | .unreadable .. | .unwritable .. | .saveBroken _ => some .storage
  | .anchorMissing => some .anchor
  | .closingMissing | .headerMissing | .anchorOutside .. => some .boundary
  | .openingMissing | .unbalanced _ => some .bracket
  | .staleEdit _ => some .patch
  | .beyondText | .beyondIndex | .endBeyondIndex => none
  | .unknownShape _ | .homeUnknown | .contextUnset | .disk _ => none

end Fault

/-! ## Computations that may fail -/

/-- Two steps give a value when **both do**. -/
theorem bind_eq_ok_iff {ε α β : Type} {x : Except ε α} {f : α → Except ε β} {b : β} :
    (x >>= f) = .ok b ↔ ∃ a, x = .ok a ∧ f a = .ok b := by
  cases x <;> simp [bind, Except.bind]

/-- …and fail where **one of them** does. -/
theorem bind_eq_error_iff {ε α β : Type} {x : Except ε α} {f : α → Except ε β} {e : ε} :
    (x >>= f) = .error e ↔ x = .error e ∨ ∃ a, x = .ok a ∧ f a = .error e := by
  cases x <;> simp [bind, Except.bind]

/-- Wording a failure anew **does not touch the value**. -/
@[simp] theorem mapError_eq_ok_iff {ε ε' α : Type} {x : Except ε α} {f : ε → ε'} {a : α} :
    x.mapError f = .ok a ↔ x = .ok a := by
  cases x with
  | error e => exact ⟨nofun, nofun⟩
  | ok b => exact ⟨fun h => congrArg _ (Except.ok.inj h), fun h => congrArg _ (Except.ok.inj h)⟩

theorem mapError_eq_error_iff {ε ε' α : Type} {x : Except ε α} {f : ε → ε'} {e' : ε'} :
    x.mapError f = .error e' ↔ ∃ e, x = .error e ∧ f e = e' := by
  cases x with
  | ok a => exact ⟨nofun, nofun⟩
  | error e =>
    refine ⟨fun h => ⟨e, rfl, Except.error.inj h⟩, ?_⟩
    rintro ⟨_, ⟨⟩, rfl⟩
    rfl

end BundlePatch
