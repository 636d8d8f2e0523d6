import BundlePatch.Preview

/-!
# Patch — from a source to its patched form

`Patch.apply` decides, for a function whose names are known, whether and how it is patched;
`Patch.ofSource` finds the function in a whole source first.  Both say what they do, and
`Patch.Outcome.status` says how it went.  **Only a patched outcome changes the text.**
-/

namespace BundlePatch

namespace Patch

/-- How a patch went. -/
inductive Status where
  /-- Templates were replaced. -/
  | patched
  /-- The function has the target shape. -/
  | alreadyPatched
  /-- The function has no shape that is known. -/
  | unrecognized
  /-- A name that the calls need is not known. -/
  | missingAliases
  /-- There is no template of the known form. -/
  | noOccurrences
  /-- A status that a caller made up. -/
  | other (name : String)
  deriving DecidableEq, Repr

namespace Status

/-- The name of a status. -/
def name : Status → String
  | .patched => "patched"
  | .alreadyPatched => "already-patched"
  | .unrecognized => "unrecognized"
  | .missingAliases => "missing-aliases"
  | .noOccurrences => "no-occurrences"
  | .other name => name

/-- The statuses that a patch can have by itself. -/
def all : List Status :=
  [.patched, .alreadyPatched, .unrecognized, .missingAliases, .noOccurrences]

/-- The status with a given name. -/
def ofName (s : String) : Status := (all.find? fun status => status.name = s).getD (.other s)

end Status

/-- The **outcome** of a patch: the text, how it went, and the replacements that were made. -/
structure Outcome where
  content : Text
  status : Status
  edits : List Edit := []
  deriving DecidableEq, Repr

/-- The number of replacements made. -/
def Outcome.applied (o : Outcome) : Nat :=
  if o.status = .patched then o.edits.length else 0

/-- Whether anything was replaced. -/
def Outcome.changed (o : Outcome) : Bool := 0 < o.applied

open Spoken

/-- The lines that list the roles with their names. -/
def roleLines (aliases : Aliases) : List Notice :=
  Role.required.map fun role =>
    let found := ((aliases.named? role).map String.ofList).getD "NOT FOUND"
    .line s!"  {role.name}: {found}"

/-- **Patches a function in its source.**  `report` says what is to be said of each replacement. -/
def apply (source : Text) (routine : Routine) (aliases : Aliases) (report : Edit → List Notice) :
    Spoken Fault Outcome :=
  match aliases.shape with
  | .target => do
    say [.ok "No patching needed (already fixed)"]
    return ⟨source, .alreadyPatched, []⟩
  | .unrecognized => do
    say [.warn "No patching done (unknown URI construction pattern)"]
    return ⟨source, .unrecognized, []⟩
  | .legacy =>
    if aliases.missingRoles ≠ [] then do
      say (.fail "Cannot apply patches: Missing required variables" :: roleLines aliases)
      return ⟨source, .missingAliases, []⟩
    else
      match Edit.plan routine aliases with
      | [] => do
        say [.warn "No old URI constructions found"]
        return ⟨source, .noOccurrences, []⟩
      | edits => do
        say (.dim s!"Found {edits.length} old URI construction(s)" :: edits.flatMap report)
        let code ← silent (Edit.compose routine edits)
        say [.ok s!"Patched {edits.length} URI construction(s)"]
        return ⟨source.sliceTo routine.start ++ (code ++ source.sliceFrom routine.stop),
          .patched, edits⟩

/-- What is said of the anchors of a source. -/
def anchorNotices (anchor : Anchor) (total : Nat) : List Notice :=
  .ok s!"Found return statement at position {anchor.start}" ::
    (if 1 < total then
      [.warn s!"{total - 1} more return statement(s) match the anchor; using the first"] else []) ++
    [.dim "Using bracket matching to find function boundaries..."]

/-- What is said of a function. -/
def routineNotices (routine : Routine) : List Notice :=
  [ .dim s!"Function ends at position {routine.stop - 1}",
    .ok s!"Found LSP function: {Ink.bold (String.ofList routine.name)}",
    .dim s!"Range: {routine.start} - {routine.stop} ({routine.stop - routine.start} chars)" ]

/-- What is said of a name. -/
def nameNotices (label : String) (name? : Option Text) : List Notice :=
  match name? with
  | none => []
  | some name => [.ok s!"{label} alias: {Ink.bold (String.ofList name)}"]

/-- What is said of a shape. -/
def shapeNotice : Shape → Notice
  | .legacy => .info "Found old URI construction pattern (needs patching)"
  | .target => .info "Found new URI construction pattern (already patched)"
  | .unrecognized => .warn "Unknown URI construction pattern"

/-- What is said of the names that a function uses. -/
def aliasNotices (aliases : Aliases) : List Notice :=
  nameNotices "pathToFileURL" (aliases.named? .converter) ++
    nameNotices "path module" (aliases.named? .path) ++ [shapeNotice aliases.shape]

/-- **Patches a source**: finds the anchor, the function around it and the names that it uses, and
patches it, with previews of the given width of context. -/
def ofSource (source : Text) (context : Int) : Spoken Fault Outcome := do
  say [.step 2 "Locating LSP function using return statement anchor..."]
  let (anchor, total) ← silent (Anchor.survey Anchor.fields source)
  say (anchorNotices anchor total)
  let routine ← silent (Routine.enclosing source anchor {})
  say (routineNotices routine)
  say [.step 3 "Extracting variable names from LSP function..."]
  let aliases := Aliases.ofRoutine source routine
  say (aliasNotices aliases)
  say [.step 4 "Applying patches..."]
  let outcome ← apply source routine aliases fun e => (e.preview source context).notices
  let summary := s!"Summary: {outcome.applied} patch(es) applied"
  say [.line ("\n" ++ Ink.bold summary)]
  return outcome

end Patch

end BundlePatch
