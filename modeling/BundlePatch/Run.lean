import BundlePatch.Patch
import BundlePatch.Saving
import BundlePatch.Settings

/-!
# Run — patching a file, with a way back

A run backs its target up, reads it, patches the text and saves it.  Three stages follow one
another: `Run.prepare` touches only backups, `Run.analyse` touches nothing, and `Run.save` touches
the target, and only if the text has changed.  **Whatever fails, the backup is copied back** if there
is one, and the run ends with code 1.

What the system breaks off in a run is the saving, at most: the two copies, to the backup and back,
are made whenever they can be.  What either leaves otherwise is a matter of `Backup.create` and
`Backup.restore` alone.
-/

namespace BundlePatch

namespace Run

open Spoken

/-- What a run leaves: the files, what was said, and how it ended: with an exit code, or with a
fault that came up **on the way back** and that nobody handles. -/
structure Report where
  files : FileSystem
  said : List Notice
  ending : Except Fault Nat

/-- The exit code of the program: 1 for a fault that nobody handles. -/
def Report.code (report : Report) : Nat :=
  match report.ending with
  | .ok code => code
  | .error _ => 1

/-- The **first stage**: is there a target, and its backup.  A dry run makes none. -/
def prepare (fs : FileSystem) (now : Instant) (s : Settings) :
    FileSystem × Spoken Fault (Option Path) :=
  match fs.exists? s.target with
  | .error why => (fs, silent (.error (.disk why)))
  | .ok false => (fs, silent (.error (.targetMissing s.target)))
  | .ok true =>
    let found := Notice.dim s!"Target: {s.target}\n"
    if s.dryRun then
      (fs, ⟨[found, .step 1 "Dry run, skipping backup", .line ""], .ok none⟩)
    else
      let said := [found, .step 1 "Creating backup..."]
      match Backup.create fs s.target s.backupDir now with
      | (fs', .error why) => (fs', ⟨said, .error why⟩)
      | (fs', .ok backup) =>
        (fs', ⟨said ++ [.ok s!"Backup created: {backup}", .line ""], .ok (some backup)⟩)

/-- The **second stage**: reads and patches the text of the target. -/
def analyse (fs : FileSystem) (s : Settings) : Spoken Fault Patch.Outcome := do
  let source ← silent (fs.readSource s.target)
  say [.ok s!"File loaded ({source.length} chars)\n"]
  Patch.ofSource source s.context

/-- The **third stage**: saves a text that has changed, unless the run is dry. -/
def save (fs : FileSystem) (saver : Saver) (s : Settings) (outcome : Patch.Outcome) :
    FileSystem × Spoken Fault Unit :=
  let step := Notice.step 5 "Saving changes..."
  if s.dryRun then (fs, say [step, .info "Dry run, no files written"])
  else if !outcome.changed then
    (fs, say [step, .ok s!"No changes to write, {s.target} left untouched"])
  else
    match saver fs s.target outcome.content with
    | (fs', .error why) => (fs', ⟨[step], .error why⟩)
    | (fs', .ok ()) => (fs', say [step, .ok s!"Changes saved to {s.target}"])

/-- The way back: **copies the backup over the target**, if it still exists.  Its own faults are not
handled any more. -/
def rollBack (fs : FileSystem) (s : Settings) (backup? : Option Path) :
    FileSystem × Spoken Fault Unit :=
  match backup? with
  | none => (fs, say [])
  | some backup =>
    match fs.exists? backup with
    | .error why => (fs, silent (.error (.disk why)))
    | .ok false => (fs, say [])
    | .ok true =>
      let (fs', restored) := Backup.restore fs backup s.target
      (fs', do
        say [.line (Ink.bold "⟳" ++ " Rolling back changes...")]
        if ← restored then say [.ok "Rollback successful\n"])

/-- The end of a run that failed. -/
def failed (fs : FileSystem) (s : Settings) (backup? : Option Path) (said : List Notice)
    (why : Fault) : Report :=
  let (fs', rolled) := rollBack fs s backup?
  ⟨fs', said ++ Notice.fail s!"Error: {why.message}" :: rolled.said, rolled.result.map fun _ => 1⟩

/-- What is said at the end of a run that succeeded. -/
def farewell : List Notice :=
  [ .line ("\n" ++ Ink.bold "✓ LSP fix applied successfully!"),
    .dim "You may need to restart the CLI for changes to take effect.\n" ]

end Run

/-- **Patches a file.** -/
def Settings.run (fs : FileSystem) (now : Instant) (saver : Saver) (s : Settings) : Run.Report :=
  let (fs₁, prepared) := Run.prepare fs now s
  match prepared.result with
  | .error why => Run.failed fs₁ s none prepared.said why
  | .ok backup? =>
    let analysed := Run.analyse fs₁ s
    let said := prepared.said ++ analysed.said
    match analysed.result with
    | .error why => Run.failed fs₁ s backup? said why
    | .ok outcome =>
      let (fs₂, saved) := Run.save fs₁ saver s outcome
      match saved.result with
      | .error why => Run.failed fs₂ s backup? (said ++ saved.said) why
      | .ok () => ⟨fs₂, said ++ saved.said ++ Run.farewell, .ok 0⟩

end BundlePatch
