import BundlePatch.Run

/-!
# Program — from a command line to its end

A program run reads the command line, settles what is to be done and does it.  It **ends** in one of
three ways: with an exit code of its own, by leaving early because of what the command line says, or
with a fault that nobody handles.
-/

namespace BundlePatch

namespace Program

/-- How a program run ends. -/
inductive Ending where
  /-- With an exit code. -/
  | returned (code : Nat)
  /-- Early, after the help text or a complaint. -/
  | left (code : Nat)
  /-- With a fault. -/
  | crashed (why : Fault)

/-- What a program run leaves. -/
structure Report where
  files : FileSystem
  said : List Notice
  ending : Ending

/-- What is said when no target is named. -/
def unnamed : List Notice :=
  [ .fail s!"Error: {Fault.targetUnnamed.message}",
    .text .error Usage.usage,
    .text .error s!"Example: {Usage.sample}\n" ]

/-- The settings of the run that a command line asks for, if it asks for one. -/
def settings? (env : Environment) (arguments : List String) : Option Settings :=
  match Options.parse env.backupDir arguments with
  | .run options => (Settings.ofOptions env options).toOption
  | _ => none

/-- **Runs the program.** -/
def run (fs : FileSystem) (env : Environment) (now : Instant) (saver : Saver)
    (arguments : List String) : Report :=
  match Options.parse env.backupDir arguments with
  | .help => ⟨fs, [.text .output Usage.help], .left 0⟩
  | .misuse why => ⟨fs, Usage.complaint why, .left 1⟩
  | .run options =>
    let title := Notice.banner "LSP Fix - Anchor-Based Version"
    match Settings.ofOptions env options with
    | .error .targetUnnamed => ⟨fs, title :: unnamed, .returned 1⟩
    | .error why => ⟨fs, [title], .crashed why⟩
    | .ok settings =>
      let report := settings.run fs now saver
      let ending := match report.ending with
        | .ok code => .returned code
        | .error why => .crashed why
      ⟨report.files, title :: report.said, ending⟩

end Program

end BundlePatch
