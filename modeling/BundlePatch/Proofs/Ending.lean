import BundlePatch.Program
import BundlePatch.Proofs.RunFiles

/-!
# Proofs/Ending — how a program run ends

A program run takes one of five courses (`Program.Course`).  On four of them it ends with code 0 or
1; on the fifth the options **cannot be settled** (`Settings.Unsettled`): a home directory is not
known, or the width of the context is no number.  Nobody handles that, and the run crashes
(`Program.run_orderly`).  Files change only where the target is there.
-/

namespace BundlePatch

variable {env : Environment} {options : Options} {p : Path} {why : Fault}

/-! ## Home directories -/

namespace Environment

/-- A path with a **home directory that is not to be had**, and the fault. -/
inductive Homeless (env : Environment) : Path → Fault → Prop
  /-- No name of a user holds a NUL. -/
  | nul {user : Text} {parts : List String} : '\x00' ∈ user →
      Homeless env { parts := String.ofList ('~' :: user) :: parts } (.disk .embeddedNul)
  /-- No home directory is known, or it begins with a tilde itself. -/
  | unknown {user : Text} {parts : List String} : '\x00' ∉ user →
      (∀ home, env.homeOf? (String.ofList user) = some home →
        ['~'] <+: (trimmed home).toList) →
      Homeless env { parts := String.ofList ('~' :: user) :: parts } .homeUnknown

theorem Homeless.cause (h : env.Homeless p why) :
    why = .disk .embeddedNul ∨ why = .homeUnknown := by
  cases h with
  | nul => exact .inl rfl
  | unknown => exact .inr rfl

/-- Only a path that **begins with a tilde** does not stand for itself. -/
theorem expand_cases (env : Environment) (p : Path) : env.expand p = .ok p ∨
    ∃ user parts, p = { parts := String.ofList ('~' :: user) :: parts } := by
  rw [expand]
  split
  next part parts hroot hparts =>
    split
    next user huser =>
      exact .inr ⟨user, parts, by rw [← huser, String.ofList_toList, ← hroot, ← hparts]⟩
    next => exact .inl rfl
  next => exact .inl rfl

/-- A tilde **needs a home**. -/
theorem expand_tilde_eq_error_iff {user : Text} {parts : List String} :
    env.expand { parts := String.ofList ('~' :: user) :: parts } = .error why ↔
      ('\x00' ∈ user ∧ .disk .embeddedNul = why) ∨
        ('\x00' ∉ user ∧ (∀ home, env.homeOf? (String.ofList user) = some home →
          ['~'] <+: (trimmed home).toList) ∧ .homeUnknown = why) := by
  by_cases hmem : '\x00' ∈ user
  · simp [expand, hmem]
  · cases hfound : env.homeOf? (String.ofList user) with
    | none => simp [expand, hmem, hfound]
    | some home =>
      by_cases htilde : ['~'] <+: (trimmed home).toList
      · simp [expand, hmem, hfound, htilde]
      · simp [expand, hmem, hfound, htilde]

/-- The faults that **a path can give**. -/
theorem expand_eq_error_iff : env.expand p = .error why ↔ env.Homeless p why := by
  constructor
  · intro h
    obtain hself | ⟨user, parts, rfl⟩ := expand_cases env p
    · rw [hself] at h
      cases h
    · obtain ⟨hmem, rfl⟩ | ⟨hmem, hhome, rfl⟩ := expand_tilde_eq_error_iff.1 h
      · exact .nul hmem
      · exact .unknown hmem hhome
  · intro h
    cases h with
    | nul hmem => exact expand_tilde_eq_error_iff.2 (.inl ⟨hmem, rfl⟩)
    | unknown hmem hhome => exact expand_tilde_eq_error_iff.2 (.inr ⟨hmem, hhome, rfl⟩)

end Environment

/-! ## Settings -/

/-- The target that options name; the **empty text** if they name none. -/
def Options.named (options : Options) : String := options.target?.getD ""

namespace Settings

/-- The **directory of backups** that options come to. -/
def directory (env : Environment) (options : Options) (target : Path) : Except Fault Path :=
  if options.backupDir = "" then .ok (Backup.defaultDirectory target)
  else env.expand (.ofString options.backupDir)

theorem directory_eq_error_iff {target : Path} : directory env options target = .error why ↔
    options.backupDir ≠ "" ∧ env.Homeless (.ofString options.backupDir) why := by
  rw [directory, ← Environment.expand_eq_error_iff]
  split_ifs with hgiven
  · simp [hgiven]
  · simp [hgiven]

/-- Options that **cannot be settled**, and the fault. -/
inductive Unsettled (env : Environment) (options : Options) : Fault → Prop
  /-- The target is in no home directory that is known. -/
  | target {why : Fault} : env.Homeless (.ofString options.named) why → Unsettled env options why
  /-- The directory of backups is in none. -/
  | backupDir {target : Path} {why : Fault} : env.expand (.ofString options.named) = .ok target →
      options.backupDir ≠ "" → env.Homeless (.ofString options.backupDir) why →
      Unsettled env options why
  /-- The width of the context is none. -/
  | context {target dir : Path} : env.expand (.ofString options.named) = .ok target →
      directory env options target = .ok dir → options.context? = none →
      Unsettled env options .contextUnset

theorem Unsettled.cause (h : Unsettled env options why) :
    why = .disk .embeddedNul ∨ why = .homeUnknown ∨ why = .contextUnset := by
  cases h with
  | target hpath | backupDir _ _ hpath => exact hpath.cause.imp_right .inl
  | context => exact .inr (.inr rfl)

theorem ofOptions_of_unnamed (h : options.named = "") :
    ofOptions env options = .error .targetUnnamed := by
  rw [Options.named] at h
  rw [ofOptions, h]
  rfl

/-- Once a target is named, options are settled **step by step**. -/
theorem ofOptions_of_named (h : options.named ≠ "") : ofOptions env options =
    env.expand (.ofString options.named) >>= fun target =>
      directory env options target >>= fun dir =>
        match options.context? with
        | none => .error .contextUnset
        | some context => .ok ⟨target, dir, options.dryRun, max 0 context⟩ := by
  rw [Options.named] at h ⊢
  simp only [ofOptions, if_neg h, directory]
  split_ifs <;> rfl

/-- The faults that **options can give** once a target is named. -/
theorem ofOptions_eq_error_iff (h : options.named ≠ "") :
    ofOptions env options = .error why ↔ Unsettled env options why := by
  rw [ofOptions_of_named h, bind_eq_error_iff, Environment.expand_eq_error_iff]
  constructor
  · rintro (hpath | ⟨target, htarget, hrest⟩)
    · exact .target hpath
    · obtain hdir | ⟨dir, hdir, hcontext⟩ := bind_eq_error_iff.1 hrest
      · obtain ⟨hgiven, hpath⟩ := directory_eq_error_iff.1 hdir
        exact .backupDir htarget hgiven hpath
      · split at hcontext
        next hnone =>
          obtain rfl := Except.error.inj hcontext
          exact .context htarget hdir hnone
        next => cases hcontext
  · intro hunsettled
    cases hunsettled with
    | target hpath => exact .inl hpath
    | @backupDir target why htarget hgiven hpath =>
      exact .inr ⟨target, htarget,
        bind_eq_error_iff.2 (.inl (directory_eq_error_iff.2 ⟨hgiven, hpath⟩))⟩
    | @context target dir htarget hdir hcontext =>
      exact .inr ⟨target, htarget, bind_eq_error_iff.2 (.inr ⟨dir, hdir, by rw [hcontext]⟩)⟩

end Settings

/-! ## A run with settings -/

namespace Run

variable {fs : FileSystem} {now : Instant} {s : Settings} {backup? : Option Path}

/-- A dry run **makes no backup**. -/
theorem prepare_of_dry (hdry : s.dryRun = true) : (prepare fs now s).1 = fs ∧
    ∀ backup?, (prepare fs now s).2.result = .ok backup? → backup? = none := by
  have hprepared := prepared fs now s
  generalize (prepare fs now s).1 = fs', (prepare fs now s).2.result = result at hprepared ⊢
  cases hprepared with
  | missing => exact ⟨rfl, nofun⟩
  | dry => exact ⟨rfl, fun backup? hnone => (Except.ok.inj hnone).symm⟩
  | failed _ hdry' | made _ hdry' =>
    rw [hdry] at hdry'
    cases hdry'

/-- The way back **has no faults of its own** when only a backup was made. -/
theorem rollBack_of_prepare (hprep : (prepare fs now s).2.result = .ok backup?) :
    (rollBack (prepare fs now s).1 s backup?).2.result = .ok () := by
  cases backup? with
  | none => rfl
  | some backup =>
    obtain ⟨spot, place, bytes, -, hstored⟩ := stored_of_prepare hprep
    exact (rollBack_exact hstored (.refl _ _) hstored.get?_spot_ne).2.2

/-- The whole text **can always be saved**. -/
theorem save_of_prepare {outcome : Patch.Outcome}
    (hprep : (prepare fs now s).2.result = .ok backup?)
    (hanalysed : (analyse (prepare fs now s).1 s).result = .ok outcome) :
    (save (prepare fs now s).1 .whole s outcome).2.result = .ok () := by
  cases hdry : s.dryRun with
  | true => exact (save_of_idle _ _ (.inl hdry)).2
  | false =>
    obtain ⟨backup, rfl⟩ := exists_backup hdry hprep
    obtain ⟨spot, place, bytes, -, hstored⟩ := stored_of_prepare hprep
    obtain ⟨source, hdecode, houtcome⟩ := (analyse_stored_iff hstored).1 hanalysed
    exact (save_whole hdry hstored hdecode houtcome).1

/-- A run with settings **ends with code 0 or 1**. -/
theorem exists_code (fs : FileSystem) (now : Instant) (s : Settings) :
    ∃ code ≤ 1, (s.run fs now .whole).ending = .ok code := by
  have hway := way fs now .whole s
  generalize (s.run fs now .whole).files = files, (s.run fs now .whole).ending = ending at hway ⊢
  cases hway with
  | unprepared => exact ⟨1, Nat.le_refl 1, rfl⟩
  | unpatched hprep _ => exact ⟨1, Nat.le_refl 1, by rw [rollBack_of_prepare hprep]; rfl⟩
  | unsaved hprep hanalysed hsaved =>
    rw [save_of_prepare hprep hanalysed] at hsaved
    cases hsaved
  | done => exact ⟨0, Nat.zero_le 1, rfl⟩

/-- A dry run **leaves all files as they are**, whatever saving would do. -/
theorem files_of_dry (saver : Saver) (hdry : s.dryRun = true) :
    (s.run fs now saver).files = fs := by
  obtain ⟨hfiles, hnone⟩ := @prepare_of_dry fs now s hdry
  have hway := way fs now saver s
  generalize (s.run fs now saver).files = files, (s.run fs now saver).ending = ending at hway ⊢
  cases hway with
  | unprepared => exact hfiles
  | unpatched hprep =>
    obtain rfl := hnone _ hprep
    exact hfiles
  | unsaved _ _ hsaved =>
    rw [(save_of_idle _ saver (.inl hdry)).2] at hsaved
    cases hsaved
  | done => exact (save_of_idle _ saver (.inl hdry)).1.trans hfiles

end Run

/-! ## A program run -/

namespace Program

variable {fs files : FileSystem} {now : Instant} {arguments : List String} {ending : Ending}

/-- The **courses that a program run can take**, each with the files that it leaves and with its
end. -/
inductive Course (fs : FileSystem) (env : Environment) (now : Instant) (arguments : List String) :
    FileSystem → Ending → Prop
  /-- Help is asked for. -/
  | help (hparse : Options.parse env.backupDir arguments = .help) :
      Course fs env now arguments fs (.left 0)
  /-- The command line is not understood. -/
  | misuse {why : Misuse} (hparse : Options.parse env.backupDir arguments = .misuse why) :
      Course fs env now arguments fs (.left 1)
  /-- No target is named. -/
  | unnamed {options : Options} (hparse : Options.parse env.backupDir arguments = .run options)
      (hnamed : options.named = "") : Course fs env now arguments fs (.returned 1)
  /-- The options cannot be settled. -/
  | unsettled {options : Options} {why : Fault}
      (hparse : Options.parse env.backupDir arguments = .run options)
      (hnamed : options.named ≠ "") (hwhy : Settings.Unsettled env options why) :
      Course fs env now arguments fs (.crashed why)
  /-- They can, and the run goes on. -/
  | settled {options : Options} {settings : Settings} {code : Nat}
      (hparse : Options.parse env.backupDir arguments = .run options)
      (hnamed : options.named ≠ "") (hsettings : Settings.ofOptions env options = .ok settings)
      (hending : (settings.run fs now .whole).ending = .ok code) :
      Course fs env now arguments (settings.run fs now .whole).files (.returned code)

theorem course (fs : FileSystem) (env : Environment) (now : Instant) (arguments : List String) :
    Course fs env now arguments (run fs env now .whole arguments).files
      (run fs env now .whole arguments).ending := by
  rw [run]
  cases hparse : Options.parse env.backupDir arguments with
  | help => exact .help hparse
  | misuse why => exact .misuse hparse
  | run options =>
    dsimp only
    by_cases hnamed : options.named = ""
    · rw [Settings.ofOptions_of_unnamed hnamed]
      exact .unnamed hparse hnamed
    · cases hsettings : Settings.ofOptions env options with
      | error why =>
        have hunsettled := (Settings.ofOptions_eq_error_iff hnamed).1 hsettings
        obtain rfl | rfl | rfl := hunsettled.cause
        · exact .unsettled hparse hnamed hunsettled
        · exact .unsettled hparse hnamed hunsettled
        · exact .unsettled hparse hnamed hunsettled
      | ok settings =>
        obtain ⟨code, -, hending⟩ := Run.exists_code fs now settings
        dsimp only
        rw [hending]
        exact .settled hparse hnamed hsettings hending

theorem settings?_eq_some_iff {settings : Settings} : settings? env arguments = some settings ↔
    ∃ options, Options.parse env.backupDir arguments = .run options ∧
      Settings.ofOptions env options = .ok settings := by
  rw [settings?]
  cases hparse : Options.parse env.backupDir arguments with
  | help | misuse => simp
  | run options =>
    cases hsettings : Settings.ofOptions env options with
    | error why => simp [Except.toOption, hsettings]
    | ok settings => simp [Except.toOption, hsettings]

/-- Without settings **no file is touched**. -/
theorem Course.idle (h : Course fs env now arguments files ending)
    (hnone : settings? env arguments = none) : files = fs := by
  cases h with
  | help | misuse | unnamed | unsettled => rfl
  | settled hparse _ hsettings _ =>
    rw [settings?_eq_some_iff.2 ⟨_, hparse, hsettings⟩] at hnone
    cases hnone

/-- What a command line that **asks for a run** comes to. -/
theorem Course.of_parse (h : Course fs env now arguments files ending)
    (hparse : Options.parse env.backupDir arguments = .run options) :
    (options.named = "" ∧ files = fs ∧ ending = .returned 1) ∨
      (options.named ≠ "" ∧ ∃ why, Settings.Unsettled env options why ∧
        ending = .crashed why) ∨
      ∃ settings code, Settings.ofOptions env options = .ok settings ∧
        (settings.run fs now .whole).ending = .ok code ∧
        files = (settings.run fs now .whole).files ∧ ending = .returned code := by
  cases h with
  | help hparse' | misuse hparse' =>
    rw [hparse] at hparse'
    cases hparse'
  | unnamed hparse' hnamed =>
    obtain rfl := Options.Request.run.inj (hparse.symm.trans hparse')
    exact .inl ⟨hnamed, rfl, rfl⟩
  | unsettled hparse' hnamed hwhy =>
    obtain rfl := Options.Request.run.inj (hparse.symm.trans hparse')
    exact .inr (.inl ⟨hnamed, _, hwhy, rfl⟩)
  | settled hparse' _ hsettings hending =>
    obtain rfl := Options.Request.run.inj (hparse.symm.trans hparse')
    exact .inr (.inr ⟨_, _, hsettings, hending, rfl, rfl⟩)

/-- With settings, **the run goes on** to its end. -/
theorem Course.of_settings (h : Course fs env now arguments files ending) {settings : Settings}
    (hsettings : settings? env arguments = some settings) :
    files = (settings.run fs now .whole).files ∧
      ∃ code, (settings.run fs now .whole).ending = .ok code ∧ ending = .returned code := by
  obtain ⟨options, hparse, hsettled⟩ := settings?_eq_some_iff.1 hsettings
  obtain ⟨hnamed, -⟩ | ⟨hnamed, why, hwhy, -⟩ | ⟨settings', code, hsettled', hending, hfiles,
    hend⟩ := h.of_parse hparse
  · rw [Settings.ofOptions_of_unnamed hnamed] at hsettled
    cases hsettled
  · rw [(Settings.ofOptions_eq_error_iff hnamed).2 hwhy] at hsettled
    cases hsettled
  · obtain rfl := Except.ok.inj (hsettled.symm.trans hsettled')
    exact ⟨hfiles, code, hending, hend⟩

/-- Without a target **the run fails at once**. -/
theorem Course.of_unnamed (h : Course fs env now arguments files ending)
    (hparse : Options.parse env.backupDir arguments = .run options) (hnamed : options.named = "") :
    files = fs ∧ ending = .returned 1 := by
  obtain ⟨-, hend⟩ | ⟨hnamed', -⟩ | ⟨settings, code, hsettled, -⟩ := h.of_parse hparse
  · exact hend
  · exact absurd hnamed hnamed'
  · rw [Settings.ofOptions_of_unnamed hnamed] at hsettled
    cases hsettled

/-- A run **crashes** where options with a target cannot be settled. -/
theorem Course.crashed_iff (h : Course fs env now arguments files ending) : ending = .crashed why ↔
    ∃ options, Options.parse env.backupDir arguments = .run options ∧ options.named ≠ "" ∧
      Settings.Unsettled env options why := by
  constructor
  · rintro rfl
    cases h with
    | unsettled hparse hnamed hwhy => exact ⟨_, hparse, hnamed, hwhy⟩
  · rintro ⟨options, hparse, hnamed, hwhy⟩
    have herror := (Settings.ofOptions_eq_error_iff hnamed).2 hwhy
    obtain ⟨hnamed', -⟩ | ⟨-, why', hwhy', rfl⟩ | ⟨settings, code, hsettled, -⟩ :=
      h.of_parse hparse
    · exact absurd hnamed' hnamed
    · rw [(Settings.ofOptions_eq_error_iff hnamed).2 hwhy'] at herror
      rw [Except.error.inj herror]
    · cases hsettled.symm.trans herror

theorem Course.code (h : Course fs env now arguments files ending) :
    (∃ code ≤ 1, ending = .returned code ∨ ending = .left code) ∨
      ∃ why, ending = .crashed why := by
  cases h with
  | help => exact .inl ⟨0, Nat.zero_le 1, .inr rfl⟩
  | misuse => exact .inl ⟨1, Nat.le_refl 1, .inr rfl⟩
  | unnamed => exact .inl ⟨1, Nat.le_refl 1, .inl rfl⟩
  | unsettled => exact .inr ⟨_, rfl⟩
  | @settled _ settings _ _ _ _ hending =>
    obtain ⟨code, hcode, hending'⟩ := Run.exists_code fs now settings
    obtain rfl := Except.ok.inj (hending.symm.trans hending')
    exact .inl ⟨_, hcode, .inl rfl⟩

/-- What holds of **every program run**. -/
structure Orderly (fs : FileSystem) (env : Environment) (arguments : List String)
    (report : Report) : Prop where
  /-- It ends with code 0 or 1, or it crashes. -/
  code : (∃ code ≤ 1, report.ending = .returned code ∨ report.ending = .left code) ∨
    ∃ why, report.ending = .crashed why
  /-- It crashes where options with a target cannot be settled, and there only. -/
  crashed_iff : ∀ why, report.ending = .crashed why ↔
    ∃ options, Options.parse env.backupDir arguments = .run options ∧ options.named ≠ "" ∧
      Settings.Unsettled env options why
  /-- It touches no file when it crashes… -/
  crashed : ∀ why, report.ending = .crashed why → report.files = fs
  /-- …or leaves early… -/
  left : ∀ code, report.ending = .left code → report.files = fs
  /-- …or is dry… -/
  dry : ∀ settings, settings? env arguments = some settings → settings.dryRun = true →
    report.files = fs
  /-- …or no target is named… -/
  unnamed : ∀ options, Options.parse env.backupDir arguments = .run options →
    options.named = "" → report.files = fs ∧ report.ending = .returned 1
  /-- …or the target is not there. -/
  missing : ∀ settings, settings? env arguments = some settings →
    fs.exists? settings.target ≠ .ok true → report.files = fs ∧ report.ending = .returned 1

/-- **Every program run ends with code 0 or 1, unless its options cannot be settled.** -/
theorem run_orderly (fs : FileSystem) (env : Environment) (now : Instant)
    (arguments : List String) : Orderly fs env arguments (run fs env now .whole arguments) := by
  have hcourse := course fs env now arguments
  generalize run fs env now .whole arguments = report at hcourse ⊢
  have hfiles : (∀ code, report.ending ≠ .returned code) → report.files = fs := fun hne => by
    cases hsettings : settings? env arguments with
    | none => exact hcourse.idle hsettings
    | some settings =>
      obtain ⟨-, code, -, hreturned⟩ := hcourse.of_settings hsettings
      exact absurd hreturned (hne code)
  constructor
  case code => exact hcourse.code
  case crashed_iff => exact fun why => hcourse.crashed_iff
  case crashed => exact fun why hwhy => hfiles fun code hcode => by cases hwhy.symm.trans hcode
  case left => exact fun code hleft => hfiles fun code' hcode => by cases hleft.symm.trans hcode
  case dry =>
    intro settings hsettings hdry
    rw [(hcourse.of_settings hsettings).1, Run.files_of_dry .whole hdry]
  case unnamed => exact fun options hparse hnamed => hcourse.of_unnamed hparse hnamed
  case missing =>
    intro settings hsettings hmissing
    obtain ⟨hrun, code, hending, hreturned⟩ := hcourse.of_settings hsettings
    obtain ⟨hkept, hfailed⟩ := @Run.run_of_missing fs now settings .whole hmissing
    obtain rfl := Except.ok.inj (hending.symm.trans hfailed)
    exact ⟨hrun.trans hkept, hreturned⟩

/-- A target that is not there, **in the home directory** of the user. -/
theorem run_orderly_sample :
    (run (Run.sampleFiles [0x61]) { home? := some "home" } Backup.sampleInstant .whole
        ["~/cli.js"]).files = Run.sampleFiles [0x61] ∧
      (run (Run.sampleFiles [0x61]) { home? := some "home" } Backup.sampleInstant .whole
        ["~/cli.js"]).ending = .returned 1 :=
  (run_orderly _ _ _ _).missing ⟨{ parts := ["home", "cli.js"] },
    { parts := ["home", "backups"] }, false, 80⟩ (by decide +kernel) (by decide +kernel)

/-- The home directory of **a user who does not exist**. -/
theorem not_run_ends : ¬ ∀ (fs : FileSystem) (env : Environment) (now : Instant)
    (arguments : List String), ∃ code ≤ 1,
      (run fs env now .whole arguments).ending = .returned code ∨
        (run fs env now .whole arguments).ending = .left code := by
  intro h
  obtain ⟨code, -, hending⟩ :=
    h {} { home? := some "home" } Backup.sampleInstant ["~nosuchuser_zz/cli.js"]
  have hcrashed : (run {} { home? := some "home" } Backup.sampleInstant .whole
      ["~nosuchuser_zz/cli.js"]).ending = .crashed .homeUnknown := rfl
  rw [hcrashed] at hending
  obtain hending | hending := hending
  · cases hending
  · cases hending

end Program

end BundlePatch
