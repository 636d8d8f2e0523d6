import BundlePatch.Proofs.Restoring
import BundlePatch.Proofs.RunFiles

/-!
# Proofs/History — one target, run after run

A history is a list of attempts on one target, each with its own clock, directory of backups and way
to save.  Whatever the attempts do to the target, **no backup is ever touched again**
(`History.backups_safe`): a run puts files only at its target, directly below it, and where nothing
stood (`FileSystem.Keeps`), and a backup stands at none of these places.
-/

namespace BundlePatch

open FileSystem Backup

/-! ## All but a spot and what is in it -/

namespace FileSystem

variable {fs fs' fs'' : FileSystem} {p : Path} {loc place spot : Location} {bytes : List UInt8}

/-- All directories stay, but for **one spot**, and all files, but for that spot and those directly
in it. -/
structure Keeps (spot : Location) (fs fs' : FileSystem) : Prop where
  cwd : fs'.cwd = fs.cwd
  directory : ∀ loc, loc ≠ spot → fs.get? loc = some .directory → fs'.get? loc = some .directory
  file : ∀ loc bytes, loc ≠ spot → loc.dropLast ≠ spot → fs.get? loc = some (.file bytes) →
    fs'.get? loc = some (.file bytes)

theorem Grows.keeps (h : fs.Grows fs') (spot : Location) : Keeps spot fs fs' where
  cwd := h.cwd
  directory loc _ hget := h.get?_eq loc .directory hget
  file loc bytes _ _ hget := h.get?_eq loc (.file bytes) hget

theorem SameOff.keeps (h : SameOff spot fs fs') : Keeps spot fs fs' where
  cwd := h.cwd
  directory loc hloc hget := (h.get?_eq loc hloc).trans hget
  file loc _ hloc _ hget := (h.get?_eq loc hloc).trans hget

namespace Keeps

theorem refl (spot : Location) (fs : FileSystem) : Keeps spot fs fs := (Grows.refl fs).keeps spot

theorem trans (h : Keeps spot fs fs') (h' : Keeps spot fs' fs'') : Keeps spot fs fs'' where
  cwd := h'.cwd.trans h.cwd
  directory loc hloc hget := h'.directory loc hloc (h.directory loc hloc hget)
  file loc bytes hloc hdrop hget := h'.file loc bytes hloc hdrop (h.file loc bytes hloc hdrop hget)

theorem put (hplace : place = spot ∨ place.dropLast = spot)
    (hget : fs.get? place ≠ some .directory) (bytes : List UInt8) :
    Keeps spot fs (fs.put place (.file bytes)) where
  cwd := rfl
  directory loc _ hloc := by
    rw [get?_put (ne_nil_of_get? hget), if_neg ?_, hloc]
    rintro rfl
    exact hget hloc
  file loc bytes' hspot hdrop hloc := by
    rw [get?_put (ne_nil_of_get? hget), if_neg ?_, hloc]
    rintro rfl
    exact hplace.elim hspot hdrop

theorem follow_eq (h : Keeps spot fs fs') (hspot : fs.get? spot ≠ some .directory)
    (hfollow : fs.follow p = .ok loc) : fs'.follow p = .ok loc :=
  follow_of_directories h.cwd
    (fun loc hloc => h.directory loc (fun heq => hspot (heq ▸ hloc)) hloc) hfollow

end Keeps

/-- Putting a file where there is no directory **changes no way**. -/
theorem follow_put (hget : fs.get? place ≠ some .directory) (bytes : List UInt8)
    (hfollow : fs.follow p = .ok loc) : (fs.put place (.file bytes)).follow p = .ok loc :=
  (SameOff.put (ne_nil_of_get? hget) (.file bytes)).follow_eq hget hfollow

end FileSystem

/-! ## One run -/

namespace Run

variable {fs files : FileSystem} {now : Instant} {s : Settings} {saver : Saver}
  {backup? : Option Path} {outcome : Patch.Outcome} {spot : Location}

theorem prepare_grows (fs : FileSystem) (now : Instant) (s : Settings) :
    fs.Grows (prepare fs now s).1 := by
  by_cases hmade : ∃ backup, (prepare fs now s).2.result = .ok (some backup)
  · obtain ⟨backup, hprep⟩ := hmade
    obtain ⟨_, _, _, -, hstored⟩ := stored_of_prepare hprep
    exact hstored.grows
  · exact (adds_of_prepare fun backup hprep => hmade ⟨backup, hprep⟩).grows

theorem restore_keeps {backup : Path} (hbase : backup.baseText ≠ "..")
    (hfollow : files.follow s.target = .ok spot) :
    Keeps spot files (restore files backup s.target).1 ∧
      (restore files backup s.target).1.follow s.target = .ok spot := by
  by_cases htrue : (restore files backup s.target).2.result = .ok true
  · obtain ⟨-, fs', hcopy, hfiles⟩ := restore_eq_true_iff.1 htrue
    obtain ⟨place, bytes, hplace, hget, rfl⟩ := exists_eq_put_of_copy hcopy hfollow hbase
    rw [hfiles]
    exact ⟨.put hplace hget bytes, follow_put hget bytes hfollow⟩
  · obtain hfiles | ⟨b, hnone, -⟩ := restore_files htrue
    · rw [hfiles]
      exact ⟨.refl spot files, hfollow⟩
    · cases hnone

/-- The way back **keeps all files** but the target, or one in it. -/
theorem rollBack_keeps (hbase : ∀ backup ∈ backup?, backup.baseText ≠ "..")
    (hfollow : files.follow s.target = .ok spot) :
    Keeps spot files (rollBack files s backup?).1 ∧
      (rollBack files s backup?).1.follow s.target = .ok spot := by
  cases backup? with
  | none => exact ⟨.refl spot files, hfollow⟩
  | some backup =>
    rw [rollBack]
    dsimp only
    split
    next => exact ⟨.refl spot files, hfollow⟩
    next => exact ⟨.refl spot files, hfollow⟩
    next => exact restore_keeps (hbase backup rfl) hfollow

/-- Saving **keeps all files** but the target. -/
theorem save_keeps (hfollow : fs.follow s.target = .ok spot)
    (hanalysed : (analyse fs s).result = .ok outcome)
    (htouch : saver.TouchesOnly fs s.target outcome.content) :
    Keeps spot fs (save fs saver s outcome).1 ∧
      (save fs saver s outcome).1.follow s.target = .ok spot := by
  by_cases hidle : s.dryRun = true ∨ outcome.changed = false
  · rw [(save_of_idle fs saver hidle).1]
    exact ⟨.refl spot fs, hfollow⟩
  · obtain ⟨hdry, hchanged⟩ := not_or.1 hidle
    rw [(save_of_changed fs saver (eq_false_of_ne_true hdry) (eq_true_of_ne_false hchanged)).1]
    obtain ⟨source, hsource, -⟩ := analyse_eq_ok_iff.1 hanalysed
    obtain ⟨-, bytes, hread, -⟩ := readSource_eq_ok_iff.1 hsource
    obtain ⟨spot', hstat⟩ := read_eq_ok_iff.1 hread
    obtain rfl := Except.ok.inj (hfollow.symm.trans (stat_eq_ok_iff.1 hstat).1)
    have hoff := htouch spot hfollow
    exact ⟨hoff.keeps, hoff.follow_eq (get?_ne_of_stat hstat) hfollow⟩

/-- What happens **once the backup is made**. -/
theorem run_keeps (hfollow : fs.follow s.target = .ok spot)
    (htouch : ∀ content, saver.TouchesOnly (prepare fs now s).1 s.target content) :
    Keeps spot (prepare fs now s).1 (s.run fs now saver).files ∧
      (s.run fs now saver).files.follow s.target = .ok spot := by
  have hprepared := (prepare_grows fs now s).follow_eq hfollow
  have hbase : ∀ backup?, (prepare fs now s).2.result = .ok backup? →
      ∀ backup ∈ backup?, backup.baseText ≠ ".." := by
    rintro _ hprep backup rfl
    obtain ⟨_, _, _, -, hstored⟩ := stored_of_prepare hprep
    exact hstored.baseText_ne
  have hway := way fs now saver s
  generalize (s.run fs now saver).files = files, (s.run fs now saver).ending = ending at hway ⊢
  cases hway with
  | unprepared hprep => exact ⟨.refl spot _, hprepared⟩
  | unpatched hprep hanalysed => exact rollBack_keeps (hbase _ hprep) hprepared
  | unsaved hprep hanalysed hsaved =>
    obtain ⟨hkeeps, hsaved⟩ := save_keeps hprepared hanalysed (htouch _)
    obtain ⟨hkeeps', hback⟩ := rollBack_keeps (hbase _ hprep) hsaved
    exact ⟨hkeeps.trans hkeeps', hback⟩
  | done hprep hanalysed hsaved => exact save_keeps hprepared hanalysed (htouch _)

end Run

/-! ## Run after run -/

/-- An **attempt** on a target: all that a run of it is given. -/
structure Attempt where
  now : Instant
  backupDir : Path
  dryRun : Bool := false
  context : Int := Preview.defaultContext
  saver : Saver := .whole

namespace Attempt

/-- The settings of an attempt on a given target. -/
def settings (a : Attempt) (target : Path) : Settings :=
  ⟨target, a.backupDir, a.dryRun, a.context⟩

/-- The files that an attempt leaves. -/
def files (a : Attempt) (target : Path) (fs : FileSystem) : FileSystem :=
  ((a.settings target).run fs a.now a.saver).files

/-- The backup that an attempt makes, if it makes one. -/
def made? (a : Attempt) (target : Path) (fs : FileSystem) : Option Path :=
  Run.made? fs a.now (a.settings target)

/-- What an attempt saves, or fails to save, **touches only the target**. -/
def Tame (a : Attempt) (target : Path) (fs : FileSystem) : Prop :=
  ∀ content, a.saver.TouchesOnly (Run.prepare fs a.now (a.settings target)).1 target content

end Attempt

namespace History

variable {fs fs' : FileSystem} {target backup : Path} {spot place : Location} {bytes : List UInt8}
  {a : Attempt} {attempts : List Attempt}

/-- The files after some attempts. -/
def after (target : Path) : FileSystem → List Attempt → FileSystem
  | fs, [] => fs
  | fs, a :: attempts => after target (a.files target fs) attempts

/-- Every attempt **touches only the target**. -/
def Tame (target : Path) : FileSystem → List Attempt → Prop
  | _, [] => True
  | fs, a :: attempts => a.Tame target fs ∧ Tame target (a.files target fs) attempts

/-- A backup, with the files **before and after** the attempt that made it. -/
structure Record where
  backup : Path
  before : FileSystem
  after : FileSystem

/-- The **backups that were made**, in order. -/
def records (target : Path) : FileSystem → List Attempt → List Record
  | _, [] => []
  | fs, a :: attempts =>
    (a.made? target fs).toList.map (⟨·, fs, a.files target fs⟩) ++
      records target (a.files target fs) attempts

variable {r : Record}

/-- A backup is **safe** at a place: it keeps its bytes there, whatever happens at the spot and in
it. -/
def Safe (spot : Location) (backup : Path) (place : Location) (bytes : List UInt8)
    (fs : FileSystem) : Prop :=
  ∀ fs', Keeps spot fs fs' → fs'.stat backup = .ok (place, .file bytes)

theorem Safe.of_keeps (h : Safe spot backup place bytes fs) (hkeeps : Keeps spot fs fs') :
    Safe spot backup place bytes fs' := fun fs'' hkeeps' => h fs'' (hkeeps.trans hkeeps')

theorem Safe.stat_eq (h : Safe spot backup place bytes fs) :
    fs.stat backup = .ok (place, .file bytes) := h fs (.refl spot fs)

theorem Safe.read_eq (h : Safe spot backup place bytes fs) : fs.read backup = .ok bytes :=
  read_eq_ok_iff.2 ⟨place, h.stat_eq⟩

theorem safe_of_stored {dir : Path} {stored : FileSystem}
    (h : Stored target dir backup spot place bytes fs stored) :
    Safe spot backup place bytes stored := by
  intro fs' hkeeps
  obtain ⟨hfollow, hget⟩ := stat_eq_ok_iff.1 h.stat_backup
  exact stat_eq_ok_iff.2 ⟨hkeeps.follow_eq h.get?_spot_ne hfollow,
    hkeeps.file place bytes h.ne h.dropLast_ne hget⟩

/-- **One attempt**: its backup has a place of its own, the bytes of the target, and is safe. -/
theorem exists_safe (hmade : a.made? target fs = some backup) (htame : a.Tame target fs)
    (hfollow : fs.follow target = .ok spot) : ∃ place bytes, fs.get? place = none ∧
      fs.read target = .ok bytes ∧ Safe spot backup place bytes (a.files target fs) := by
  have hprep := Run.made?_eq_some_iff.1 hmade
  obtain ⟨spot', place, bytes, hstat, hstored⟩ := Run.stored_of_prepare hprep
  obtain rfl := Except.ok.inj (hfollow.symm.trans (stat_eq_ok_iff.1 hstat).1)
  refine ⟨place, bytes, hstored.free, read_eq_ok_iff.2 ⟨spot, hstat⟩, ?_⟩
  exact (safe_of_stored hstored).of_keeps (Run.run_keeps (s := a.settings target) hfollow htame).1

theorem files_keeps (htame : a.Tame target fs) (hfollow : fs.follow target = .ok spot) :
    Keeps spot fs (a.files target fs) ∧ (a.files target fs).follow target = .ok spot := by
  obtain ⟨hkeeps, hfollow'⟩ := Run.run_keeps (s := a.settings target) hfollow htame
  exact ⟨((Run.prepare_grows fs a.now (a.settings target)).keeps spot).trans hkeeps, hfollow'⟩

theorem after_keeps (htame : Tame target fs attempts) (hfollow : fs.follow target = .ok spot) :
    Keeps spot fs (after target fs attempts) := by
  induction attempts generalizing fs with
  | nil => exact .refl spot fs
  | cons a attempts ih =>
    obtain ⟨hkeeps, hfollow'⟩ := files_keeps htame.1 hfollow
    exact hkeeps.trans (ih htame.2 hfollow')

theorem mem_records_cons : r ∈ records target fs (a :: attempts) ↔
    (∃ backup, a.made? target fs = some backup ∧ r = ⟨backup, fs, a.files target fs⟩) ∨
      r ∈ records target (a.files target fs) attempts := by
  simp only [records, List.mem_append, List.mem_map, Option.mem_toList, eq_comm]

/-- What is known of **each backup** in a history. -/
theorem exists_safe_of_mem_records (htame : Tame target fs attempts)
    (hfollow : fs.follow target = .ok spot) (hr : r ∈ records target fs attempts) :
    Keeps spot fs r.before ∧ Keeps spot r.after (after target fs attempts) ∧
      ∃ place bytes, r.before.get? place = none ∧ r.before.read target = .ok bytes ∧
        Safe spot r.backup place bytes r.after := by
  induction attempts generalizing fs with
  | nil => cases hr
  | cons a attempts ih =>
    obtain ⟨hkeeps, hfollow'⟩ := files_keeps htame.1 hfollow
    obtain ⟨backup, hmade, rfl⟩ | hrest := mem_records_cons.1 hr
    · exact ⟨.refl spot fs, after_keeps htame.2 hfollow', exists_safe hmade htame.1 hfollow⟩
    · obtain ⟨hbefore, hafter, hsafe⟩ := ih htame.2 hfollow' hrest
      exact ⟨hkeeps.trans hbefore, hafter, hsafe⟩

/-- **Later backups** stand elsewhere. -/
theorem pairwise_records (htame : Tame target fs attempts)
    (hfollow : fs.follow target = .ok spot) : (records target fs attempts).Pairwise fun r r' =>
      (after target fs attempts).follow r.backup ≠ (after target fs attempts).follow r'.backup := by
  induction attempts generalizing fs with
  | nil => exact .nil
  | cons a attempts ih =>
    obtain ⟨hkeeps, hfollow'⟩ := files_keeps htame.1 hfollow
    rw [records, List.pairwise_append]
    refine ⟨?_, ih htame.2 hfollow', ?_⟩
    · cases a.made? target fs with
      | none => exact .nil
      | some backup => exact List.pairwise_singleton _ _
    · intro r hr r' hr'
      obtain ⟨backup, hmade, rfl⟩ := List.mem_map.1 hr
      obtain ⟨place, bytes, -, -, hsafe⟩ := exists_safe (Option.mem_toList.1 hmade) htame.1 hfollow
      obtain ⟨hbefore, hafter, place', bytes', hfree, -, hsafe'⟩ :=
        exists_safe_of_mem_records htame.2 hfollow' hr'
      have hplace := (hsafe.of_keeps (after_keeps htame.2 hfollow')).stat_eq
      have hplace' := (hsafe'.of_keeps hafter).stat_eq
      intro heq
      rw [after, (stat_eq_ok_iff.1 hplace).1, (stat_eq_ok_iff.1 hplace').1] at heq
      -- the earlier backup stood where the later one found nothing
      have hthere := (stat_eq_ok_iff.1 (hsafe.of_keeps hbefore).stat_eq).2
      rw [Except.ok.inj heq, hfree] at hthere
      cases hthere

theorem records_of_missing (h : fs.exists? target ≠ .ok true) (attempts : List Attempt) :
    records target fs attempts = [] := by
  induction attempts with
  | nil => rfl
  | cons a attempts ih =>
    have hfiles : a.files target fs = fs := (Run.run_of_missing h).1
    have hmade : a.made? target fs = none := by
      rw [Attempt.made?, Run.made?]
      split
      next hdry hthere => exact absurd hthere h
      next => rfl
    rw [records, hmade, hfiles, ih]
    rfl

/-- **Backups are only ever added.**  However the attempts follow one another, and however the clock
goes, no two backups are one: their paths differ and lead to different places.  Each has the bytes
that the target had just before, and still has them at the end. -/
theorem backups_safe (htame : Tame target fs attempts) :
    ((records target fs attempts).Pairwise fun r r' => r.backup ≠ r'.backup ∧
      (after target fs attempts).follow r.backup ≠ (after target fs attempts).follow r'.backup) ∧
      ∀ r ∈ records target fs attempts, ∃ bytes, r.before.read target = .ok bytes ∧
        r.after.read r.backup = .ok bytes ∧
        (after target fs attempts).read r.backup = .ok bytes := by
  cases hfollow : fs.follow target with
  | error why =>
    have hmissing : fs.exists? target ≠ .ok true := fun h => by
      obtain ⟨-, loc, entry, hstat⟩ := exists?_eq_true_iff.1 h
      rw [(stat_eq_ok_iff.1 hstat).1] at hfollow
      cases hfollow
    rw [records_of_missing hmissing]
    exact ⟨.nil, nofun⟩
  | ok spot =>
    refine ⟨(pairwise_records htame hfollow).imp fun hne => ⟨fun heq => hne (heq ▸ rfl), hne⟩,
      fun r hr => ?_⟩
    obtain ⟨-, hafter, place, bytes, -, hread, hsafe⟩ := exists_safe_of_mem_records htame hfollow hr
    exact ⟨bytes, hread, hsafe.read_eq, (hsafe.of_keeps hafter).read_eq⟩

/-- Three attempts **at one instant**: a dry one, one whose save breaks off, and one that goes
well. -/
def sampleAttempts : List Attempt :=
  let attempt : Attempt := { now := sampleInstant, backupDir := Run.sampleSettings.backupDir }
  [{ attempt with dryRun := true }, { attempt with saver := .cut (some 3) "no space left" },
    attempt]

theorem tame_sampleAttempts : Tame target fs sampleAttempts :=
  ⟨fun _ => Saver.whole_touchesOnly _ _ _, fun _ => Saver.cut_touchesOnly _ _ _ _ _,
    fun _ => Saver.whole_touchesOnly _ _ _, trivial⟩

/-- What the attempts **come to**. -/
theorem run_sampleAttempts :
    (after Run.sampleSettings.target (Run.sampleFiles (Utf8.encode Patch.sampleSource))
      sampleAttempts).read Run.sampleSettings.target =
        .ok (Utf8.encode Patch.sampleOutcome.content) ∧
    (records Run.sampleSettings.target (Run.sampleFiles (Utf8.encode Patch.sampleSource))
      sampleAttempts).map Record.backup =
        [Run.sampleBackup, { parts := ["backups", "cli-2024-05-06T07-08-09-000Z-1.js"] }] ∧
    ∀ r ∈ records Run.sampleSettings.target (Run.sampleFiles (Utf8.encode Patch.sampleSource))
      sampleAttempts,
        r.before.read Run.sampleSettings.target = .ok (Utf8.encode Patch.sampleSource) := by
  decide +kernel

/-- The bundle ends up patched, and **both backups** have the bytes that it had. -/
theorem backups_safe_sample :
    (after Run.sampleSettings.target (Run.sampleFiles (Utf8.encode Patch.sampleSource))
      sampleAttempts).read Run.sampleSettings.target =
        .ok (Utf8.encode Patch.sampleOutcome.content) ∧
    (records Run.sampleSettings.target (Run.sampleFiles (Utf8.encode Patch.sampleSource))
      sampleAttempts).map Record.backup =
        [Run.sampleBackup, { parts := ["backups", "cli-2024-05-06T07-08-09-000Z-1.js"] }] ∧
    ∀ r ∈ records Run.sampleSettings.target (Run.sampleFiles (Utf8.encode Patch.sampleSource))
      sampleAttempts, (after Run.sampleSettings.target
        (Run.sampleFiles (Utf8.encode Patch.sampleSource)) sampleAttempts).read r.backup =
          .ok (Utf8.encode Patch.sampleSource) := by
  obtain ⟨hpatched, hbackups, hbefore⟩ := run_sampleAttempts
  refine ⟨hpatched, hbackups, fun r hr => ?_⟩
  obtain ⟨bytes, hread, -, hkept⟩ := (backups_safe tame_sampleAttempts).2 r hr
  exact hkept.trans (hread.symm.trans (hbefore r hr))

end History

end BundlePatch
