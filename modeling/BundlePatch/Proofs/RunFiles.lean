import BundlePatch.Proofs.Encoding
import BundlePatch.Proofs.Extent
import BundlePatch.Proofs.Storing
import BundlePatch.Run

/-!
# Proofs/RunFiles — what a run leaves behind

A run can go four ways (`Run.Way`), and three of them fail.  Up to the save it only adds: a backup
and the directories for it.  A save that fails may leave anything at the target, and then
**the backup is copied over it** (`Run.rollBack_exact`).  So a run with the usual way to save ends
with the target as it was or with the text patched (`Run.run_effect`), and one whose save breaks off
leaves everything as it was (`Run.run_of_breaksOff`).
-/

namespace BundlePatch

open FileSystem Backup

namespace FileSystem

variable {fs fs' : FileSystem} {p : Path} {source : Text} {loc : Location}

theorem readSource_eq_ok_iff : fs.readSource p = .ok source ↔
    p.hasNul = false ∧ ∃ bytes, fs.read p = .ok bytes ∧ Utf8.decode bytes = .ok source := by
  rw [readSource]
  by_cases hnul : p.hasNul = true
  · simp [hnul]
  · rw [if_neg hnul, and_iff_right (eq_false_of_ne_true hnul)]
    cases hread : fs.read p with
    | error why => simp
    | ok bytes => simp

/-- A text can be written **to wherever there is no directory**. -/
theorem writeSource_eq (hnul : p.hasNul = false) (hfollow : fs.follow p = .ok loc)
    (hloc : fs.get? loc ≠ some .directory) :
    fs.writeSource p source = (fs.put loc (.file (Utf8.encode source)), .ok ()) := by
  have hwrite : fs.write p (Utf8.encode source) = .ok (fs.put loc (.file (Utf8.encode source))) :=
    write_eq_ok_iff.2 ⟨loc, hfollow, hloc, rfl⟩
  rw [writeSource, hnul, hwrite]
  rfl

end FileSystem

/-! ## Savers -/

namespace Saver

/-- A saver **touches only its target** when it is given these files and this text. -/
def TouchesOnly (saver : Saver) (fs : FileSystem) (p : Path) (content : Text) : Prop :=
  ∀ spot, fs.follow p = .ok spot → SameOff spot fs (saver fs p content).1

/-- A saver **breaks off** there: it fails, and all the damage is at its target, where it leaves any
file or none. -/
structure BreaksOff (saver : Saver) (fs : FileSystem) (p : Path) (content : Text) : Prop where
  touchesOnly : saver.TouchesOnly fs p content
  get?_ne : ∀ spot, fs.follow p = .ok spot →
    (saver fs p content).1.get? spot ≠ some .directory
  fails : ∃ why, (saver fs p content).2 = .error why

variable {fs : FileSystem} {p : Path} {loc : Location} {bytes : List UInt8} {content : Text}

theorem whole_touchesOnly (fs : FileSystem) (p : Path) (content : Text) :
    whole.TouchesOnly fs p content := by
  intro spot hfollow
  rw [whole, writeSource]
  split
  next => exact .refl spot fs
  next =>
    split
    next => exact .refl spot fs
    next fs' hwrite => exact .of_write hfollow hwrite

/-- Writing **some bytes, or none**, and failing. -/
def cut (written? : Option Nat) (message : String) : Saver :=
  BrokenSave.save { bytes? := written?, message := message }

theorem cut_touchesOnly (written? : Option Nat) (message : String) (fs : FileSystem) (p : Path)
    (content : Text) : (cut written? message).TouchesOnly fs p content := by
  intro spot hfollow
  cases written? with
  | none => exact .refl spot fs
  | some n =>
    show SameOff spot fs (fs.writeIfPossible p _)
    rw [writeIfPossible]
    split
    next fs' hwrite => exact .of_write hfollow hwrite
    next => exact .refl spot fs

theorem cut_breaksOff (written? : Option Nat) (message : String) (content : Text)
    (hstat : fs.stat p = .ok (loc, .file bytes)) :
    (cut written? message).BreaksOff fs p content := by
  refine ⟨cut_touchesOnly written? message fs p content, fun spot hspot => ?_, _, rfl⟩
  obtain ⟨hfollow, -⟩ := stat_eq_ok_iff.1 hstat
  obtain rfl := Except.ok.inj (hspot.symm.trans hfollow)
  have hfile := get?_ne_of_stat hstat
  cases written? with
  | none => exact hfile
  | some n =>
    show (fs.writeIfPossible p _).get? spot ≠ _
    rw [writeIfPossible, write_eq_ok_iff.2 ⟨spot, hfollow, hfile, rfl⟩]
    dsimp only
    rw [get?_put (ne_nil_of_get? hfile), if_pos rfl]
    exact fun h => (by cases h)

end Saver

namespace Run

variable {fs files stored : FileSystem} {now : Instant} {s : Settings} {saver : Saver}
  {backup? : Option Path} {backup : Path} {outcome : Patch.Outcome} {why : Fault}
  {spot place : Location} {bytes : List UInt8}

/-! ## The stages -/

theorem analyse_eq_ok_iff : (analyse fs s).result = .ok outcome ↔ ∃ source,
    fs.readSource s.target = .ok source ∧
      (Patch.ofSource source s.context).result = .ok outcome := by
  simp only [analyse, Spoken.result_bind, Spoken.result_silent, Spoken.result_say]
  exact bind_eq_ok_iff

/-- What the **first stage** can come to: files, and perhaps a backup. -/
inductive Prepared (fs : FileSystem) (now : Instant) (s : Settings) :
    FileSystem → Except Fault (Option Path) → Prop
  | missing {why : Fault} (hthere : fs.exists? s.target ≠ .ok true) :
      Prepared fs now s fs (.error why)
  | dry (hthere : fs.exists? s.target = .ok true) (hdry : s.dryRun = true) :
      Prepared fs now s fs (.ok none)
  | failed {fs' : FileSystem} {why : Fault} (hthere : fs.exists? s.target = .ok true)
      (hdry : s.dryRun = false) (hcreate : create fs s.target s.backupDir now = (fs', .error why)) :
      Prepared fs now s fs' (.error why)
  | made {fs' : FileSystem} {backup : Path} (hthere : fs.exists? s.target = .ok true)
      (hdry : s.dryRun = false) (hcreate : create fs s.target s.backupDir now = (fs', .ok backup)) :
      Prepared fs now s fs' (.ok (some backup))

theorem prepared (fs : FileSystem) (now : Instant) (s : Settings) :
    Prepared fs now s (prepare fs now s).1 (prepare fs now s).2.result := by
  rw [prepare]
  split
  next why hwhy => exact .missing (by rw [hwhy]; exact nofun)
  next hfalse => exact .missing (by rw [hfalse]; exact nofun)
  next hthere =>
    cases hdry : s.dryRun with
    | true => exact .dry hthere hdry
    | false =>
      dsimp only
      rw [if_neg Bool.false_ne_true]
      split
      next fs' why hcreate => exact .failed hthere hdry hcreate
      next fs' backup hcreate => exact .made hthere hdry hcreate

/-- Where there is **no backup**, there are new directories at the most. -/
theorem adds_of_prepare (h : ∀ backup, (prepare fs now s).2.result ≠ .ok (some backup)) :
    AddsDirectories s.backupDir fs (prepare fs now s).1 := by
  have hprepared := prepared fs now s
  generalize (prepare fs now s).1 = fs', (prepare fs now s).2.result = result at h hprepared ⊢
  cases hprepared with
  | missing | dry => exact .refl s.backupDir fs
  | failed _ _ hcreate => exact adds_of_create hcreate
  | made => exact absurd rfl (h _)

/-- A backup is made of a **file that is there**. -/
theorem stored_of_prepare (h : (prepare fs now s).2.result = .ok (some backup)) :
    ∃ spot place bytes, fs.stat s.target = .ok (spot, .file bytes) ∧
      Stored s.target s.backupDir backup spot place bytes fs (prepare fs now s).1 := by
  have hprepared := prepared fs now s
  generalize (prepare fs now s).1 = fs', (prepare fs now s).2.result = result at h hprepared ⊢
  cases hprepared with
  | missing | dry | failed => cases h
  | made hthere _ hcreate =>
    obtain rfl := Option.some.inj (Except.ok.inj h)
    obtain ⟨-, spot, place, bytes, -, -, hstored⟩ := stored_of_create hcreate
    -- the target was there before the directories were made
    obtain ⟨-, spot', entry, hstat⟩ := exists?_eq_true_iff.1 hthere
    obtain ⟨rfl, rfl⟩ := Prod.mk.inj
      (Except.ok.inj ((hstored.grows.stat_eq hstat).symm.trans hstored.stat_target))
    exact ⟨spot', place, bytes, hstat, hstored⟩

/-- A run that is not dry **goes on with a backup** only. -/
theorem exists_backup (hdry : s.dryRun = false)
    (h : (prepare fs now s).2.result = .ok backup?) : ∃ backup, backup? = some backup := by
  have hprepared := prepared fs now s
  generalize (prepare fs now s).1 = fs', (prepare fs now s).2.result = result at h hprepared
  cases hprepared with
  | missing | failed => cases h
  | dry _ hdry' =>
    rw [hdry] at hdry'
    cases hdry'
  | @made _ backup => exact ⟨backup, (Except.ok.inj h).symm⟩

/-- A stage that goes on leaves **the target as it is**. -/
theorem readSource_prepare (h : (prepare fs now s).2.result = .ok backup?) :
    (prepare fs now s).1.readSource s.target = fs.readSource s.target := by
  cases backup? with
  | none =>
    have hprepared := prepared fs now s
    rw [h] at hprepared
    generalize (prepare fs now s).1 = fs' at hprepared ⊢
    cases hprepared
    rfl
  | some backup =>
    obtain ⟨spot, place, bytes, hstat, hstored⟩ := stored_of_prepare h
    have hread : (prepare fs now s).1.read s.target = fs.read s.target := by
      rw [read_eq_ok_iff.2 ⟨spot, hstat⟩, read_eq_ok_iff.2 ⟨spot, hstored.stat_target⟩]
    rw [readSource, readSource, hread]

/-- The second stage **is the same** as if there had not been a first. -/
theorem analyse_prepare (h : (prepare fs now s).2.result = .ok backup?) :
    analyse (prepare fs now s).1 s = analyse fs s := by
  rw [analyse, analyse, readSource_prepare h]

/-! ## The way back -/

/-- The way back **puts the bytes of the backup** at the target, wherever there is no directory. -/
theorem rollBack_eq_put (hbackup : backup.hasNul = false) (htarget : s.target.hasNul = false)
    (hstat : files.stat backup = .ok (place, .file bytes))
    (hfollow : files.follow s.target = .ok spot) (hspot : files.get? spot ≠ some .directory)
    (hne : place ≠ spot) : (rollBack files s (some backup)).1 = files.put spot (.file bytes) ∧
      (rollBack files s (some backup)).2.result = .ok () := by
  have hthere : files.exists? backup = .ok true :=
    exists?_eq_true_iff.2 ⟨hbackup, place, _, hstat⟩
  have hrestore : restore files backup s.target =
      (files.put spot (.file bytes), ⟨[], .ok true⟩) := by
    rw [restore, copyUnless_eq_ok_iff.2
      ⟨rfl, copy_eq_put hbackup htarget hstat hfollow hspot hne⟩]
  rw [rollBack]
  dsimp only
  rw [hthere, hrestore]
  exact ⟨rfl, rfl⟩

/-- After damage **to the target only**, everything is as it was when the backup had been made. -/
theorem rollBack_exact {dir : Path} (h : Stored s.target dir backup spot place bytes fs stored)
    (hoff : SameOff spot stored files) (hspot : files.get? spot ≠ some .directory) :
    SameOff spot stored (rollBack files s (some backup)).1 ∧
      (rollBack files s (some backup)).1.stat s.target = .ok (spot, .file bytes) ∧
      (rollBack files s (some backup)).2.result = .ok () := by
  obtain ⟨hput, hresult⟩ := rollBack_eq_put h.hasNul_backup h.hasNul_target
    (hoff.stat_eq h.get?_spot_ne h.ne h.stat_backup)
    (hoff.follow_eq h.get?_spot_ne h.follow_target) hspot h.ne
  have hne := ne_nil_of_get? hspot
  have hoff' := hoff.trans (SameOff.put hne (.file bytes))
  rw [hput]
  refine ⟨hoff', stat_eq_ok_iff.2 ⟨hoff'.follow_eq h.get?_spot_ne h.follow_target, ?_⟩, hresult⟩
  rw [get?_put hne, if_pos rfl]

/-! ## The ways a run can take -/

/-- The **ways a run can take**, each with the files that it leaves and with its end. -/
inductive Way (fs : FileSystem) (now : Instant) (saver : Saver) (s : Settings) :
    FileSystem → Except Fault Nat → Prop
  /-- There is no target, or no backup can be made. -/
  | unprepared {why : Fault} (hprep : (prepare fs now s).2.result = .error why) :
      Way fs now saver s (prepare fs now s).1 (.ok 1)
  /-- There is no text, or no function to patch in it. -/
  | unpatched {backup? : Option Path} {why : Fault}
      (hprep : (prepare fs now s).2.result = .ok backup?)
      (hanalysed : (analyse (prepare fs now s).1 s).result = .error why) :
      Way fs now saver s (rollBack (prepare fs now s).1 s backup?).1
        ((rollBack (prepare fs now s).1 s backup?).2.result.map fun _ => 1)
  /-- The result cannot be saved. -/
  | unsaved {backup? : Option Path} {outcome : Patch.Outcome} {why : Fault}
      (hprep : (prepare fs now s).2.result = .ok backup?)
      (hanalysed : (analyse (prepare fs now s).1 s).result = .ok outcome)
      (hsaved : (save (prepare fs now s).1 saver s outcome).2.result = .error why) :
      Way fs now saver s (rollBack (save (prepare fs now s).1 saver s outcome).1 s backup?).1
        ((rollBack (save (prepare fs now s).1 saver s outcome).1 s backup?).2.result.map fun _ => 1)
  /-- All goes well. -/
  | done {backup? : Option Path} {outcome : Patch.Outcome}
      (hprep : (prepare fs now s).2.result = .ok backup?)
      (hanalysed : (analyse (prepare fs now s).1 s).result = .ok outcome)
      (hsaved : (save (prepare fs now s).1 saver s outcome).2.result = .ok ()) :
      Way fs now saver s (save (prepare fs now s).1 saver s outcome).1 (.ok 0)

theorem way (fs : FileSystem) (now : Instant) (saver : Saver) (s : Settings) :
    Way fs now saver s (s.run fs now saver).files (s.run fs now saver).ending := by
  rw [Settings.run]
  dsimp only
  cases hprep : (prepare fs now s).2.result with
  | error why => exact .unprepared hprep
  | ok backup? =>
    dsimp only
    cases hanalysed : (analyse (prepare fs now s).1 s).result with
    | error why => exact .unpatched hprep hanalysed
    | ok outcome =>
      dsimp only
      cases hsaved : (save (prepare fs now s).1 saver s outcome).2.result with
      | error why => exact .unsaved hprep hanalysed hsaved
      | ok done => exact .done hprep hanalysed hsaved

/-- What is left when the **result cannot be saved**. -/
theorem run_of_unsaved (hprep : (prepare fs now s).2.result = .ok backup?)
    (hanalysed : (analyse (prepare fs now s).1 s).result = .ok outcome)
    (hfiles : (save (prepare fs now s).1 saver s outcome).1 = files)
    (hsaved : (save (prepare fs now s).1 saver s outcome).2.result = .error why) :
    (s.run fs now saver).files = (rollBack files s backup?).1 ∧
      (s.run fs now saver).ending = (rollBack files s backup?).2.result.map fun _ => 1 := by
  subst hfiles
  rw [Settings.run]
  dsimp only
  rw [hprep]
  dsimp only
  rw [hanalysed]
  dsimp only
  rw [hsaved]
  exact ⟨rfl, rfl⟩

theorem prepare_of_missing (now : Instant) (h : fs.exists? s.target ≠ .ok true) :
    (prepare fs now s).1 = fs ∧ ∃ why, (prepare fs now s).2.result = .error why := by
  have hprepared := prepared fs now s
  generalize (prepare fs now s).1 = fs', (prepare fs now s).2.result = result at hprepared ⊢
  cases hprepared with
  | missing => exact ⟨rfl, _, rfl⟩
  | dry hthere | failed hthere | made hthere => exact absurd hthere h

/-- Without a target **nothing happens**, and the run fails. -/
theorem run_of_missing (h : fs.exists? s.target ≠ .ok true) :
    (s.run fs now saver).files = fs ∧ (s.run fs now saver).ending = .ok 1 := by
  obtain ⟨hfiles, why, hwhy⟩ := prepare_of_missing now h
  have hway := way fs now saver s
  generalize (s.run fs now saver).files = files, (s.run fs now saver).ending = ending at hway ⊢
  cases hway with
  | unprepared => exact ⟨hfiles, rfl⟩
  | unpatched hprep | unsaved hprep | done hprep =>
    rw [hwhy] at hprep
    cases hprep

/-! ## What a run adds -/

/-- The **backup that a run makes**, if it comes to that and succeeds. -/
def made? (fs : FileSystem) (now : Instant) (s : Settings) : Option Path :=
  match s.dryRun, fs.exists? s.target with
  | false, .ok true => (create fs s.target s.backupDir now).2.toOption
  | _, _ => none

theorem made?_eq_some_iff :
    made? fs now s = some backup ↔ (prepare fs now s).2.result = .ok (some backup) := by
  have hprepared := prepared fs now s
  generalize (prepare fs now s).1 = fs', (prepare fs now s).2.result = result at hprepared ⊢
  cases hprepared with
  | missing hthere =>
    rw [made?]
    split
    next hthere' => exact absurd hthere' hthere
    next => exact ⟨nofun, nofun⟩
  | dry hthere hdry => simp [made?, hdry]
  | failed hthere hdry hcreate => simp [made?, hdry, hthere, hcreate, Except.toOption]
  | made hthere hdry hcreate => simp [made?, hdry, hthere, hcreate, Except.toOption]

/-- **The target may change, nothing else does**: it is where it was, and paths lead there.  All that
comes in addition is a backup of the target and directories on the way to it. -/
structure Adds (target dir : Path) (backup? : Option Path) (fs files : FileSystem) : Prop where
  kept : ∀ loc entry, fs.get? loc = some entry → fs.follow target ≠ .ok loc →
    files.get? loc = some entry
  led : ∀ p loc entry, fs.stat p = .ok (loc, entry) → fs.follow target ≠ .ok loc →
    files.stat p = .ok (loc, entry)
  backup : ∀ backup ∈ backup?, fs.exists? backup = .ok false ∧
    ∃ bytes, fs.read target = .ok bytes ∧ files.read backup = .ok bytes
  new : ∀ loc entry, fs.get? loc = none → files.get? loc = some entry →
    (∃ backup ∈ backup?, files.follow backup = .ok loc) ∨
      entry = .directory ∧ ∃ q : Path, q.OnWayTo dir ∧ files.follow q = .ok loc

theorem adds_of_addsDirectories {target dir : Path} (h : AddsDirectories dir fs files) :
    Adds target dir none fs files where
  kept loc entry hget _ := h.grows.get?_eq loc entry hget
  led _ _ _ hstat _ := h.grows.stat_eq hstat
  backup := nofun
  new loc entry hnone hsome := .inr (h.new loc entry hnone hsome)

theorem adds_of_stored {target dir : Path} (hstat : fs.stat target = .ok (spot, .file bytes))
    (h : Stored target dir backup spot place bytes fs stored) (hoff : SameOff spot stored files) :
    Adds target dir (some backup) fs files := by
  obtain ⟨hfollow, hget⟩ := stat_eq_ok_iff.1 hstat
  constructor
  case kept =>
    intro loc entry hloc hne
    rw [hoff.get?_eq loc fun heq => hne (heq ▸ hfollow)]
    exact h.grows.get?_eq loc entry hloc
  case led =>
    intro p loc entry hstat' hne
    exact hoff.stat_eq h.get?_spot_ne (fun heq => hne (heq ▸ hfollow)) (h.grows.stat_eq hstat')
  case backup =>
    intro path hpath
    obtain rfl := Option.some.inj hpath
    exact ⟨h.exists?_eq_false, bytes, read_eq_ok_iff.2 ⟨spot, hstat⟩,
      read_eq_ok_iff.2 ⟨place, hoff.stat_eq h.get?_spot_ne h.ne h.stat_backup⟩⟩
  case new =>
    intro loc entry hnone hsome
    have hne : loc ≠ spot := fun heq => by
      rw [heq, hget] at hnone
      cases hnone
    rw [hoff.get?_eq loc hne] at hsome
    obtain rfl | ⟨hentry, q, hq, hloc⟩ := h.new loc entry hnone hsome
    · obtain ⟨hplace, -⟩ := stat_eq_ok_iff.1 h.stat_backup
      exact .inl ⟨backup, rfl, hoff.follow_eq h.get?_spot_ne hplace⟩
    · exact .inr ⟨hentry, q, hq, hoff.follow_eq h.get?_spot_ne hloc⟩

/-! ## Saving -/

theorem save_of_idle (fs : FileSystem) (saver : Saver)
    (h : s.dryRun = true ∨ outcome.changed = false) :
    (save fs saver s outcome).1 = fs ∧ (save fs saver s outcome).2.result = .ok () := by
  rw [save]
  cases hdry : s.dryRun with
  | true => exact ⟨rfl, rfl⟩
  | false =>
    rw [h.resolve_left (by simp [hdry])]
    exact ⟨rfl, rfl⟩

theorem save_of_changed (fs : FileSystem) (saver : Saver) (hdry : s.dryRun = false)
    (h : outcome.changed = true) :
    (save fs saver s outcome).1 = (saver fs s.target outcome.content).1 ∧
      (save fs saver s outcome).2.result = (saver fs s.target outcome.content).2 := by
  rw [save, hdry, h]
  obtain ⟨fs', result⟩ := saver fs s.target outcome.content
  cases result with
  | error why => exact ⟨rfl, rfl⟩
  | ok done => exact ⟨rfl, rfl⟩

/-- The outcome of a run is that of the **text in the backup**. -/
theorem analyse_stored_iff {dir : Path}
    (h : Stored s.target dir backup spot place bytes fs stored) :
    (analyse stored s).result = .ok outcome ↔ ∃ source,
      Utf8.decode bytes = .ok source ∧ (Patch.ofSource source s.context).result = .ok outcome := by
  have hread := read_eq_ok_iff.2 ⟨spot, h.stat_target⟩
  rw [analyse_eq_ok_iff]
  constructor
  · rintro ⟨source, hsource, houtcome⟩
    obtain ⟨-, bytes', hread', hdecode⟩ := readSource_eq_ok_iff.1 hsource
    obtain rfl := Except.ok.inj (hread.symm.trans hread')
    exact ⟨source, hdecode, houtcome⟩
  · rintro ⟨source, hdecode, houtcome⟩
    have hsource := readSource_eq_ok_iff.2 ⟨h.hasNul_target, bytes, hread, hdecode⟩
    exact ⟨source, hsource, houtcome⟩

/-- A text that is not patched **has the bytes** that it was read from. -/
theorem encode_of_not_patched {source : Text} {context : Int}
    (hdecode : Utf8.decode bytes = .ok source)
    (houtcome : (Patch.ofSource source context).result = .ok outcome)
    (hr : outcome.status ≠ .patched) : Utf8.encode outcome.content = bytes := by
  rw [Patch.content_of_not_patched houtcome hr, Utf8.encode_of_decode hdecode]

/-- Where there is a backup, the whole text **can be saved**. -/
theorem save_whole {dir : Path} {source : Text} (hdry : s.dryRun = false)
    (h : Stored s.target dir backup spot place bytes fs stored)
    (hdecode : Utf8.decode bytes = .ok source)
    (houtcome : (Patch.ofSource source s.context).result = .ok outcome) :
    (save stored .whole s outcome).2.result = .ok () ∧
      SameOff spot stored (save stored .whole s outcome).1 ∧
      (save stored .whole s outcome).1.read s.target = .ok (Utf8.encode outcome.content) := by
  have hpatched := Patch.changed_eq_true_iff houtcome
  cases hchanged : outcome.changed with
  | false =>
    have hr : outcome.status ≠ .patched := fun hr => by
      rw [hpatched.2 hr] at hchanged
      cases hchanged
    obtain ⟨hfiles, hresult⟩ := save_of_idle stored .whole (.inr hchanged)
    rw [hfiles, encode_of_not_patched hdecode houtcome hr]
    exact ⟨hresult, .refl spot stored, read_eq_ok_iff.2 ⟨spot, h.stat_target⟩⟩
  | true =>
    obtain ⟨hfiles, hresult⟩ := save_of_changed stored .whole hdry hchanged
    have hne := ne_nil_of_get? h.get?_spot_ne
    have hwhole : Saver.whole stored s.target outcome.content = _ :=
      writeSource_eq h.hasNul_target h.follow_target h.get?_spot_ne
    have hoff : SameOff spot stored (Saver.whole stored s.target outcome.content).1 :=
      hwhole ▸ SameOff.put hne _
    rw [hfiles, hresult]
    refine ⟨by rw [hwhole], hoff, read_eq_ok_iff.2 ⟨spot, stat_eq_ok_iff.2 ⟨?_, ?_⟩⟩⟩
    · exact hoff.follow_eq h.get?_spot_ne h.follow_target
    · rw [hwhole, get?_put hne, if_pos rfl]

/-! ## The whole run -/

/-- What a run that is not dry **does to the files**. -/
structure Effect (fs : FileSystem) (now : Instant) (s : Settings) (report : Report) : Prop
    extends Adds s.target s.backupDir (made? fs now s) fs report.files where
  ending : report.ending = .ok 0 ∨ report.ending = .ok 1
  succeeds : ∀ backup bytes source outcome, made? fs now s = some backup →
    fs.read s.target = .ok bytes → Utf8.decode bytes = .ok source →
    (Patch.ofSource source s.context).result = .ok outcome → report.ending = .ok 0
  failed : report.ending = .ok 1 → ∀ bytes, fs.read s.target = .ok bytes →
    report.files.read s.target = .ok bytes
  done : report.ending = .ok 0 → ∃ bytes source outcome, fs.read s.target = .ok bytes ∧
    Utf8.decode bytes = .ok source ∧ (Patch.ofSource source s.context).result = .ok outcome ∧
    report.files.read s.target = .ok (Utf8.encode outcome.content) ∧
    (outcome.status ≠ .patched → report.files.read s.target = .ok bytes)

/-- **A run ends with a code**, keeps what it cannot patch, and adds a backup of what it patches;
it does nothing else. -/
theorem run_effect (hdry : s.dryRun = false) : Effect fs now s (s.run fs now .whole) := by
  have hway := way fs now .whole s
  generalize s.run fs now .whole = report at hway
  obtain ⟨files, said, ending⟩ := report
  dsimp only at hway
  cases hway with
  | unprepared hprep =>
    have hnone : ∀ backup, (prepare fs now s).2.result ≠ .ok (some backup) := fun backup h => by
      rw [hprep] at h
      cases h
    have hmade : made? fs now s = none := Option.eq_none_iff_forall_ne_some.2 fun backup h =>
      hnone backup (made?_eq_some_iff.1 h)
    have hadds := adds_of_prepare hnone
    refine ⟨hmade ▸ adds_of_addsDirectories hadds, .inr rfl, fun backup _ _ _ h => ?_,
      fun _ bytes hread => ?_, nofun⟩
    · rw [hmade] at h
      cases h
    · obtain ⟨spot, hstat⟩ := read_eq_ok_iff.1 hread
      exact read_eq_ok_iff.2 ⟨spot, hadds.grows.stat_eq hstat⟩
  | unpatched hprep hanalysed =>
    obtain ⟨backup, rfl⟩ := exists_backup hdry hprep
    obtain ⟨spot, place, bytes, hstat, hstored⟩ := stored_of_prepare hprep
    obtain ⟨hoff, hback, hresult⟩ := rollBack_exact hstored (.refl _ _) hstored.get?_spot_ne
    have hbytes : ∀ bytes', fs.read s.target = .ok bytes' → bytes = bytes' := fun bytes' hread =>
      Except.ok.inj ((read_eq_ok_iff.2 ⟨spot, hstat⟩).symm.trans hread)
    rw [hresult]
    refine ⟨made?_eq_some_iff.2 hprep ▸ adds_of_stored hstat hstored hoff, .inr rfl,
      fun _ bytes' source outcome _ hread hdecode houtcome => ?_, fun _ bytes' hread => ?_, nofun⟩
    · obtain rfl := hbytes bytes' hread
      rw [(analyse_stored_iff hstored).2 ⟨source, hdecode, houtcome⟩] at hanalysed
      cases hanalysed
    · obtain rfl := hbytes bytes' hread
      exact read_eq_ok_iff.2 ⟨spot, hback⟩
  | unsaved hprep hanalysed hsaved =>
    obtain ⟨backup, rfl⟩ := exists_backup hdry hprep
    obtain ⟨spot, place, bytes, hstat, hstored⟩ := stored_of_prepare hprep
    obtain ⟨source, hdecode, houtcome⟩ := (analyse_stored_iff hstored).1 hanalysed
    rw [(save_whole hdry hstored hdecode houtcome).1] at hsaved
    cases hsaved
  | @done _ outcome hprep hanalysed hsaved =>
    obtain ⟨backup, rfl⟩ := exists_backup hdry hprep
    obtain ⟨spot, place, bytes, hstat, hstored⟩ := stored_of_prepare hprep
    obtain ⟨source, hdecode, houtcome⟩ := (analyse_stored_iff hstored).1 hanalysed
    obtain ⟨-, hoff, hread⟩ := save_whole hdry hstored hdecode houtcome
    refine ⟨made?_eq_some_iff.2 hprep ▸ adds_of_stored hstat hstored hoff, .inl rfl,
      fun _ _ _ _ _ _ _ _ => rfl, nofun, fun _ => ⟨bytes, source, outcome,
        read_eq_ok_iff.2 ⟨spot, hstat⟩, hdecode, houtcome, hread, fun hr => ?_⟩⟩
    rw [hread, encode_of_not_patched hdecode houtcome hr]

/-- A working directory with one file in it. -/
def sampleFiles (bytes : List UInt8) : FileSystem where
  entries := [(["cli.js"], .file bytes)]

def sampleSettings : Settings where
  target := { parts := ["cli.js"] }
  backupDir := { parts := ["backups"] }
  context := 0

def sampleBackup : Path := { parts := ["backups", "cli-2024-05-06T07-08-09-000Z.js"] }

theorem read_sampleFiles (bytes : List UInt8) :
    (sampleFiles bytes).read sampleSettings.target = .ok bytes := rfl

theorem decode_sampleSource :
    Utf8.decode (Utf8.encode Patch.sampleSource) = .ok Patch.sampleSource := by
  decide +kernel

theorem made?_sampleSource :
    made? (sampleFiles (Utf8.encode Patch.sampleSource)) sampleInstant sampleSettings =
      some sampleBackup := by
  decide +kernel

/-- A file without the function **keeps its bytes** and gets a backup; one with it is **patched**,
and its backup has the bytes that it had. -/
theorem run_effect_sample : sampleSettings.dryRun = false ∧
    (sampleSettings.run (sampleFiles [0x61]) sampleInstant .whole).files.read
      sampleSettings.target = .ok [0x61] ∧
    (sampleSettings.run (sampleFiles [0x61]) sampleInstant .whole).files.read
      sampleBackup = .ok [0x61] ∧
    (sampleSettings.run (sampleFiles (Utf8.encode Patch.sampleSource)) sampleInstant
      .whole).files.read sampleSettings.target = .ok (Utf8.encode Patch.sampleOutcome.content) ∧
    (sampleSettings.run (sampleFiles (Utf8.encode Patch.sampleSource)) sampleInstant
      .whole).files.read sampleBackup = .ok (Utf8.encode Patch.sampleSource) := by
  have hplain := @run_effect (sampleFiles [0x61]) sampleInstant sampleSettings rfl
  have hmade : made? (sampleFiles [0x61]) sampleInstant sampleSettings = some sampleBackup := by
    decide +kernel
  obtain ⟨-, bytes, hread, hbackup⟩ := hplain.backup sampleBackup hmade
  obtain rfl := Except.ok.inj (hread.symm.trans (read_sampleFiles _))
  have hbundle := @run_effect (sampleFiles (Utf8.encode Patch.sampleSource)) sampleInstant
    sampleSettings rfl
  obtain ⟨-, bytes, hread, hbackup'⟩ := hbundle.backup sampleBackup made?_sampleSource
  obtain rfl := Except.ok.inj (hread.symm.trans (read_sampleFiles _))
  obtain ⟨bytes, source, outcome, hread, hdecode, houtcome, hpatched, -⟩ :=
    hbundle.done (hbundle.succeeds sampleBackup _ _ _ made?_sampleSource (read_sampleFiles _)
      decode_sampleSource Patch.ofSource_sampleSource)
  obtain rfl := Except.ok.inj (hread.symm.trans (read_sampleFiles _))
  obtain rfl := Except.ok.inj (hdecode.symm.trans decode_sampleSource)
  obtain rfl := Except.ok.inj (houtcome.symm.trans Patch.ofSource_sampleSource)
  exact ⟨rfl, hplain.failed (by decide +kernel) _ (read_sampleFiles _), hbackup, hpatched, hbackup'⟩

/-! ## A save that breaks off -/

/-- When the save **breaks off**, having damaged the target only, the damage is undone. -/
theorem run_of_breaksOff {source : Text} (hmade : made? fs now s = some backup)
    (hread : fs.read s.target = .ok bytes) (hdecode : Utf8.decode bytes = .ok source)
    (houtcome : (Patch.ofSource source s.context).result = .ok outcome)
    (hpatched : outcome.status = .patched)
    (hbreaks : saver.BreaksOff (prepare fs now s).1 s.target outcome.content) :
    (s.run fs now saver).ending = .ok 1 ∧
      (s.run fs now saver).files.read s.target = .ok bytes ∧
      (s.run fs now saver).files.read backup = .ok bytes ∧
      ∀ loc entry, fs.get? loc = some entry → (s.run fs now saver).files.get? loc = some entry := by
  have hprep := made?_eq_some_iff.1 hmade
  obtain ⟨spot, place, bytes', hstat, hstored⟩ := stored_of_prepare hprep
  obtain rfl := Except.ok.inj (hread.symm.trans (read_eq_ok_iff.2 ⟨spot, hstat⟩))
  have hdry : s.dryRun = false := by
    rw [made?] at hmade
    split at hmade
    next hdry hthere => exact hdry
    next => cases hmade
  have hanalysed := (analyse_stored_iff hstored).2 ⟨source, hdecode, houtcome⟩
  obtain ⟨hfiles, hresult⟩ := save_of_changed (prepare fs now s).1 saver hdry
    ((Patch.changed_eq_true_iff houtcome).2 hpatched)
  obtain ⟨why, hwhy⟩ := hbreaks.fails
  obtain ⟨hrun, hending⟩ := run_of_unsaved hprep hanalysed hfiles (hresult.trans hwhy)
  obtain ⟨hoff, hback, hrolled⟩ := rollBack_exact hstored
    (hbreaks.touchesOnly spot hstored.follow_target) (hbreaks.get?_ne spot hstored.follow_target)
  obtain ⟨-, bytes', hread', hbackup⟩ := (adds_of_stored hstat hstored hoff).backup backup rfl
  obtain rfl := Except.ok.inj (hread.symm.trans hread')
  rw [hrun, hending, hrolled]
  refine ⟨rfl, read_eq_ok_iff.2 ⟨spot, hback⟩, hbackup, fun loc entry hget => ?_⟩
  by_cases hloc : loc = spot
  · obtain rfl := Option.some.inj ((stat_eq_ok_iff.1 hstat).2.symm.trans (hloc ▸ hget))
    exact hloc ▸ (stat_eq_ok_iff.1 hback).2
  · rw [hoff.get?_eq loc hloc]
    exact hstored.grows.get?_eq loc entry hget

/-- The sample is patched, but **only three bytes** of the result are saved. -/
theorem run_of_breaksOff_sample :
    (sampleSettings.run (sampleFiles (Utf8.encode Patch.sampleSource)) sampleInstant
      (.cut (some 3) "no space left")).files.read sampleSettings.target =
        .ok (Utf8.encode Patch.sampleSource) := by
  obtain ⟨loc, place, bytes, -, hstored⟩ :=
    stored_of_prepare (made?_eq_some_iff.1 made?_sampleSource)
  exact (run_of_breaksOff made?_sampleSource (read_sampleFiles _) decode_sampleSource
    Patch.ofSource_sampleSource rfl
    (Saver.cut_breaksOff (some 3) "no space left" _ hstored.stat_target)).2.1

end Run

end BundlePatch
