import BundlePatch.Proofs.Ending

/-!
# Proofs/DryRun — a dry run shows what the run will do

A dry run leaves all files as they are (`Run.files_of_dry`), and its second stage reads the same
text as that of the run itself, whose backup does not touch the target (`Run.analyse_prepare`).  So
the two **end with the same code, and say the same from the second step through the summary**
(`Run.dry_predicts`).
-/

namespace BundlePatch

/-! ## What is said -/

namespace Notice

/-- Whether a notice **opens the step** of this number. -/
def opens (i : Int) : Notice → Bool
  | .step j _ => j == i
  | _ => false

/-- What is said **from a step on**. -/
def fromStep (i : Int) (said : List Notice) : List Notice := said.dropWhile fun n => !n.opens i

/-- What is said **up to a step**. -/
def upToStep (i : Int) (said : List Notice) : List Notice := said.takeWhile fun n => !n.opens i

/-- The line that sums up a patch. -/
def summary (applied : Nat) : Notice :=
  .line ("\n" ++ Ink.bold s!"Summary: {applied} patch(es) applied")

variable {i : Int} {said rest : List Notice}

theorem fromStep_append (h : ∀ n ∈ said, n.opens i = false) :
    fromStep i (said ++ rest) = fromStep i rest :=
  List.dropWhile_append_of_pos fun n hn => by rw [h n hn]; rfl

theorem fromStep_cons {n : Notice} (h : n.opens i = true) : fromStep i (n :: rest) = n :: rest := by
  rw [fromStep, List.dropWhile_cons, h]
  rfl

theorem fromStep_cons_of_not {n : Notice} (h : n.opens i = false) :
    fromStep i (n :: rest) = fromStep i rest := by
  rw [fromStep, List.dropWhile_cons, h]
  rfl

/-- What is said **at the end** only adds to a step. -/
theorem exists_fromStep_append (i : Int) (said rest : List Notice) :
    ∃ more ⊆ rest, fromStep i (said ++ rest) = fromStep i said ++ more := by
  induction said with
  | nil => exact ⟨fromStep i rest, (List.dropWhile_suffix _).subset, rfl⟩
  | cons n said ih =>
    cases hn : n.opens i with
    | true =>
      refine ⟨rest, fun _ h => h, ?_⟩
      rw [List.cons_append, fromStep_cons hn, fromStep_cons hn]
      rfl
    | false =>
      obtain ⟨more, hmore, heq⟩ := ih
      refine ⟨more, hmore, ?_⟩
      rw [List.cons_append, fromStep_cons_of_not hn, fromStep_cons_of_not hn, heq]

theorem upToStep_append_cons {n : Notice} (h : ∀ n ∈ said, n.opens i = false)
    (hn : n.opens i = true) : upToStep i (said ++ n :: rest) = said := by
  have hsaid : ∀ n ∈ said, (!n.opens i) = true := fun n hn => by rw [h n hn]; rfl
  rw [upToStep, List.takeWhile_append_of_pos hsaid, List.takeWhile_cons, hn]
  exact List.append_nil said

end Notice

namespace Spoken

variable {ε α β : Type} {x : Spoken ε α} {f : α → Spoken ε β} {P : Notice → Prop}

/-- Everything that a computation says **is of a kind**. -/
def Says (P : Notice → Prop) (x : Spoken ε α) : Prop := ∀ n ∈ x.said, P n

/-- A computation that succeeds **says something of a kind last**. -/
def Closes (P : Notice → Prop) (x : Spoken ε α) : Prop :=
  ∀ a, x.result = .ok a → ∃ n ∈ x.said.getLast?, P n

theorem says_say {notices : List Notice} (h : ∀ n ∈ notices, P n) :
    Says P (say notices : Spoken ε Unit) := h

theorem says_silent (r : Except ε α) : Says P (silent r) := List.forall_mem_nil P

theorem says_pure (a : α) : Says P (Pure.pure a : Spoken ε α) := List.forall_mem_nil P

theorem said_bind (x : Spoken ε α) (f : α → Spoken ε β) : (x >>= f).said =
    match x.result with
    | .ok a => x.said ++ (f a).said
    | .error _ => x.said := by
  show (Spoken.bind x f).said = _
  rw [Spoken.bind]
  cases x.result <;> rfl

theorem Says.bind (hx : Says P x) (hf : ∀ a, Says P (f a)) : Says P (x >>= f) := by
  intro n hn
  rw [said_bind] at hn
  split at hn
  next a _ => exact (List.mem_append.1 hn).elim (hx n) (hf a n)
  next => exact hx n hn

theorem Closes.bind (hf : ∀ a, Closes P (f a)) : Closes P (x >>= f) := by
  intro b hb
  rw [result_bind] at hb
  rw [said_bind]
  cases hx : x.result with
  | error why =>
    rw [hx] at hb
    cases hb
  | ok a =>
    rw [hx] at hb
    obtain ⟨n, hn, hP⟩ := hf a b hb
    refine ⟨n, ?_, hP⟩
    rw [List.getLast?_append, hn]
    rfl

end Spoken

namespace Patch

open Spoken

variable {source : Text} {context : Int}

/-- Replacing the templates of a function **is one step**. -/
theorem says_apply (i : Int) (source : Text) (routine : Routine) (aliases : Aliases) :
    Says (·.opens i = false) (apply source routine aliases fun e =>
      (e.preview source context).notices) := by
  rw [apply]
  split
  next => exact (says_say (by simp [Notice.opens])).bind fun _ => says_pure _
  next => exact (says_say (by simp [Notice.opens])).bind fun _ => says_pure _
  next =>
    split
    next => exact (says_say (by simp [roleLines, Notice.opens])).bind fun _ => says_pure _
    next =>
      split
      next => exact (says_say (by simp [Notice.opens])).bind fun _ => says_pure _
      next =>
        have hpreviews : ∀ e : Edit, ∀ n ∈ (e.preview source context).notices,
            n.opens i = false := by
          simp [Preview.notices, Notice.opens]
        refine (says_say ?_).bind fun _ => (says_silent _).bind fun _ =>
          (says_say (by simp [Notice.opens])).bind fun _ => says_pure _
        intro n hn
        obtain rfl | hn := List.mem_cons.1 hn
        · rfl
        · obtain ⟨e, -, hn⟩ := List.mem_flatMap.1 hn
          exact hpreviews e n hn

theorem opens_of_mem_anchorNotices (i : Int) (anchor : Anchor) (total : Nat) :
    ∀ n ∈ anchorNotices anchor total, n.opens i = false := by
  rw [anchorNotices]
  split <;> simp [Notice.opens]

theorem opens_of_mem_aliasNotices (i : Int) (aliases : Aliases) :
    ∀ n ∈ aliasNotices aliases, n.opens i = false := by
  have hname : ∀ label name?, ∀ n ∈ nameNotices label name?, n.opens i = false := by
    intro label name?
    cases name? <;> simp [nameNotices, Notice.opens]
  have hshape : ∀ shape, (shapeNotice shape).opens i = false := by
    intro shape
    cases shape <;> rfl
  intro n hn
  rw [aliasNotices, List.mem_append, List.mem_append, List.mem_singleton] at hn
  obtain (hn | hn) | rfl := hn
  · exact hname _ _ n hn
  · exact hname _ _ n hn
  · exact hshape _

/-- A patch goes through **steps 2 to 4**. -/
theorem says_ofSource (source : Text) (context : Int) :
    Says (·.opens 5 = false) (ofSource source context) := by
  rw [ofSource]
  refine (says_say (by simp [Notice.opens])).bind fun _ => (says_silent _).bind fun found => ?_
  refine (says_say (opens_of_mem_anchorNotices 5 _ _)).bind fun _ =>
    (says_silent _).bind fun routine => ?_
  refine (says_say (by simp [routineNotices, Notice.opens])).bind fun _ =>
    (says_say (by simp [Notice.opens])).bind fun _ => ?_
  refine (says_say (opens_of_mem_aliasNotices 5 _)).bind fun _ =>
    (says_say (by simp [Notice.opens])).bind fun _ => ?_
  exact (says_apply 5 source routine _).bind fun outcome =>
    (says_say (by simp [Notice.opens])).bind fun _ => says_pure _

/-- A patch that succeeds is **summed up** last. -/
theorem closes_ofSource (source : Text) (context : Int) :
    Closes (∃ k, · = Notice.summary k) (ofSource source context) := by
  rw [ofSource]
  refine Closes.bind fun _ => Closes.bind fun found => Closes.bind fun _ =>
    Closes.bind fun routine => Closes.bind fun _ => Closes.bind fun _ => Closes.bind fun _ =>
    Closes.bind fun _ => Closes.bind fun outcome => ?_
  intro r _
  exact ⟨_, rfl, outcome.applied, rfl⟩

/-- What a patch says **starts with its first step**. -/
theorem exists_said_eq (source : Text) (context : Int) : ∃ message rest,
    (ofSource source context).said = .step 2 message :: rest :=
  ⟨_, _, said_bind ..⟩

end Patch

namespace Run

open Spoken

variable {fs files : FileSystem} {now now' : Instant} {s : Settings} {saver saver' : Saver}
  {backup? : Option Path} {outcome : Patch.Outcome} {why : Fault}

/-- What a run says **about the patch**: all from the second step to the fifth. -/
def Report.middle (report : Report) : List Notice :=
  Notice.upToStep 5 (Notice.fromStep 2 report.said)

/-- What two runs have in common when the one **predicts the other**. -/
structure Predicts (dry real : Report) : Prop where
  /-- They end with the same code. -/
  ending : ∃ code, dry.ending = .ok code ∧ real.ending = .ok code
  /-- If they succeed, they say the same from the second step through the summary. -/
  middle : dry.ending = .ok 0 → dry.middle = real.middle ∧
    (∃ message, .step 2 message ∈ dry.middle.head?) ∧
    ∃ applied, Notice.summary applied ∈ dry.middle.getLast?
  /-- If they fail, they say the same from the second step on, but for the way back. -/
  failed : dry.ending ≠ .ok 0 → ∃ back, (∀ n ∈ back, ∀ i, n.opens i = false) ∧
    Notice.fromStep 2 real.said = Notice.fromStep 2 dry.said ++ back

/-! ### The first stage and the way back -/

/-- Before the second step **nothing is said of it**. -/
theorem opens_of_mem_prepare : ∀ n ∈ (prepare fs now s).2.said, n.opens 2 = false := by
  rw [prepare]
  split
  next => exact List.forall_mem_nil _
  next => exact List.forall_mem_nil _
  next =>
    split
    next => simp [Notice.opens]
    next => split <;> simp [Notice.opens]

theorem result_prepare_of_dry (hthere : fs.exists? s.target = .ok true) (hdry : s.dryRun = true) :
    (prepare fs now s).2.result = .ok none := by
  rw [prepare, hthere, hdry]
  rfl

theorem prepare_of_create {backup : Path} (hthere : fs.exists? s.target = .ok true)
    (hdry : s.dryRun = false)
    (hcreate : (Backup.create fs s.target s.backupDir now).2 = .ok backup) :
    (prepare fs now s).1 = (Backup.create fs s.target s.backupDir now).1 ∧
      (prepare fs now s).2.result = .ok (some backup) := by
  rw [prepare, hthere, hdry]
  generalize Backup.create fs s.target s.backupDir now = created at hcreate ⊢
  obtain ⟨files, result⟩ := created
  obtain rfl : result = .ok backup := hcreate
  exact ⟨rfl, rfl⟩

/-- The way back **is no step**. -/
theorem says_rollBack (i : Int) (fs : FileSystem) (s : Settings) (backup? : Option Path) :
    Says (·.opens i = false) (rollBack fs s backup?).2 := by
  have hrestored : ∀ backup, Says (·.opens i = false) (Backup.restore fs backup s.target).2 := by
    intro backup
    rw [Backup.restore]
    split
    next => exact List.forall_mem_nil _
    next => split <;> simp [Says, Notice.opens]
  have hsuccess : ∀ restored : Bool, Says (·.opens i = false)
      (if restored then say [.ok "Rollback successful\n"] else say [] : Spoken Fault Unit) := by
    intro restored
    cases restored <;> exact says_say (by simp [Notice.opens])
  unfold rollBack
  split
  next => exact says_say (List.forall_mem_nil _)
  next =>
    split
    next => exact says_silent _
    next => exact says_say (List.forall_mem_nil _)
    next =>
      exact (says_say (by simp [Notice.opens])).bind fun _ => (hrestored _).bind hsuccess

/-! ### The second stage -/

theorem said_analyse {source : Text} (hsource : fs.readSource s.target = .ok source) :
    ∃ loaded, (analyse fs s).said = .ok loaded :: (Patch.ofSource source s.context).said := by
  refine ⟨s!"File loaded ({source.length} chars)\n", ?_⟩
  rw [analyse, hsource]
  rfl

/-! ### The notices of a run -/

/-- Without a target a run **says why**, and takes no step. -/
theorem fromStep_of_missing (h : fs.exists? s.target ≠ .ok true) :
    Notice.fromStep 2 (s.run fs now saver).said = [] := by
  obtain ⟨-, why, hwhy⟩ := prepare_of_missing now h
  have hsaid : (prepare fs now s).2.said = [] := by
    rw [prepare]
    split
    next => rfl
    next => rfl
    next hthere => exact absurd hthere h
  rw [Settings.run]
  dsimp only
  rw [hwhy, hsaid]
  rfl

/-- A run whose second stage fails **says why**, and ends with code 1. -/
theorem run_of_unpatched (hprep : (prepare fs now s).2.result = .ok backup?)
    (hanalysed : (analyse fs s).result = .error why) :
    (s.run fs now saver).ending = .ok 1 ∧
      (s.run fs now saver).said = (prepare fs now s).2.said ++ ((analyse fs s).said ++
        [.fail s!"Error: {why.message}"] ++ (rollBack (prepare fs now s).1 s backup?).2.said) := by
  have hrolled := rollBack_of_prepare hprep
  rw [← analyse_prepare hprep] at hanalysed ⊢
  rw [Settings.run]
  dsimp only
  rw [hprep]
  dsimp only
  rw [hanalysed]
  dsimp only
  rw [failed]
  dsimp only
  rw [hrolled]
  refine ⟨rfl, ?_⟩
  simp only [List.append_assoc, List.singleton_append]

theorem exists_said_save (fs : FileSystem) (saver : Saver) (s : Settings)
    (outcome : Patch.Outcome) :
    ∃ message rest, (save fs saver s outcome).2.said = .step 5 message :: rest := by
  rw [save]
  split
  next => exact ⟨_, _, rfl⟩
  next =>
    split
    next => exact ⟨_, _, rfl⟩
    next => split <;> exact ⟨_, _, rfl⟩

/-- A run that saves its result **goes on to the fifth step**, and ends with code 0. -/
theorem run_of_saved (hprep : (prepare fs now s).2.result = .ok backup?)
    (hanalysed : (analyse fs s).result = .ok outcome)
    (hsaved : (save (prepare fs now s).1 saver s outcome).2.result = .ok ()) :
    (s.run fs now saver).ending = .ok 0 ∧ ∃ message rest,
      (s.run fs now saver).said =
        (prepare fs now s).2.said ++ ((analyse fs s).said ++ .step 5 message :: rest) := by
  obtain ⟨message, rest, hsaid⟩ := exists_said_save (prepare fs now s).1 saver s outcome
  rw [← analyse_prepare hprep] at hanalysed ⊢
  rw [Settings.run]
  dsimp only
  rw [hprep]
  dsimp only
  rw [hanalysed]
  dsimp only
  rw [hsaved]
  refine ⟨rfl, message, rest ++ farewell, ?_⟩
  rw [hsaid]
  simp only [List.append_assoc, List.cons_append]

/-- The middle of a run that saves its result is **all that the patch says**. -/
theorem middle_of_saved {source : Text} (hprep : (prepare fs now s).2.result = .ok backup?)
    (hsource : fs.readSource s.target = .ok source)
    (hanalysed : (analyse fs s).result = .ok outcome)
    (hsaved : (save (prepare fs now s).1 saver s outcome).2.result = .ok ()) :
    (s.run fs now saver).middle = (Patch.ofSource source s.context).said := by
  obtain ⟨-, message, rest, hsaid⟩ := run_of_saved hprep hanalysed hsaved
  obtain ⟨loaded, hload⟩ := said_analyse hsource
  obtain ⟨located, said, hpatch⟩ := Patch.exists_said_eq source s.context
  have hfrom : Notice.fromStep 2 ((Patch.ofSource source s.context).said ++
      .step 5 message :: rest) = (Patch.ofSource source s.context).said ++
        .step 5 message :: rest := by
    rw [hpatch]
    exact Notice.fromStep_cons rfl
  rw [Report.middle, hsaid, Notice.fromStep_append opens_of_mem_prepare, hload, List.cons_append,
    Notice.fromStep_cons_of_not rfl, hfrom]
  exact Notice.upToStep_append_cons (Patch.says_ofSource source s.context) rfl

/-! ### The prediction -/

section Prediction

variable {dry real : Settings} {now' : Instant}

/-- Two runs **without a target** fail alike. -/
theorem predicts_of_missing (htarget : real.target = dry.target)
    (h : fs.exists? dry.target ≠ .ok true) :
    Predicts (dry.run fs now saver) (real.run fs now' saver') := by
  have h' : fs.exists? real.target ≠ .ok true := htarget ▸ h
  obtain ⟨-, hending⟩ := @run_of_missing fs now dry saver h
  obtain ⟨-, hending'⟩ := @run_of_missing fs now' real saver' h'
  refine ⟨⟨1, hending, hending'⟩, fun hzero => ?_, fun _ => ⟨[], List.forall_mem_nil _, ?_⟩⟩
  · rw [hending] at hzero
    cases hzero
  · rw [fromStep_of_missing h, fromStep_of_missing h']
    rfl

/-- Two runs whose **second stage fails**, the first of them with no backup. -/
theorem predicts_of_unpatched (hsame : analyse fs real = analyse fs dry)
    (hprep : (prepare fs now dry).2.result = .ok none)
    (hprep' : (prepare fs now' real).2.result = .ok backup?)
    (hanalysed : (analyse fs dry).result = .error why) :
    Predicts (dry.run fs now saver) (real.run fs now' saver') := by
  obtain ⟨hending, hsaid⟩ := @run_of_unpatched _ _ _ saver _ _ hprep hanalysed
  obtain ⟨hending', hsaid'⟩ := @run_of_unpatched _ _ _ saver' _ _ hprep' (hsame ▸ hanalysed)
  refine ⟨⟨1, hending, hending'⟩, fun h => ?_, fun _ => ?_⟩
  · rw [hending] at h
    cases h
  · obtain ⟨back, hback, hfrom⟩ := Notice.exists_fromStep_append 2 ((analyse fs dry).said ++
      [.fail s!"Error: {why.message}"]) (rollBack (prepare fs now' real).1 real backup?).2.said
    refine ⟨back, fun n hn i => says_rollBack i _ _ _ n (hback hn), ?_⟩
    rw [hsaid, hsaid', Notice.fromStep_append opens_of_mem_prepare,
      Notice.fromStep_append opens_of_mem_prepare, hsame, hfrom]
    exact congrArg (Notice.fromStep 2 · ++ back) (List.append_nil _).symm

/-- Two runs that save **what they make of the same text**. -/
theorem predicts_of_saved (htarget : real.target = dry.target) (hcontext : real.context = dry.context)
    (hprep : (prepare fs now dry).2.result = .ok none)
    (hprep' : (prepare fs now' real).2.result = .ok backup?)
    (hanalysed : (analyse fs dry).result = .ok outcome)
    (hsaved : (save (prepare fs now dry).1 saver dry outcome).2.result = .ok ())
    (hsaved' : (save (prepare fs now' real).1 saver' real outcome).2.result = .ok ()) :
    Predicts (dry.run fs now saver) (real.run fs now' saver') := by
  have hanalysed' : (analyse fs real).result = .ok outcome := by
    rwa [analyse, htarget, hcontext]
  obtain ⟨source, hsource, houtcome⟩ := analyse_eq_ok_iff.1 hanalysed
  obtain ⟨hending, -⟩ := run_of_saved hprep hanalysed hsaved
  obtain ⟨hending', -⟩ := run_of_saved hprep' hanalysed' hsaved'
  obtain ⟨located, said, hpatch⟩ := Patch.exists_said_eq source dry.context
  obtain ⟨n, hlast, applied, rfl⟩ := Patch.closes_ofSource source dry.context outcome houtcome
  refine ⟨⟨0, hending, hending'⟩, fun _ => ?_, fun h => absurd hending h⟩
  rw [middle_of_saved hprep hsource hanalysed hsaved,
    middle_of_saved hprep' (htarget ▸ hsource) hanalysed' hsaved', hcontext]
  refine ⟨rfl, ⟨located, ?_⟩, applied, hlast⟩
  rw [hpatch]
  rfl

end Prediction

/-- A run that nothing **from outside** disturbs: a target that is there can be backed up, and a text
that has changed can be saved. -/
structure Undisturbed (fs : FileSystem) (now : Instant) (saver : Saver) (s : Settings) : Prop where
  backup : fs.exists? s.target = .ok true →
    ∃ backup, (Backup.create fs s.target s.backupDir now).2 = .ok backup
  saved : ∀ outcome, (analyse fs s).result = .ok outcome → outcome.changed = true →
    (saver (Backup.create fs s.target s.backupDir now).1 s.target outcome.content).2 = .ok ()

/-- **A dry run changes no file and predicts the run** that it stands for. -/
theorem dry_predicts (fs : FileSystem) (now : Instant) (saver : Saver) (hdry : s.dryRun = true) :
    (s.run fs now saver).files = fs ∧ ∀ now' saver', Undisturbed fs now' saver' s →
      Predicts (s.run fs now saver) ({ s with dryRun := false }.run fs now' saver') := by
  refine ⟨files_of_dry saver hdry, fun now' saver' hundisturbed => ?_⟩
  by_cases hthere : fs.exists? s.target = .ok true
  · obtain ⟨backup, hcreate⟩ := hundisturbed.backup hthere
    have hprep := @result_prepare_of_dry fs now s hthere hdry
    obtain ⟨hfiles, hprep'⟩ :=
      @prepare_of_create fs now' { s with dryRun := false } backup hthere rfl hcreate
    cases hanalysed : (analyse fs s).result with
    | error why => exact predicts_of_unpatched rfl hprep hprep' hanalysed
    | ok outcome =>
      have hidle := (@save_of_idle s outcome (prepare fs now s).1 saver (.inl hdry)).2
      refine predicts_of_saved rfl rfl hprep hprep' hanalysed hidle ?_
      cases hchanged : outcome.changed with
      | false => exact (save_of_idle _ saver' (.inr hchanged)).2
      | true =>
        rw [(save_of_changed _ saver' rfl hchanged).2, hfiles]
        exact hundisturbed.saved outcome hanalysed hchanged
  · exact predicts_of_missing rfl hthere

open Backup (sampleInstant)

def sampleDry : Settings := { sampleSettings with dryRun := true }

theorem undisturbed_sampleDry :
    Undisturbed (sampleFiles (Utf8.encode Patch.sampleSource)) sampleInstant .whole sampleDry := by
  constructor
  case backup => exact fun _ => ⟨sampleBackup, by decide +kernel⟩
  case saved =>
    intro outcome _ _
    have hspot : ∀ files : FileSystem, files.follow sampleDry.target = .ok ["cli.js"] →
        files.get? ["cli.js"] ≠ some .directory →
        (Saver.whole files sampleDry.target outcome.content).2 = .ok () := by
      intro files hfollow hget
      rw [Saver.whole, FileSystem.writeSource_eq rfl hfollow hget]
    exact hspot _ (by decide +kernel) (by decide +kernel)

/-- A dry run and the run that it stands for, on a file **that is patched**. -/
theorem dry_predicts_sample :
    (sampleDry.run (sampleFiles (Utf8.encode Patch.sampleSource)) sampleInstant .whole).files =
      sampleFiles (Utf8.encode Patch.sampleSource) ∧
    (sampleDry.run (sampleFiles (Utf8.encode Patch.sampleSource)) sampleInstant .whole).middle =
      (sampleSettings.run (sampleFiles (Utf8.encode Patch.sampleSource)) sampleInstant
        .whole).middle := by
  obtain ⟨hfiles, hpredicts⟩ := @dry_predicts sampleDry
    (sampleFiles (Utf8.encode Patch.sampleSource)) sampleInstant .whole rfl
  have hending : (sampleDry.run (sampleFiles (Utf8.encode Patch.sampleSource)) sampleInstant
      .whole).ending = .ok 0 := by
    decide +kernel
  exact ⟨hfiles, ((hpredicts _ _ undisturbed_sampleDry).middle hending).1⟩

end Run

end BundlePatch
