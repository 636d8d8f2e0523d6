import BundlePatch.Proofs.Ending
import BundlePatch.Proofs.WellFormed

/-!
# Proofs/ByteExact — a source and the bytes of its file

Reading a file gives the one text that has its bytes, or fails because there is none; writing a text
and reading it again gives the text (`FileSystem.exact`).  So positions, which count characters,
cut the bytes of a file too: a run that patches a file **keeps the bytes around the function** as
they are (`Run.exact_around`).
-/

namespace BundlePatch

open FileSystem Backup

namespace FileSystem

variable {fs files : FileSystem} {p : Path} {source : Text} {bytes : List UInt8}

/-! ## Reading and writing -/

/-- A source is read from **the bytes that it has**. -/
theorem readSource_eq_ok_iff_encode : fs.readSource p = .ok source ↔
    p.hasNul = false ∧ fs.read p = .ok (Utf8.encode source) := by
  rw [readSource_eq_ok_iff]
  refine and_congr_right fun _ => ?_
  constructor
  · rintro ⟨bytes, hread, hdecode⟩
    rwa [Utf8.encode_of_decode hdecode]
  · exact fun hread => ⟨_, hread, Utf8.decode_eq_ok_iff.2 rfl⟩

/-- Bytes that are no text are **reported as a failure of the storage**. -/
theorem readSource_error_iff (hnul : p.hasNul = false) (hread : fs.read p = .ok bytes) :
    (∃ why, fs.readSource p = .error why ∧ why.kind? = some .storage) ↔
      ¬ Utf8.WellFormed bytes := by
  have hsource : fs.readSource p =
      (Utf8.decode bytes).mapError fun bad => .unreadable p bad.message := by
    rw [readSource, hnul, hread]
    rfl
  rw [hsource, ← Utf8.exists_decode_iff]
  cases Utf8.decode bytes with
  | error bad =>
    refine iff_of_true ⟨_, rfl, rfl⟩ fun h => ?_
    obtain ⟨source, hsource⟩ := h
    cases hsource
  | ok source =>
    refine iff_of_false (fun h => ?_) fun h => h ⟨source, rfl⟩
    obtain ⟨why, hwhy, -⟩ := h
    cases hwhy

/-- Whether a text **can be written** to a path: it leads somewhere, and to no directory. -/
def Writable (fs : FileSystem) (p : Path) : Prop :=
  p.hasNul = false ∧ ∃ loc, fs.follow p = .ok loc ∧ fs.get? loc ≠ some .directory

theorem writeSource_ok_iff : (fs.writeSource p source).2 = .ok () ↔ fs.Writable p := by
  constructor
  · intro h
    rw [writeSource] at h
    split at h
    next => cases h
    next hnul =>
      split at h
      next => cases h
      next fs' hwrite =>
        obtain ⟨loc, hfollow, hget, -⟩ := write_eq_ok_iff.1 hwrite
        exact ⟨eq_false_of_ne_true hnul, loc, hfollow, hget⟩
  · rintro ⟨hnul, loc, hfollow, hget⟩
    rw [writeSource_eq hnul hfollow hget]

/-- What has been written is **read again**. -/
theorem readSource_writeSource (h : fs.Writable p) :
    (fs.writeSource p source).1.readSource p = .ok source := by
  obtain ⟨hnul, loc, hfollow, hget⟩ := h
  have hne := ne_nil_of_get? hget
  rw [writeSource_eq hnul hfollow hget, readSource_eq_ok_iff_encode]
  refine ⟨hnul, read_eq_ok_iff.2 ⟨loc, stat_eq_ok_iff.2 ⟨?_, ?_⟩⟩⟩
  · exact (SameOff.put hne _).follow_eq hget hfollow
  · rw [get?_put hne, if_pos rfl]

/-- Sources and bytes **correspond** at a path. -/
structure Exact (fs : FileSystem) (p : Path) : Prop where
  /-- The text that is read is the one with these bytes. -/
  text : ∀ bytes source, p.hasNul = false → fs.read p = .ok bytes →
    (fs.readSource p = .ok source ↔ Utf8.encode source = bytes)
  /-- Reading fails where the bytes are not well formed. -/
  refused : ∀ bytes, p.hasNul = false → fs.read p = .ok bytes →
    ((∃ why, fs.readSource p = .error why ∧ why.kind? = some .storage) ↔
      ¬ Utf8.WellFormed bytes)
  /-- Every text can be written where there is no directory. -/
  written : ∀ source, (fs.writeSource p source).2 = .ok () ↔ fs.Writable p
  /-- What is written is read again. -/
  again : ∀ source, (fs.writeSource p source).2 = .ok () →
    (fs.writeSource p source).1.readSource p = .ok source

theorem exact (fs : FileSystem) (p : Path) : fs.Exact p where
  text bytes source hnul hread := by
    rw [readSource_eq_ok_iff_encode, and_iff_right hnul, hread, Except.ok.injEq, eq_comm]
  refused _ hnul hread := readSource_error_iff hnul hread
  written _ := writeSource_ok_iff
  again _ h := readSource_writeSource (writeSource_ok_iff.1 h)

end FileSystem

/-! ## The bytes around a function -/

namespace Routine

/-- Bytes **around a function** of a source: those of what stands before it come first, those of
what stands behind it last. -/
def BytesAround (source : Text) (f : Routine) (bytes : List UInt8) : Prop :=
  ∃ inner, bytes =
    Utf8.encode (source.sliceTo f.start) ++ (inner ++ Utf8.encode (source.sliceFrom f.stop))

end Routine

theorem Utf8.encode_append (s t : Text) : encode (s ++ t) = encode s ++ encode t :=
  List.flatMap_append

/-- Whatever becomes of the text of a function, the bytes **around it** stay. -/
theorem Layout.bytesAround (l : Layout) (code : Text) :
    l.routine.BytesAround l.source (Utf8.encode (l.lead ++ (code ++ l.trail))) :=
  ⟨Utf8.encode code, by rw [sliceTo_start, sliceFrom_stop, Utf8.encode_append, Utf8.encode_append]⟩

namespace Run

variable {fs : FileSystem} {now : Instant} {s : Settings}

/-- The way back makes **no success of a failure**. -/
theorem rolled_ne_zero (rolled : Except Fault Unit) : (rolled.map fun _ => 1) ≠ .ok 0 := by
  cases rolled with
  | error why => exact nofun
  | ok done => exact nofun

/-- A run that succeeds has read a text and patched it, and what it leaves in the target is **the one
text or the other**. -/
theorem exists_of_done (h : (s.run fs now .whole).ending = .ok 0) : ∃ source outcome content,
    fs.readSource s.target = .ok source ∧
      (Patch.ofSource source s.context).result = .ok outcome ∧
      (content = source ∨ content = outcome.content) ∧
      (s.run fs now .whole).files.readSource s.target = .ok content := by
  have hway := way fs now .whole s
  generalize (s.run fs now .whole).files = files, (s.run fs now .whole).ending = ending
    at h hway ⊢
  cases hway with
  | unprepared => cases h
  | unpatched | unsaved => exact absurd h (rolled_ne_zero _)
  | @done backup? outcome hprep hanalysed hsaved =>
    rw [analyse_prepare hprep] at hanalysed
    obtain ⟨source, hsource, houtcome⟩ := analyse_eq_ok_iff.1 hanalysed
    by_cases hidle : s.dryRun = true ∨ outcome.changed = false
    · refine ⟨source, outcome, source, hsource, houtcome, .inl rfl, ?_⟩
      rw [(save_of_idle _ .whole hidle).1, readSource_prepare hprep, hsource]
    · rw [not_or, Bool.not_eq_true, Bool.not_eq_false] at hidle
      obtain ⟨hfiles, hresult⟩ := save_of_changed (prepare fs now s).1 .whole hidle.1 hidle.2
      refine ⟨source, outcome, outcome.content, hsource, houtcome, .inr rfl, ?_⟩
      rw [hfiles]
      exact ((prepare fs now s).1.exact s.target).again _ (hresult.symm.trans hsaved)

/-- The bytes at a path **around the function** that is found in a source are the same in two file
systems. -/
def KeepsAround (fs files : FileSystem) (p : Path) (source : Text) : Prop :=
  ∃ anchor total f bytes bytes', Anchor.survey Anchor.fields source = .ok (anchor, total) ∧
    Routine.enclosing source anchor {} = .ok f ∧
    fs.read p = .ok bytes ∧ f.BytesAround source bytes ∧
    files.read p = .ok bytes' ∧ f.BytesAround source bytes'

/-- Where a text comes from and what becomes of it **have their surroundings in common**. -/
theorem keepsAround {files : FileSystem} {p : Path} {source content : Text}
    {outcome : Patch.Outcome} {context : Int} (hsource : fs.readSource p = .ok source)
    (houtcome : (Patch.ofSource source context).result = .ok outcome)
    (hpatched : outcome.status = .patched) (hcontent : content = source ∨ content = outcome.content)
    (hleft : files.readSource p = .ok content) : KeepsAround fs files p source := by
  have hread := (readSource_eq_ok_iff_encode.1 hsource).2
  have hread' := (readSource_eq_ok_iff_encode.1 hleft).2
  obtain ⟨l, hl, hfirst, rfl, hsettles⟩ := Patch.ofSource_eq_ok_iff.1 houtcome
  refine ⟨l.mark, l.anchors, l.routine, _, _, Layout.survey_source hl hfirst,
    Layout.enclosing_source hl, hread, l.bytesAround l.code, hread', ?_⟩
  cases hsettles with
  | target | unrecognized | missing | noOccurrences => cases hpatched
  | @patched path converter code =>
    obtain rfl | rfl := hcontent
    · exact l.bytesAround l.code
    · exact l.bytesAround code

/-- **Sources are read and written byte by byte**, so a run that patches a file keeps the bytes
around the function. -/
theorem exact_around (fs : FileSystem) (now : Instant) (s : Settings) : (∀ p, fs.Exact p) ∧
    ((s.run fs now .whole).ending = .ok 0 → ∃ source outcome,
      fs.readSource s.target = .ok source ∧
      (Patch.ofSource source s.context).result = .ok outcome ∧
      (outcome.status = .patched →
        KeepsAround fs (s.run fs now .whole).files s.target source)) := by
  refine ⟨fs.exact, fun h => ?_⟩
  obtain ⟨source, outcome, content, hsource, houtcome, hcontent, hleft⟩ := exists_of_done h
  exact ⟨source, outcome, hsource, houtcome, fun hpatched =>
    keepsAround hsource houtcome hpatched hcontent hleft⟩

/-- A surrogate is refused, and the sample is patched **between its bytes**. -/
theorem exact_around_sample :
    (∃ why, (sampleFiles [0xED, 0xA0, 0x80]).readSource sampleSettings.target = .error why ∧
      why.kind? = some .storage) ∧
    KeepsAround (sampleFiles (Utf8.encode Patch.sampleSource))
      (sampleSettings.run (sampleFiles (Utf8.encode Patch.sampleSource)) sampleInstant .whole).files
      sampleSettings.target Patch.sampleSource := by
  constructor
  · have hmalformed : ¬ Utf8.WellFormed [0xED, 0xA0, 0x80] := fun h => by
      obtain ⟨s, hs⟩ := Utf8.exists_decode_iff.2 h
      have herror : (Utf8.decode [0xED, 0xA0, 0x80]).toOption = none := by decide +kernel
      rw [hs] at herror
      cases herror
    have hexact := (exact_around (sampleFiles [0xED, 0xA0, 0x80]) sampleInstant sampleSettings).1
    exact ((hexact sampleSettings.target).refused _ rfl (read_sampleFiles _)).2 hmalformed
  · have hending : (sampleSettings.run (sampleFiles (Utf8.encode Patch.sampleSource)) sampleInstant
        .whole).ending = .ok 0 := by
      decide +kernel
    obtain ⟨source, outcome, hsource, houtcome, hkeeps⟩ := (exact_around _ _ _).2 hending
    have hsample := readSource_eq_ok_iff_encode.2
      ⟨rfl, read_sampleFiles (Utf8.encode Patch.sampleSource)⟩
    obtain rfl := Except.ok.inj (hsource.symm.trans hsample)
    obtain rfl := Except.ok.inj (houtcome.symm.trans Patch.ofSource_sampleSource)
    exact hkeeps rfl

end Run

end BundlePatch
