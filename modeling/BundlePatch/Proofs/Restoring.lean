import BundlePatch.Proofs.Storing

/-!
# Proofs/Restoring — what copying a backup back **says and does**

A copy that succeeds puts the bytes of its source at one more path, and changes nothing else
(`FileSystem.Copied`).  That path is the target, unless the target is a directory: then the copy
goes into it, and the target stays as it is.  So the answer `true` of a restoration means that the
target has been restored, **except for a directory**.  Every other answer means that nothing has
changed, except at that path if the system has broken the copy off; and the backup always keeps its
bytes (`Backup.restore_spec`).
-/

namespace BundlePatch

namespace FileSystem

variable {fs fs' : FileSystem} {source target landing : Path}

/-! ## What a copy leaves -/

/-- The file at a path **has been copied** to another path: it is a file with the same bytes there,
and everything else is as it was. -/
structure Copied (source landing : Path) (fs fs' : FileSystem) : Prop where
  read_eq : ∃ bytes, fs.read source = .ok bytes ∧ fs'.read source = .ok bytes ∧
    fs'.read landing = .ok bytes
  sameOff : ∃ spot, fs.follow landing = .ok spot ∧ SameOff spot fs fs'

/-- There is a file at a path that **can be copied** to another: one where a file can stand, and not
the same file. -/
def CanCopy (fs : FileSystem) (source landing : Path) : Prop :=
  ∃ place bytes spot, fs.stat source = .ok (place, .file bytes) ∧ fs.follow landing = .ok spot ∧
    fs.get? spot ≠ some .directory ∧ place ≠ spot

/-- A copy that succeeds **could be made, and was**. -/
theorem copied_of_copy (h : fs.copy source target = .ok fs') :
    fs.CanCopy source (fs.copyTarget source target).1.path ∧
      Copied source (fs.copyTarget source target).1.path fs fs' := by
  obtain ⟨place, bytes, spot, hstat, hfollow, hfree, hne, rfl⟩ := exists_put_of_copy h
  have hoff : SameOff spot fs (fs.put spot (.file bytes)) := .put (ne_nil_of_get? hfree) _
  have hlanding : (fs.put spot (.file bytes)).stat (fs.copyTarget source target).1.path =
      .ok (spot, .file bytes) := by
    refine stat_eq_ok_iff.2 ⟨hoff.follow_eq hfree hfollow, ?_⟩
    rw [get?_put (ne_nil_of_get? hfree), if_pos rfl]
  exact ⟨⟨place, bytes, spot, hstat, hfollow, hfree, hne⟩,
    ⟨bytes, read_eq_ok_iff.2 ⟨place, hstat⟩,
      read_eq_ok_iff.2 ⟨place, hoff.stat_eq hfree hne hstat⟩,
      read_eq_ok_iff.2 ⟨spot, hlanding⟩⟩, spot, hfollow, hoff⟩

/-- A copy to a directory **goes into it**, under the name of its source. -/
theorem copyTarget_path_of_isDirectory (hdir : fs.isDirectory target = true)
    (h : fs.copy source target = .ok fs') :
    (fs.copyTarget source target).1.path = target.child source.baseText := by
  refine (copyTarget_path_eq_or fs source target).resolve_left fun hpath => ?_
  obtain ⟨-, -, spot, -, hfollow, hfree, -⟩ := exists_put_of_copy h
  rw [hpath] at hfollow
  exact Bool.false_ne_true ((isDirectory_eq_false hfollow hfree).symm.trans hdir)

/-- The directory is **still one** then. -/
theorem isDirectory_of_copy (hdir : fs.isDirectory target = true)
    (h : fs.copy source target = .ok fs') : fs'.isDirectory target = true := by
  obtain ⟨hnul, loc, hstat⟩ := isDirectory_iff.1 hdir
  obtain ⟨-, bytes, spot, -, -, hfree, -, rfl⟩ := exists_put_of_copy h
  have hloc : loc ≠ spot := fun heq => hfree (heq ▸ (stat_eq_ok_iff.1 hstat).2)
  have hoff : SameOff spot fs (fs.put spot (.file bytes)) := .put (ne_nil_of_get? hfree) _
  exact isDirectory_iff.2 ⟨hnul, loc, hoff.stat_eq hfree hloc hstat⟩

end FileSystem

namespace Backup

open FileSystem

variable {fs fs' : FileSystem} {backup target : Path} {broken? : Option BrokenCopy} {why : Fault}
  {bytes : List UInt8}

/-! ## What a restoration says -/

/-- What a restoration **answers**, by the end of its copy. -/
def answerTo : Except FileError Unit → Except Fault Bool
  | .ok () => .ok true
  | .error e => if e.isEnvironmental then .ok false else .error (.disk e)

theorem restore_ends (fs : FileSystem) (backup target : Path) (broken? : Option BrokenCopy) :
    ∃ files copied, CopyEnds fs broken? backup target files copied ∧
      (restore fs backup target broken?).1 = files ∧
      (restore fs backup target broken?).2.result = answerTo copied := by
  refine ⟨_, _, copyUnless_ends fs broken? backup target, ?_⟩
  rw [restore]
  generalize fs.copyUnless broken? backup target = ended
  obtain ⟨fs', e | ⟨⟩⟩ := ended
  · cases e <;> exact ⟨rfl, rfl⟩
  · exact ⟨rfl, rfl⟩

/-- The answer is `true` **exactly if the copy is made**. -/
theorem restore_eq_true_iff : (restore fs backup target broken?).2.result = .ok true ↔
    broken? = none ∧ ∃ fs', fs.copy backup target = .ok fs' ∧
      (restore fs backup target broken?).1 = fs' := by
  constructor
  · intro h
    obtain ⟨files, copied, hends, hfiles, hresult⟩ := restore_ends fs backup target broken?
    rw [hresult] at h
    cases hends with
    | whole hwhole hcopy => exact ⟨hwhole, _, hcopy, hfiles⟩
    | @refused e hcopy => cases e <;> cases h
    | unopened | cut => cases h
  · rintro ⟨rfl, fs', hcopy, -⟩
    rw [restore, copyUnless_eq_ok_iff.2 ⟨rfl, hcopy⟩]

/-- After any other answer, **nothing has changed**, except where a copy that is broken off was to
land. -/
theorem restore_files (h : (restore fs backup target broken?).2.result ≠ .ok true) :
    (restore fs backup target broken?).1 = fs ∨ ∃ b, broken? = some b ∧
      ∃ spot, fs.follow (fs.copyTarget backup target).1.path = .ok spot ∧
        SameOff spot fs (restore fs backup target broken?).1 := by
  obtain ⟨files, copied, hends, hfiles, hresult⟩ := restore_ends fs backup target broken?
  rw [hresult] at h
  rw [hfiles]
  cases hends with
  | whole => exact absurd rfl h
  | refused | unopened => exact .inl rfl
  | cut hbroken _ _ _ hfollow hfree =>
    exact .inr ⟨_, hbroken, _, hfollow, .put (ne_nil_of_get? hfree) _⟩

/-- A restoration fails only for a path **with a NUL**. -/
theorem restore_error (h : (restore fs backup target broken?).2.result = .error why) :
    why = .disk .embeddedNul ∧ (backup.hasNul = true ∨ target.hasNul = true) := by
  obtain ⟨files, copied, hends, -, hresult⟩ := restore_ends fs backup target broken?
  rw [hresult] at h
  cases hends with
  | whole | unopened | cut => cases h
  | @refused e hcopy =>
    cases e with
    | refused | sameFile | brokenOff => cases h
    | embeddedNul => exact ⟨(Except.error.inj h).symm, hasNul_of_copy hcopy⟩

/-- Whatever becomes of the copy, the backup **keeps its bytes**. -/
theorem restore_read (h : fs.read backup = .ok bytes) :
    (restore fs backup target broken?).1.read backup = .ok bytes := by
  obtain ⟨files, copied, hends, hfiles, -⟩ := restore_ends fs backup target broken?
  rw [hfiles]
  cases hends with
  | refused | unopened => exact h
  | whole _ hcopy =>
    obtain ⟨bytes', hread, hkept, -⟩ := (copied_of_copy hcopy).2.read_eq
    rwa [Except.ok.inj (h.symm.trans hread)]
  | @cut b n place spot _ _ _ _ hstat _ hfree hne =>
    obtain rfl := Except.ok.inj (h.symm.trans (read_eq_ok_iff.2 ⟨place, hstat⟩))
    have hoff : SameOff spot fs (fs.put spot (.file (bytes.take n))) :=
      .put (ne_nil_of_get? hfree) _
    exact read_eq_ok_iff.2 ⟨place, hoff.stat_eq hfree hne hstat⟩

/-- At a target that is no directory, a restoration succeeds **whenever it can**, unless the copy is
broken off. -/
theorem restore_eq_true_iff_canCopy (hdir : fs.isDirectory target = false) :
    (restore fs backup target broken?).2.result = .ok true ↔ broken? = none ∧
      backup.hasNul = false ∧ target.hasNul = false ∧ fs.CanCopy backup target := by
  rw [restore_eq_true_iff]
  refine and_congr_right fun hwhole => ?_
  constructor
  · rintro ⟨fs', hcopy, -⟩
    obtain ⟨hbackup, htarget, -⟩ := copy_eq_ok_iff.1 hcopy
    have hcan := (copied_of_copy hcopy).1
    rw [copyTarget_path hdir] at hcan
    exact ⟨hbackup, htarget, hcan⟩
  · rintro ⟨hbackup, htarget, place, bytes, spot, hstat, hfollow, hfree, hne⟩
    have hcopy := copy_eq_put hbackup htarget hstat hfollow hfree hne
    exact ⟨_, hcopy, by rw [restore, copyUnless_eq_ok_iff.2 ⟨hwhole, hcopy⟩]⟩

/-- **What a restoration says is so, except of a directory.**  It fails only for a path with a NUL.
The answer is `true` for a target that is no directory exactly if the backup is a file that can be
copied there and the copy is not broken off; then it has been copied, and nothing else has changed.
A target that is a directory stays one: after `true` the copy is in it.  After `false`, nothing has
changed, **unless the system has broken the copy off**: then nothing has changed but the file to
which it went.  The backup always keeps its bytes. -/
theorem restore_spec (fs : FileSystem) (backup target : Path) (broken? : Option BrokenCopy) :
    (∀ why, (restore fs backup target broken?).2.result = .error why →
      why = .disk .embeddedNul ∧ (backup.hasNul = true ∨ target.hasNul = true)) ∧
    ((restore fs backup target broken?).2.result ≠ .ok true →
      (restore fs backup target broken?).1 = fs ∨ ∃ b, broken? = some b ∧
        ∃ spot, fs.follow (fs.copyTarget backup target).1.path = .ok spot ∧
          SameOff spot fs (restore fs backup target broken?).1) ∧
    (fs.isDirectory target = false →
      ((restore fs backup target broken?).2.result = .ok true ↔ broken? = none ∧
        backup.hasNul = false ∧ target.hasNul = false ∧ fs.CanCopy backup target) ∧
      ((restore fs backup target broken?).2.result = .ok true →
        Copied backup target fs (restore fs backup target broken?).1)) ∧
    (fs.isDirectory target = true → (restore fs backup target broken?).2.result = .ok true →
      (restore fs backup target broken?).1.isDirectory target = true ∧
        Copied backup (target.child backup.baseText) fs (restore fs backup target broken?).1) ∧
    ∀ bytes, fs.read backup = .ok bytes →
      (restore fs backup target broken?).1.read backup = .ok bytes := by
  refine ⟨fun why => restore_error, restore_files, fun hdir =>
    ⟨restore_eq_true_iff_canCopy hdir, fun h => ?_⟩, fun hdir h => ?_, fun bytes => restore_read⟩
  · obtain ⟨-, fs', hcopy, hfiles⟩ := restore_eq_true_iff.1 h
    have hcopied := (copied_of_copy hcopy).2
    rw [copyTarget_path hdir] at hcopied
    rwa [hfiles]
  · obtain ⟨-, fs', hcopy, hfiles⟩ := restore_eq_true_iff.1 h
    have hcopied := (copied_of_copy hcopy).2
    rw [copyTarget_path_of_isDirectory hdir hcopy] at hcopied
    rw [hfiles]
    exact ⟨isDirectory_of_copy hdir hcopy, hcopied⟩

/-- A backup, a file that is broken, and **a directory where a file was**. -/
def sampleWreck : FileSystem where
  entries := [(["kept.js"], .file [0x61]), (["cli.js"], .file [0x62]), (["lost.js"], .directory)]

/-- A file that cannot be read **to its end**. -/
def sampleUnread : BrokenCopy where
  bytes? := some 0
  message := "[Errno 5] Input/output error"

theorem restore_spec_sample :
    (restore sampleWreck { parts := ["kept.js"] } { parts := ["cli.js"] }).1.read
      { parts := ["cli.js"] } = .ok [0x61] ∧
    (restore sampleWreck { parts := ["kept.js"] } { parts := ["lost.js"] }).1.read
      { parts := ["lost.js", "kept.js"] } = .ok [0x61] ∧
    (restore sampleWreck { parts := ["gone.js"] } { parts := ["cli.js"] }).1 = sampleWreck ∧
    (restore sampleWreck { parts := ["kept.js"] } { parts := ["cli.js"] } sampleUnread).1.read
      { parts := ["kept.js"] } = .ok [0x61] := by
  obtain ⟨-, -, hfile, -⟩ :=
    restore_spec sampleWreck { parts := ["kept.js"] } { parts := ["cli.js"] } none
  obtain ⟨-, -, -, hdirectory, -⟩ :=
    restore_spec sampleWreck { parts := ["kept.js"] } { parts := ["lost.js"] } none
  obtain ⟨-, hfailed, -⟩ :=
    restore_spec sampleWreck { parts := ["gone.js"] } { parts := ["cli.js"] } none
  obtain ⟨-, -, -, -, hbackup⟩ :=
    restore_spec sampleWreck { parts := ["kept.js"] } { parts := ["cli.js"] } (some sampleUnread)
  have hkept : sampleWreck.read { parts := ["kept.js"] } = .ok [0x61] := by decide +kernel
  obtain ⟨bytes, hbytes, -, hcli⟩ :=
    ((hfile (by decide +kernel)).2 (by decide +kernel)).read_eq
  obtain ⟨bytes', hbytes', -, hlost⟩ :=
    (hdirectory (by decide +kernel) (by decide +kernel)).2.read_eq
  obtain rfl := Except.ok.inj (hbytes.symm.trans hkept)
  obtain rfl := Except.ok.inj (hbytes'.symm.trans hkept)
  obtain hsame | ⟨b, hnone, -⟩ := hfailed (by decide +kernel)
  · exact ⟨hcli, hlost, hsame, hbackup _ hkept⟩
  · cases hnone

/-- The answer `true` **does not mean** that the target has the bytes of the backup. -/
theorem not_restore_exact : ¬ ∀ (fs : FileSystem) (backup target : Path),
    (restore fs backup target).2.result = .ok true → ∃ bytes,
      fs.read backup = .ok bytes ∧ (restore fs backup target).1.read target = .ok bytes := by
  intro h
  obtain ⟨bytes, -, hread⟩ :=
    h sampleWreck { parts := ["kept.js"] } { parts := ["lost.js"] } (by decide +kernel)
  have hrefused : (restore sampleWreck { parts := ["kept.js"] } { parts := ["lost.js"] }).1.read
      { parts := ["lost.js"] } = .error .isDirectory := by decide +kernel
  cases hrefused.symm.trans hread

end Backup

end BundlePatch
