import BundlePatch.Proofs.FileTree

/-!
# Proofs/Copying — the ways a copy can end

A copy that can be made puts the bytes of its source at one location, where a file may stand but no
directory, and which is not that of the source (`FileSystem.exists_put_of_copy`).  So whatever
becomes of it, **that location is all that changes**: it is left as it was, or it gets the bytes, or
only the first of them (`FileSystem.copyUnless_ends`).
-/

namespace BundlePatch

namespace FileSystem

variable {fs fs' : FileSystem} {p source target : Path} {loc place spot : Location}
  {broken? : Option BrokenCopy} {bytes : List UInt8}

/-! ## What can be copied -/

theorem copyTarget_path_eq_or (fs : FileSystem) (source target : Path) :
    (fs.copyTarget source target).1.path = target ∨
      (fs.copyTarget source target).1.path = target.child source.baseText := by
  rw [copyTarget]
  split
  next =>
    dsimp only
    split
    next => exact .inl rfl
    next => exact .inr rfl
  next => exact .inl rfl

/-- A copy goes **to its target**, unless that is a directory. -/
theorem copyTarget_path (h : fs.isDirectory target = false) :
    (fs.copyTarget source target).1.path = target := by
  rw [copyTarget, h]
  rfl

theorem copy_eq_ok_iff : fs.copy source target = .ok fs' ↔
    source.hasNul = false ∧ target.hasNul = false ∧
      fs.sameEntry source (fs.copyTarget source target).1.path = false ∧
      ∃ bytes, fs.read source = .ok bytes ∧
        fs.write (fs.copyTarget source target).1.path bytes = .ok fs' := by
  rw [copy]
  by_cases hnul : (source.hasNul || target.hasNul) = true
  · rw [if_pos hnul]
    refine ⟨fun h => (by cases h), fun h => ?_⟩
    rw [h.1, h.2.1] at hnul
    cases hnul
  · obtain ⟨hsource, htarget⟩ := Bool.or_eq_false_iff.1 (eq_false_of_ne_true hnul)
    rw [if_neg hnul, and_iff_right hsource, and_iff_right htarget]
    dsimp only
    by_cases hsame : fs.sameEntry source (fs.copyTarget source target).1.path = true
    · rw [if_pos hsame]
      refine ⟨fun h => (by cases h), fun h => ?_⟩
      rw [h.1] at hsame
      cases hsame
    · rw [if_neg hsame, and_iff_right (eq_false_of_ne_true hsame)]
      simp only [bind_eq_ok_iff, mapError_eq_ok_iff]

/-- A copy is a misuse only of a path **with a NUL**. -/
theorem hasNul_of_copy (h : fs.copy source target = .error .embeddedNul) :
    source.hasNul = true ∨ target.hasNul = true := by
  rw [copy] at h
  by_cases hnul : (source.hasNul || target.hasNul) = true
  · exact Bool.or_eq_true_iff.1 hnul
  · rw [if_neg hnul] at h
    dsimp only at h
    split at h
    · cases h
    · obtain hread | ⟨bytes, -, hwrite⟩ := bind_eq_error_iff.1 h
      · obtain ⟨why, -, hwhy⟩ := mapError_eq_error_iff.1 hread
        cases hwhy
      · obtain ⟨why, -, hwhy⟩ := mapError_eq_error_iff.1 hwrite
        cases hwhy

theorem isDirectory_eq_false (hfollow : fs.follow p = .ok loc)
    (hloc : fs.get? loc ≠ some .directory) : fs.isDirectory p = false := by
  refine eq_false_of_ne_true fun h => ?_
  obtain ⟨-, loc', hstat⟩ := isDirectory_iff.1 h
  obtain ⟨hfollow', hget⟩ := stat_eq_ok_iff.1 hstat
  exact hloc (Except.ok.inj (hfollow.symm.trans hfollow') ▸ hget)

/-- A file can be copied **to wherever there is no directory**, except onto itself. -/
theorem copy_eq_put (hsource : source.hasNul = false) (htarget : target.hasNul = false)
    (hstat : fs.stat source = .ok (place, .file bytes)) (hfollow : fs.follow target = .ok loc)
    (hloc : fs.get? loc ≠ some .directory) (hne : place ≠ loc) :
    fs.copy source target = .ok (fs.put loc (.file bytes)) := by
  refine copy_eq_ok_iff.2 ⟨hsource, htarget, ?_⟩
  rw [copyTarget_path (isDirectory_eq_false hfollow hloc)]
  refine ⟨?_, bytes, read_eq_ok_iff.2 ⟨place, hstat⟩, write_eq_ok_iff.2 ⟨loc, hfollow, hloc, rfl⟩⟩
  rw [sameEntry, hstat]
  split
  next la ea lb eb hla hlb =>
    obtain rfl := (Prod.mk.inj (Except.ok.inj hla)).1
    obtain rfl := Except.ok.inj (hfollow.symm.trans (stat_eq_ok_iff.1 hlb).1)
    exact beq_false_of_ne hne
  next => rfl

/-- A copy that is made puts a file **where it lands**, and that is not where its source stands. -/
theorem exists_put_of_copy (h : fs.copy source target = .ok fs') :
    ∃ place bytes spot, fs.stat source = .ok (place, .file bytes) ∧
      fs.follow (fs.copyTarget source target).1.path = .ok spot ∧
      fs.get? spot ≠ some .directory ∧ place ≠ spot ∧ fs' = fs.put spot (.file bytes) := by
  obtain ⟨-, -, hsame, bytes, hread, hwrite⟩ := copy_eq_ok_iff.1 h
  obtain ⟨place, hstat⟩ := read_eq_ok_iff.1 hread
  obtain ⟨spot, hfollow, hfree, rfl⟩ := write_eq_ok_iff.1 hwrite
  refine ⟨place, bytes, spot, hstat, hfollow, hfree, ?_, rfl⟩
  -- otherwise there would be one entry at both paths
  rintro rfl
  rw [sameEntry, hstat, stat_eq_ok_iff.2 ⟨hfollow, (stat_eq_ok_iff.1 hstat).2⟩] at hsame
  simp at hsame

/-- A copy lands **at its target or directly in it**. -/
theorem exists_eq_put_of_copy (h : fs.copy source target = .ok fs')
    (hfollow : fs.follow target = .ok spot) (hbase : source.baseText ≠ "..") :
    ∃ loc bytes, (loc = spot ∨ loc.dropLast = spot) ∧ fs.get? loc ≠ some .directory ∧
      fs' = fs.put loc (.file bytes) := by
  obtain ⟨-, bytes, loc, -, hloc, hfree, -, rfl⟩ := exists_put_of_copy h
  refine ⟨loc, bytes, ?_, hfree, rfl⟩
  obtain hpath | hpath := copyTarget_path_eq_or fs source target
  · rw [hpath, hfollow] at hloc
    exact .inl (Except.ok.inj hloc).symm
  · rw [hpath] at hloc
    rw [follow_child hfollow hbase hloc, List.dropLast_concat]
    exact .inr rfl

/-! ## What becomes of a copy -/

/-- The ways a copy can **end**, each with the files that it leaves. -/
inductive CopyEnds (fs : FileSystem) (broken? : Option BrokenCopy) (source target : Path) :
    FileSystem → Except FileError Unit → Prop
  /-- It is made. -/
  | whole {fs' : FileSystem} (hnone : broken? = none) (hcopy : fs.copy source target = .ok fs') :
      CopyEnds fs broken? source target fs' (.ok ())
  /-- It cannot be made. -/
  | refused {e : FileError} (hcopy : fs.copy source target = .error e) :
      CopyEnds fs broken? source target fs (.error e)
  /-- It is broken off before its target is opened. -/
  | unopened {b : BrokenCopy} (hbroken : broken? = some b) :
      CopyEnds fs broken? source target fs (.error (.brokenOff b.message))
  /-- It is broken off when so many bytes have been copied. -/
  | cut {b : BrokenCopy} {n : Nat} {place spot : Location} {bytes : List UInt8}
      (hbroken : broken? = some b) (hbytes : b.bytes? = some n)
      (hcopy : fs.copy source target = .ok (fs.put spot (.file bytes)))
      (hstat : fs.stat source = .ok (place, .file bytes))
      (hfollow : fs.follow (fs.copyTarget source target).1.path = .ok spot)
      (hfree : fs.get? spot ≠ some .directory) (hne : place ≠ spot) :
      CopyEnds fs broken? source target (fs.put spot (.file (bytes.take n)))
        (.error (.brokenOff b.message))

theorem copyUnless_ends (fs : FileSystem) (broken? : Option BrokenCopy) (source target : Path) :
    CopyEnds fs broken? source target (fs.copyUnless broken? source target).1
      (fs.copyUnless broken? source target).2 := by
  rw [copyUnless]
  split
  next why hcopy => exact .refused hcopy
  next fs' hcopy =>
    cases broken? with
    | none => exact .whole rfl hcopy
    | some b =>
      obtain ⟨place, bytes, spot, hstat, hfollow, hfree, hne, rfl⟩ := exists_put_of_copy hcopy
      have hread := read_eq_ok_iff.2 ⟨place, hstat⟩
      cases hbytes : b.bytes? with
      | none =>
        simp only [BrokenCopy.leave, hbytes]
        exact .unopened rfl
      | some n =>
        have hwrite : fs.write _ (bytes.take n) = .ok _ :=
          write_eq_ok_iff.2 ⟨spot, hfollow, hfree, rfl⟩
        simp only [BrokenCopy.leave, hbytes, hread]
        rw [writeIfPossible, hwrite]
        exact .cut rfl hbytes hcopy hstat hfollow hfree hne

/-- A copy is made **if it can be, and is not broken off**. -/
theorem copyUnless_eq_ok_iff : fs.copyUnless broken? source target = (fs', .ok ()) ↔
    broken? = none ∧ fs.copy source target = .ok fs' := by
  constructor
  · intro h
    have hends := copyUnless_ends fs broken? source target
    rw [h] at hends
    cases hends with
    | whole hnone hcopy => exact ⟨hnone, hcopy⟩
  · rintro ⟨rfl, hcopy⟩
    rw [copyUnless, hcopy]

end FileSystem

end BundlePatch
