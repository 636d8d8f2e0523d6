import BundlePatch.Backup
import BundlePatch.Proofs.FileTree
import Mathlib.Data.List.Nodup
import Mathlib.Data.Nat.Find

/-!
# Proofs/Candidates — the search for a **free name**

The numbers are tried in turn, and the search ends at the first one at whose path nothing stands
(`Backup.StopsAt`).  There is such a number, and only one (`Backup.existsUnique_stopsAt`): no two
numbers have one name (`Backup.name_injective`), so a directory of `n` names holds no more than `n`
of them (`Backup.le_length_namesIn`).  That is also why the bound on the search never cuts it short
(`Backup.nextPath_eq`).
-/

namespace BundlePatch

/-! ## Looking at a name in a directory -/

namespace FileSystem

variable {fs : FileSystem} {p dir : Path} {loc : Location} {name : String} {e : FileError}

/-- What exists below a path is **one of the names** in the directory to which it leads. -/
theorem mem_namesIn_of_exists? (h : fs.exists? (dir.child name) = .ok true) (hname : name ≠ "..") :
    ∃ loc, fs.walk (fs.start dir) dir.parts = .ok loc ∧ name ∈ fs.namesIn loc := by
  obtain ⟨-, place, entry, hstat⟩ := exists?_eq_true_iff.1 h
  obtain ⟨hfollow, hget⟩ := stat_eq_ok_iff.1 hstat
  obtain ⟨mid, hmid, hlast⟩ := walk_append_eq_ok_iff.1 (follow_eq_ok_iff.1 hfollow).2
  obtain ⟨-, -, hend⟩ := walk_cons_eq_ok_iff.1 hlast
  rw [next, if_neg hname] at hend
  obtain rfl := Except.ok.inj hend
  exact ⟨mid, hmid, mem_namesIn.2 (by rw [hget]; rfl)⟩

/-- Where a path leads, **nothing stands** if nothing exists at it. -/
theorem get?_eq_none_of_exists? (h : fs.exists? p = .ok false) (hnul : p.hasNul = false)
    (hfollow : fs.follow p = .ok loc) : fs.get? loc = none := by
  cases hget : fs.get? loc with
  | none => rfl
  | some entry =>
    have htrue := exists?_eq_true_iff.2 ⟨hnul, loc, entry, stat_eq_ok_iff.2 ⟨hfollow, hget⟩⟩
    rw [h] at htrue
    cases htrue

theorem isDirectory_eq_false_of_exists? (h : fs.exists? p = .ok false) :
    fs.isDirectory p = false := by
  refine eq_false_of_ne_true fun hdir => ?_
  obtain ⟨hnul, loc, hstat⟩ := isDirectory_iff.1 hdir
  rw [exists?_eq_true_iff.2 ⟨hnul, loc, _, hstat⟩] at h
  cases h

/-- Looking fails only because **the environment refuses**. -/
theorem isEnvironmental_of_exists? (h : fs.exists? p = .error e) : e.isEnvironmental = true := by
  rw [exists?] at h
  split at h
  · cases h
  · split at h
    · cases h
    · exact Except.error.inj h ▸ rfl
    · cases h

end FileSystem

/-! ## Names with a NUL -/

namespace Path

variable {p : Path} {n : String}

theorem hasNul_iff : p.hasNul = true ↔ ∃ part ∈ p.parts, '\x00' ∈ part.toList := by
  simp [hasNul]

theorem hasNul_of_mem_name (h : '\x00' ∈ p.name.toList) : p.hasNul = true := by
  rw [name] at h
  cases hlast : p.parts.getLast? with
  | none =>
    rw [hlast] at h
    exact absurd h (by decide)
  | some part =>
    rw [hlast] at h
    exact hasNul_iff.2 ⟨part, List.mem_of_getLast? hlast, h⟩

/-- What a name is cut into holds **no NUL of its own**. -/
theorem hasNul_of_mem_splitName (h : '\x00' ∈ p.stem.toList ∨ '\x00' ∈ p.suffix.toList) :
    p.hasNul = true := by
  refine hasNul_of_mem_name ?_
  rw [stem, suffix, splitName] at h
  split at h
  · obtain h | h := h
    · rw [String.toList_ofList] at h
      exact List.mem_of_mem_take h
    · rw [String.toList_ofList] at h
      obtain hdot | hending := List.mem_cons.1 h
      · exact absurd hdot (by decide)
      · exact List.mem_reverse.1 (List.takeWhile_subset _ (List.mem_reverse.1 hending))
  · simpa using h

end Path

namespace Instant

theorem isDigit_of_mem_padded {width n : Nat} {c : Char} (h : c ∈ (padded width n).toList) :
    c.isDigit = true := by
  rw [padded, String.toList_append, List.mem_append, String.toList_ofList,
    Nat.toString_eq_ofList_toDigits, String.toList_ofList] at h
  obtain hzero | hdigit := h
  · rw [List.eq_of_mem_replicate hzero]
    decide
  · exact Nat.isDigit_of_mem_toDigits (by omega) (Nat.le_refl 10) hdigit

/-- There is **no NUL in a stamp**. -/
theorem notMem_stamp (t : Instant) : '\x00' ∉ t.stamp.toList := by
  have hyear : '\x00' ∉ Nat.toDigits 10 t.year := fun h =>
    absurd (Nat.isDigit_of_mem_toDigits (by omega) (Nat.le_refl 10) h) (by decide)
  have hpadded : ∀ width n, '\x00' ∉ (padded width n).toList := fun width n h =>
    absurd (isDigit_of_mem_padded h) (by decide)
  simp [stamp, toString, hyear, hpadded]

end Instant

namespace Backup

open FileSystem

variable {fs : FileSystem} {target dir backup : Path} {now : Instant} {loc : Location}
  {e : FileError} {i k : ℕ}

/-! ## The names -/

/-- What a number **adds to the name**. -/
def mark : Nat → Text
  | 0 => []
  | k + 1 => '-' :: Nat.toDigits 10 (k + 1)

theorem toList_name (target : Path) (now : Instant) (k : Nat) : (name target now k).toList =
    target.stem.toList ++ ('-' :: now.stamp.toList) ++ mark k ++ target.suffix.toList := by
  cases k with
  | zero => simp [name, mark, toString]
  | succ k => simp [name, mark, toString]

theorem mark_injective : Function.Injective mark := by
  intro j k h
  cases j with
  | zero =>
    cases k with
    | zero => rfl
    | succ k => cases h
  | succ j =>
    cases k with
    | zero => cases h
    | succ k =>
      have hread := congrArg (Nat.ofDigitChars 10 · 0) (List.cons.inj h).2
      simpa using hread

/-- **No two numbers** have one name. -/
theorem name_injective (target : Path) (now : Instant) : Function.Injective (name target now) := by
  intro j k h
  have hlist := congrArg String.toList h
  rw [toList_name, toList_name, List.append_cancel_right_eq, List.append_cancel_left_eq] at hlist
  exact mark_injective hlist

/-- The name of a backup is a name: there is a **dash** in it. -/
theorem name_ne_up (target : Path) (now : Instant) (k : Nat) : name target now k ≠ ".." := by
  intro h
  have hdash : '-' ∈ (name target now k).toList := by simp [toList_name]
  rw [h] at hdash
  exact absurd hdash (by decide)

theorem notMem_mark (k : ℕ) : '\x00' ∉ mark k := by
  cases k with
  | zero => exact List.not_mem_nil
  | succ k =>
    intro h
    obtain hdash | hdigit := List.mem_cons.1 h
    · exact absurd hdash (by decide)
    · exact absurd (Nat.isDigit_of_mem_toDigits (by omega) (Nat.le_refl 10) hdigit) (by decide)

/-- The path of a backup has a NUL **only from its directory or its target**. -/
theorem hasNul_of_candidate (h : (candidate dir target now k).hasNul = true) :
    target.hasNul = true ∨ dir.hasNul = true := by
  obtain ⟨part, hpart, hmem⟩ := Path.hasNul_iff.1 h
  obtain hdir | hname := List.mem_append.1 hpart
  · exact .inr (Path.hasNul_iff.2 ⟨part, hdir, hmem⟩)
  · rw [List.mem_singleton.1 hname, toList_name] at hmem
    have hsplit : '\x00' ∈ target.stem.toList ∨ '\x00' ∈ target.suffix.toList := by
      simpa [now.notMem_stamp, notMem_mark k] using hmem
    exact .inl (Path.hasNul_of_mem_splitName hsplit)

/-! ## Where the search ends -/

/-- Trying the numbers in turn **stops** at the first one at whose path nothing stands, or at which
looking fails. -/
structure StopsAt (fs : FileSystem) (dir target : Path) (now : Instant) (k : ℕ) : Prop where
  exists_of_lt : ∀ j < k, fs.exists? (candidate dir target now j) = .ok true
  not_exists : fs.exists? (candidate dir target now k) ≠ .ok true

/-- A directory **has no more backups** than names. -/
theorem le_length_namesIn (hdir : fs.walk (fs.start dir) dir.parts = .ok loc)
    (h : ∀ j < k, fs.exists? (candidate dir target now j) = .ok true) :
    k ≤ (fs.namesIn loc).length := by
  have hnodup : ((List.range k).map (name target now)).Nodup :=
    List.nodup_range.map (name_injective target now)
  have hsub : (List.range k).map (name target now) ⊆ fs.namesIn loc := by
    intro n hn
    obtain ⟨j, hj, rfl⟩ := List.mem_map.1 hn
    obtain ⟨loc', hdir', hmem⟩ :=
      mem_namesIn_of_exists? (h j (List.mem_range.1 hj)) (name_ne_up target now j)
    obtain rfl := Except.ok.inj (hdir.symm.trans hdir')
    exact hmem
  simpa using hnodup.length_le_of_subset hsub

/-- **The search ends**, at one number: the names of all numbers are too many for a directory. -/
theorem existsUnique_stopsAt (fs : FileSystem) (dir target : Path) (now : Instant) :
    ∃! k, StopsAt fs dir target now k := by
  have hends : ∃ k, fs.exists? (candidate dir target now k) ≠ .ok true := by
    by_contra hall
    have hthere : ∀ k, fs.exists? (candidate dir target now k) = .ok true := fun k =>
      Classical.not_not.1 fun h => hall ⟨k, h⟩
    obtain ⟨loc, hdir, -⟩ := mem_namesIn_of_exists? (hthere 0) (name_ne_up target now 0)
    have htoo := le_length_namesIn hdir fun j (_ : j < (fs.namesIn loc).length + 1) => hthere j
    omega
  classical
  refine ⟨Nat.find hends, ⟨fun j hj => ?_, Nat.find_spec hends⟩, fun k hk => ?_⟩
  · exact Classical.not_not.1 (Nat.find_min hends hj)
  · refine le_antisymm ?_ (Nat.find_min' hends hk.not_exists)
    by_contra hlt
    exact Nat.find_spec hends (hk.exists_of_lt _ (not_le.1 hlt))

/-- A search that **may pass over enough** numbers looks at the one at which it stops, and answers
with it. -/
theorem search_eq (h : StopsAt fs dir target now k) {taken : ℕ} (hi : i ≤ k) (hk : k ≤ i + taken) :
    search fs dir target now taken i = do
      let _ ← fs.exists? (candidate dir target now k)
      return candidate dir target now k := by
  induction taken generalizing i with
  | zero =>
    obtain rfl : i = k := by omega
    rfl
  | succ taken ih =>
    rw [search]
    obtain rfl | hlt := Nat.eq_or_lt_of_le hi
    · cases hlook : fs.exists? (candidate dir target now i) with
      | error why => rfl
      | ok there =>
        cases there with
        | false => rfl
        | true => exact absurd hlook h.not_exists
    · rw [h.exists_of_lt i hlt]
      exact ih hlt (by omega)

/-- **The next backup** has the number at which the search stops. -/
theorem nextPath_eq (hdir : fs.follow dir = .ok loc) (h : StopsAt fs dir target now k) :
    nextPath fs dir target now = do
      let _ ← fs.exists? (candidate dir target now k)
      return candidate dir target now k := by
  have hbound := le_length_namesIn (follow_eq_ok_iff.1 hdir).2 h.exists_of_lt
  rw [nextPath, hdir]
  exact search_eq h (Nat.zero_le k) (by rwa [Nat.zero_add])

/-- …and **nothing stands** at its path. -/
theorem exists_of_nextPath (hdir : fs.follow dir = .ok loc)
    (h : nextPath fs dir target now = .ok backup) :
    ∃ k, backup = candidate dir target now k ∧ StopsAt fs dir target now k ∧
      fs.exists? backup = .ok false := by
  obtain ⟨k, hk, -⟩ := existsUnique_stopsAt fs dir target now
  rw [nextPath_eq hdir hk] at h
  obtain ⟨there, hlook, hbackup⟩ := bind_eq_ok_iff.1 h
  obtain rfl := Except.ok.inj hbackup
  cases there with
  | false => exact ⟨k, rfl, hk, hlook⟩
  | true => exact absurd hlook hk.not_exists

/-- A search that fails is **refused by the environment**. -/
theorem isEnvironmental_of_nextPath (hdir : fs.follow dir = .ok loc)
    (h : nextPath fs dir target now = .error e) : e.isEnvironmental = true := by
  obtain ⟨k, hk, -⟩ := existsUnique_stopsAt fs dir target now
  rw [nextPath_eq hdir hk] at h
  obtain hlook | ⟨-, -, hbackup⟩ := bind_eq_error_iff.1 h
  · exact isEnvironmental_of_exists? hlook
  · cases hbackup

end Backup

end BundlePatch
