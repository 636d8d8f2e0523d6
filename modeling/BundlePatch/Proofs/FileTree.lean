import BundlePatch.Backup

/-!
# Proofs/FileTree — what a path leads to, while files come and go

Where a path leads depends on **directories only** (`FileSystem.follow_of_directories`), so it leads
there again in every file system that has these directories.  Two relations say what one file system
keeps of another:

* `Grows` — everything that stands there;
* `SameOff` — all that stands there and nothing else, but for one location.
-/

namespace BundlePatch

namespace FileSystem

variable {fs fs' fs'' : FileSystem} {p dir : Path} {here here' loc place spot : Location}
  {name : String} {names : List String} {entry : Entry} {bytes : List UInt8}

/-! ## The operations, by what stands where -/

theorem stat_eq_ok_iff :
    fs.stat p = .ok (loc, entry) ↔ fs.follow p = .ok loc ∧ fs.get? loc = some entry := by
  rw [stat, bind_eq_ok_iff]
  constructor
  · rintro ⟨loc', hfollow, h⟩
    cases hget : fs.get? loc' with
    | none =>
      rw [hget] at h
      cases h
    | some entry' =>
      rw [hget] at h
      obtain ⟨rfl, rfl⟩ := Prod.mk.inj (Except.ok.inj h)
      exact ⟨hfollow, hget⟩
  · rintro ⟨hfollow, hget⟩
    exact ⟨loc, hfollow, by rw [hget]⟩

/-- Where a file stands, there is **no directory**. -/
theorem get?_ne_of_stat (h : fs.stat p = .ok (loc, .file bytes)) :
    fs.get? loc ≠ some .directory := by
  rw [(stat_eq_ok_iff.1 h).2]
  exact nofun

theorem read_eq_ok_iff : fs.read p = .ok bytes ↔ ∃ loc, fs.stat p = .ok (loc, .file bytes) := by
  rw [read, bind_eq_ok_iff]
  constructor
  · rintro ⟨⟨loc, entry⟩, hstat, h⟩
    cases entry with
    | directory => cases h
    | file bytes' =>
      obtain rfl := Except.ok.inj h
      exact ⟨loc, hstat⟩
  · rintro ⟨loc, hstat⟩
    exact ⟨_, hstat, rfl⟩

theorem write_eq_ok_iff : fs.write p bytes = .ok fs' ↔ ∃ loc, fs.follow p = .ok loc ∧
    fs.get? loc ≠ some .directory ∧ fs' = fs.put loc (.file bytes) := by
  rw [write, bind_eq_ok_iff]
  constructor
  · rintro ⟨loc, hfollow, h⟩
    split at h
    next => cases h
    next hnot => exact ⟨loc, hfollow, hnot, (Except.ok.inj h).symm⟩
  · rintro ⟨loc, hfollow, hnot, rfl⟩
    refine ⟨loc, hfollow, ?_⟩
    split
    next hdir => exact absurd hdir hnot
    next => rfl

theorem makeDirectory_eq_ok_iff : fs.makeDirectory p = .ok fs' ↔ ∃ loc, fs.follow p = .ok loc ∧
    fs.get? loc = none ∧ fs' = fs.put loc .directory := by
  rw [makeDirectory, bind_eq_ok_iff]
  constructor
  · rintro ⟨loc, hfollow, h⟩
    split at h
    next => cases h
    next hnone => exact ⟨loc, hfollow, hnone, (Except.ok.inj h).symm⟩
  · rintro ⟨loc, hfollow, hnone, rfl⟩
    exact ⟨loc, hfollow, by rw [hnone]⟩

theorem isDirectory_iff : fs.isDirectory p = true ↔
    p.hasNul = false ∧ ∃ loc, fs.stat p = .ok (loc, .directory) := by
  rw [isDirectory, Bool.and_eq_true, Bool.not_eq_true']
  refine and_congr_right fun _ => ?_
  constructor
  · intro h
    split at h
    next loc hstat => exact ⟨loc, hstat⟩
    next => cases h
  · rintro ⟨loc, hstat⟩
    rw [hstat]

theorem exists?_eq_true_iff :
    fs.exists? p = .ok true ↔ p.hasNul = false ∧ ∃ loc entry, fs.stat p = .ok (loc, entry) := by
  rw [exists?]
  by_cases hnul : p.hasNul = true
  · simp [hnul]
  · rw [if_neg hnul, and_iff_right (eq_false_of_ne_true hnul)]
    split
    next found hstat => exact ⟨fun _ => ⟨found.1, found.2, hstat⟩, fun _ => rfl⟩
    next hstat => simp [hstat]
    next why _ hstat => simp [hstat]

/-- The names in a directory are those **at which something stands**. -/
theorem mem_namesIn : name ∈ fs.namesIn loc ↔ (fs.get? (loc ++ [name])).isSome := by
  have hkey : (fs.get? (loc ++ [name])).isSome ↔ ∃ e ∈ fs.entries, e.1 = loc ++ [name] := by
    rw [get?, if_neg (List.concat_ne_nil name loc), List.lookup_isSome_iff]
    exact exists_congr fun e => and_congr_right fun _ => by rw [beq_iff_eq, eq_comm]
  rw [hkey, namesIn, List.mem_filterMap]
  refine exists_congr fun e => and_congr_right fun _ => ?_
  rw [Option.ite_none_right_eq_some]
  constructor
  · rintro ⟨hdrop, hlast⟩
    obtain ⟨front, hfront⟩ := List.getLast?_eq_some_iff.1 hlast
    rw [hfront, List.dropLast_concat] at hdrop
    rw [hfront, hdrop]
  · intro h
    rw [h, List.dropLast_concat, List.getLast?_concat]
    exact ⟨rfl, rfl⟩

/-! ## Where a path leads -/

/-- The location **one name on**. -/
def next (here : Location) (name : String) : Location :=
  if name = ".." then here.dropLast else here ++ [name]

/-- A name is stepped over from **a directory**, and a name that is none of the two points is not
too long. -/
theorem walk_cons_eq_ok_iff : fs.walk here (name :: names) = .ok loc ↔
    fs.get? here = some .directory ∧ (name ≠ ".." → name.utf8ByteSize ≤ maxName) ∧
      fs.walk (next here name) names = .ok loc := by
  rw [walk, next]
  split
  next hnone => simp [hnone]
  next hfile => simp [hfile]
  next hdir =>
    by_cases hup : name = ".."
    · simp [hdir, hup]
    · by_cases hlong : maxName < name.utf8ByteSize
      · simp [hup, hlong, Nat.not_le.2 hlong]
      · simp [hdir, hup, hlong, Nat.not_lt.1 hlong]

theorem walk_append_eq_ok_iff {xs ys : List String} : fs.walk here (xs ++ ys) = .ok loc ↔
    ∃ mid, fs.walk here xs = .ok mid ∧ fs.walk mid ys = .ok loc := by
  induction xs generalizing here with
  | nil => simp [walk]
  | cons x xs ih =>
    simp only [List.cons_append, walk_cons_eq_ok_iff, ih]
    grind

/-- A walk is the same **wherever its directories are**. -/
theorem walk_of_directories
    (hdir : ∀ loc, fs.get? loc = some .directory → fs'.get? loc = some .directory)
    (h : fs.walk here names = .ok loc) : fs'.walk here names = .ok loc := by
  induction names generalizing here with
  | nil => exact h
  | cons name names ih =>
    obtain ⟨hhere, hshort, hrest⟩ := walk_cons_eq_ok_iff.1 h
    exact walk_cons_eq_ok_iff.2 ⟨hdir here hhere, hshort, ih hrest⟩

/-- Names that can be walked over somewhere are **too long nowhere**. -/
theorem walk_ne_nameTooLong (h : fs.walk here names = .ok loc) (here' : Location) :
    fs'.walk here' names ≠ .error .nameTooLong := by
  induction names generalizing here here' with
  | nil => exact fun hnil => by cases hnil
  | cons name names ih =>
    obtain ⟨-, hshort, hrest⟩ := walk_cons_eq_ok_iff.1 h
    rw [walk]
    split
    next => exact fun hmissing => by cases hmissing
    next => exact fun hfile => by cases hfile
    next =>
      by_cases hup : name = ".."
      · rw [if_pos hup]
        exact ih hrest _
      · rw [if_neg hup, if_neg (Nat.not_lt.2 (hshort hup))]
        exact ih hrest _

/-- Where a path starts. -/
def start (fs : FileSystem) (p : Path) : Location :=
  match p.root with
  | .here => fs.cwd
  | _ => []

theorem follow_eq_ok_iff : fs.follow p = .ok loc ↔
    p.toString.utf8ByteSize < maxPath ∧ fs.walk (fs.start p) p.parts = .ok loc := by
  rw [follow]
  split
  next hlong => simp [Nat.not_lt.2 hlong]
  next hshort => exact (and_iff_right (Nat.not_le.1 hshort)).symm

/-- A path leads to the same location **wherever its directories are**. -/
theorem follow_of_directories (hcwd : fs'.cwd = fs.cwd)
    (hdir : ∀ loc, fs.get? loc = some .directory → fs'.get? loc = some .directory)
    (h : fs.follow p = .ok loc) : fs'.follow p = .ok loc := by
  rw [follow_eq_ok_iff] at h ⊢
  rw [start, hcwd]
  exact ⟨h.1, walk_of_directories hdir h.2⟩

/-- A path that leads somewhere can be **looked at everywhere**. -/
theorem exists?_of_follow (h : fs.follow p = .ok loc) : ∃ there, fs'.exists? p = .ok there := by
  obtain ⟨hshort, hwalk⟩ := follow_eq_ok_iff.1 h
  rw [exists?]
  split
  next => exact ⟨false, rfl⟩
  next =>
    split
    next => exact ⟨true, rfl⟩
    next hlong =>
      -- `stat` is too long only where `follow` is
      exfalso
      rw [stat, follow, if_neg (Nat.not_le.2 hshort)] at hlong
      generalize hw : fs'.walk _ p.parts = w at hlong
      cases w with
      | error why =>
        obtain rfl : why = .nameTooLong := by simpa [bind, Except.bind] using hlong
        exact walk_ne_nameTooLong hwalk _ hw
      | ok loc' =>
        simp only [bind, Except.bind] at hlong
        split at hlong <;> cases hlong
    next => exact ⟨false, rfl⟩

/-- A name in a directory **leads to where it stands**. -/
theorem follow_child (hdir : fs.follow dir = .ok loc) (hname : name ≠ "..")
    (h : fs.follow (dir.child name) = .ok place) : place = loc ++ [name] := by
  obtain ⟨-, hwalk⟩ := follow_eq_ok_iff.1 h
  obtain ⟨mid, hmid, hlast⟩ := walk_append_eq_ok_iff.1 hwalk
  obtain rfl := Except.ok.inj ((follow_eq_ok_iff.1 hdir).2.symm.trans hmid)
  obtain ⟨-, -, hend⟩ := walk_cons_eq_ok_iff.1 hlast
  rw [next, if_neg hname] at hend
  exact (Except.ok.inj hend).symm

/-! ## What one file system keeps of another -/

theorem ne_nil_of_get? (h : fs.get? loc ≠ some .directory) : loc ≠ [] := fun hnil =>
  h (hnil ▸ get?_nil fs)

theorem ne_nil_of_eq_none (h : fs.get? loc = none) : loc ≠ [] :=
  ne_nil_of_get? (by rw [h]; exact nofun)

/-- **Everything** that stands in one file system stands in the other. -/
structure Grows (fs fs' : FileSystem) : Prop where
  cwd : fs'.cwd = fs.cwd
  get?_eq : ∀ loc entry, fs.get? loc = some entry → fs'.get? loc = some entry

namespace Grows

theorem refl (fs : FileSystem) : fs.Grows fs := ⟨rfl, fun _ _ h => h⟩

theorem trans (h : fs.Grows fs') (h' : fs'.Grows fs'') : fs.Grows fs'' :=
  ⟨h'.cwd.trans h.cwd, fun loc entry hget => h'.get?_eq loc entry (h.get?_eq loc entry hget)⟩

/-- Nothing is lost where **nothing stood**. -/
theorem put (h : fs.get? place = none) (entry : Entry) : fs.Grows (fs.put place entry) := by
  refine ⟨rfl, fun loc entry' hget => ?_⟩
  rw [get?_put (ne_nil_of_eq_none h), if_neg ?_, hget]
  rintro rfl
  rw [h] at hget
  cases hget

theorem get?_eq_none (h : fs.Grows fs') (hnone : fs'.get? loc = none) : fs.get? loc = none := by
  cases hget : fs.get? loc with
  | none => rfl
  | some entry =>
    rw [h.get?_eq loc entry hget] at hnone
    cases hnone

theorem follow_eq (h : fs.Grows fs') (hfollow : fs.follow p = .ok loc) : fs'.follow p = .ok loc :=
  follow_of_directories h.cwd (fun loc => h.get?_eq loc .directory) hfollow

theorem stat_eq (h : fs.Grows fs') (hstat : fs.stat p = .ok (loc, entry)) :
    fs'.stat p = .ok (loc, entry) := by
  rw [stat_eq_ok_iff] at hstat ⊢
  exact ⟨h.follow_eq hstat.1, h.get?_eq loc entry hstat.2⟩

end Grows

/-- The same stands everywhere, **but at one location**. -/
structure SameOff (spot : Location) (fs fs' : FileSystem) : Prop where
  cwd : fs'.cwd = fs.cwd
  get?_eq : ∀ loc, loc ≠ spot → fs'.get? loc = fs.get? loc

namespace SameOff

theorem refl (spot : Location) (fs : FileSystem) : SameOff spot fs fs := ⟨rfl, fun _ _ => rfl⟩

theorem trans (h : SameOff spot fs fs') (h' : SameOff spot fs' fs'') : SameOff spot fs fs'' :=
  ⟨h'.cwd.trans h.cwd, fun loc hloc => (h'.get?_eq loc hloc).trans (h.get?_eq loc hloc)⟩

theorem put (h : spot ≠ []) (entry : Entry) : SameOff spot fs (fs.put spot entry) :=
  ⟨rfl, fun loc hloc => by rw [get?_put h, if_neg hloc]⟩

theorem of_write (hfollow : fs.follow p = .ok spot) (h : fs.write p bytes = .ok fs') :
    SameOff spot fs fs' := by
  obtain ⟨loc, hloc, hget, rfl⟩ := write_eq_ok_iff.1 h
  obtain rfl := Except.ok.inj (hfollow.symm.trans hloc)
  exact .put (ne_nil_of_get? hget) (.file bytes)

/-- A location that is no directory is **on no way**. -/
theorem follow_eq (h : SameOff spot fs fs') (hspot : fs.get? spot ≠ some .directory)
    (hfollow : fs.follow p = .ok loc) : fs'.follow p = .ok loc := by
  refine follow_of_directories h.cwd (fun loc hdir => ?_) hfollow
  rw [h.get?_eq loc fun hloc => hspot (hloc ▸ hdir), hdir]

theorem stat_eq (h : SameOff spot fs fs') (hspot : fs.get? spot ≠ some .directory)
    (hloc : loc ≠ spot) (hstat : fs.stat p = .ok (loc, entry)) :
    fs'.stat p = .ok (loc, entry) := by
  rw [stat_eq_ok_iff] at hstat ⊢
  rw [h.get?_eq loc hloc]
  exact ⟨h.follow_eq hspot hstat.1, hstat.2⟩

end SameOff

end FileSystem

end BundlePatch
