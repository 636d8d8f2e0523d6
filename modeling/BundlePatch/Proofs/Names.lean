import BundlePatch.Text.Slice
import Mathlib.Data.List.Basic

/-!
# Proofs/Names — names, blanks, and the one way to cut a text at the end of a run

A name is a run of identifier characters, and **no blank is one of them**
(`isIdentifier_of_isBlank`), so a text can be cut into a run of either class and a rest that goes on
otherwise in **only one way** (`run_unique`).
-/

namespace BundlePatch

/-- Whether all characters of a text are of a class is decided **by going through the text**: there
are only finitely many characters, but too many to go through. -/
instance (s : Text) (p : Char → Bool) : Decidable (∀ c ∈ s, p c = true) :=
  decidable_of_iff (s.all p = true) List.all_eq_true

/-- A **name**: identifier characters, at least one. -/
def IsName (n : Text) : Prop := n ≠ [] ∧ ∀ c ∈ n, isIdentifier c = true

instance (n : Text) : Decidable (IsName n) := inferInstanceAs (Decidable (_ ∧ _))

/-- The code points of the **blanks**. -/
def blanks : List Nat :=
  List.range' 0x09 5 ++ List.range' 0x1C 5 ++ [0x85, 0xA0, 0x1680] ++ List.range' 0x2000 11 ++
    [0x2028, 0x2029, 0x202F, 0x205F, 0x3000]

theorem toNat_mem_blanks {c : Char} (h : isBlank c = true) : c.toNat ∈ blanks := by
  simp only [isBlank, Bool.or_eq_true, Bool.and_eq_true, decide_eq_true_eq, beq_iff_eq] at h
  simp only [blanks, List.mem_append, List.mem_range'_1, List.mem_cons, List.not_mem_nil, or_false]
  omega

/-- **No blank belongs to a name.** -/
theorem isIdentifier_of_isBlank {c : Char} (h : isBlank c = true) : isIdentifier c = false := by
  have hall : ∀ n ∈ blanks, isIdentifier (Char.ofNat n) = false := by decide +kernel
  rw [← Char.ofNat_toNat c]
  exact hall _ (toNat_mem_blanks h)

theorem isBlank_of_isIdentifier {c : Char} (h : isIdentifier c = true) : isBlank c = false := by
  by_contra hb
  rw [Bool.not_eq_false] at hb
  rw [isIdentifier_of_isBlank hb] at h
  cases h

theorem IsName.notMem {n : Text} (h : IsName n) {c : Char} (hc : isIdentifier c = false) : c ∉ n :=
  fun hm => by
    rw [h.2 c hm] at hc
    cases hc

namespace Text

variable {u v u' v' w : Text}

/-- **The one way to cut off a run**: the run ends where a character of another class comes. -/
theorem run_unique {p : Char → Bool} (hu : ∀ c ∈ u, p c = true) (hu' : ∀ c ∈ u', p c = true)
    (hv : ∀ c ∈ v.head?, p c = false) (hv' : ∀ c ∈ v'.head?, p c = false)
    (h : u ++ v = u' ++ v') : u = u' ∧ v = v' := by
  induction u generalizing u' with
  | nil =>
    cases u' with
    | nil => exact ⟨rfl, h⟩
    | cons d u' =>
      obtain rfl : v = d :: (u' ++ v') := h
      have hd := hu' d List.mem_cons_self
      rw [hv d rfl] at hd
      cases hd
  | cons c u ih =>
    cases u' with
    | nil =>
      obtain rfl : c :: (u ++ v) = v' := h
      have hc := hu c List.mem_cons_self
      rw [hv' c rfl] at hc
      cases hc
    | cons d u' =>
      rw [List.cons_append, List.cons_append, List.cons.injEq] at h
      obtain ⟨rfl, h⟩ := h
      obtain ⟨rfl, rfl⟩ := ih (fun c hc => hu c (List.mem_cons_of_mem _ hc))
        (fun c hc => hu' c (List.mem_cons_of_mem _ hc)) h
      exact ⟨rfl, rfl⟩

/-- The one way to cut a text **at its first** `c`. -/
theorem cut_unique {c : Char} (hu : c ∉ u) (hu' : c ∉ u') (h : u ++ c :: v = u' ++ c :: v') :
    u = u' ∧ v = v' := by
  have hne : ∀ {w : Text}, c ∉ w → ∀ d ∈ w, (d != c) = true := fun hw d hd => by
    rw [bne_iff_ne]
    rintro rfl
    exact hw hd
  obtain ⟨rfl, hv⟩ := run_unique (hne hu) (hne hu') (by simp) (by simp) h
  exact ⟨rfl, (List.cons.inj hv).2⟩

/-- …and **at its last**. -/
theorem cut_unique_last {c : Char} (hv : c ∉ v) (hv' : c ∉ v') (h : u ++ c :: v = u' ++ c :: v') :
    u = u' ∧ v = v' := by
  have hrev := congrArg List.reverse h
  simp only [List.reverse_append, List.reverse_cons, List.append_assoc, List.singleton_append]
    at hrev
  obtain ⟨hvv, huu⟩ := cut_unique (by simpa using hv) (by simpa using hv') hrev
  exact ⟨List.reverse_injective huu, List.reverse_injective hvv⟩

/-- A prefix of two texts in a row **ends in the first, or has it all**. -/
theorem prefix_append_cases (h : w <+: u ++ v) : w <+: u ∨ ∃ z, w = u ++ z ∧ z <+: v := by
  rcases List.prefix_or_prefix_of_prefix h (List.prefix_append u v) with hw | ⟨z, rfl⟩
  · exact Or.inl hw
  · exact Or.inr ⟨z, rfl, (List.prefix_append_right_inj u).1 h⟩

/-- A prefix **without the character** `c` ends before `c`. -/
theorem prefix_of_notMem {c : Char} (h : w <+: u ++ c :: v) (hc : c ∉ w) : w <+: u := by
  rcases prefix_append_cases h with hw | ⟨z, rfl, hz⟩
  · exact hw
  · cases z with
    | nil => simp
    | cons d z =>
      obtain ⟨rfl, -⟩ := List.cons_prefix_cons.1 hz
      simp at hc

/-- A character that is **not in the first** of two texts stands in the second. -/
theorem exists_of_notMem_left {c : Char} {z : Text} (h : u ++ v = w ++ c :: z) (hu : c ∉ u) :
    ∃ y, w = u ++ y ∧ v = y ++ c :: z := by
  obtain ⟨y, hw, hv⟩ | ⟨y, hu', hz⟩ := List.append_eq_append_iff.1 h
  · exact ⟨y, hw, hv⟩
  · cases y with
    | nil => exact ⟨[], by simpa using hu'.symm, hz.symm⟩
    | cons d y =>
      obtain ⟨rfl, -⟩ := List.cons.inj hz
      exact absurd (hu' ▸ List.mem_append_right w List.mem_cons_self) hu

/-- …and one that is **not in the second** stands in the first. -/
theorem exists_of_notMem_right {c : Char} {z : Text} (h : u ++ c :: v = w ++ z) (hz : c ∉ z) :
    ∃ y, w = u ++ c :: y ∧ v = y ++ z := by
  obtain ⟨y, hw, hv⟩ | ⟨y, -, hz'⟩ := List.append_eq_append_iff.1 h
  · cases y with
    | nil =>
      obtain rfl : c :: v = z := hv
      exact absurd List.mem_cons_self hz
    | cons d y =>
      obtain ⟨rfl, rfl⟩ := List.cons.inj hv
      exact ⟨y, hw, rfl⟩
  · exact absurd (hz' ▸ List.mem_append_right y List.mem_cons_self) hz

/-- A text **without the character** is one piece. -/
theorem pieces_of_notMem {c : Char} (h : c ∉ u) : u.pieces c = [u] := by
  induction u with
  | nil => rfl
  | cons d u ih =>
    rw [List.mem_cons, not_or] at h
    rw [pieces, if_neg (Ne.symm h.1), ih h.2]

/-- A piece that is **not the first** is a piece of every longer text with that end. -/
theorem mem_tail_pieces_append {c : Char} {piece : Text} (w : Text)
    (h : piece ∈ (u.pieces c).tail) : piece ∈ (pieces c (w ++ u)).tail := by
  induction w with
  | nil => exact h
  | cons d w ih =>
    rw [List.cons_append, pieces]
    split
    · exact List.mem_of_mem_tail ih
    · obtain ⟨first, rest, hpieces⟩ := List.exists_cons_of_ne_nil (pieces_ne_nil c (w ++ u))
      rw [hpieces] at ih ⊢
      exact ih

/-- A text **without blanks at its ends** is trim already. -/
theorem trim_eq_self (hhead : ∀ c ∈ u.head?, isBlank c = false)
    (hlast : ∀ c ∈ u.getLast?, isBlank c = false) : u.trim = u := by
  have hkeep : ∀ {s : Text}, (∀ c ∈ s.head?, isBlank c = false) → s.dropWhile isBlank = s := by
    intro s hs
    cases s with
    | nil => rfl
    | cons c s => rw [List.dropWhile_cons, if_neg (by simp [hs c rfl])]
  rw [trim, hkeep hhead, hkeep (by simpa using hlast), List.reverse_reverse]

/-- The **middle** of three texts. -/
theorem slice_middle (a b c : Text) :
    (a ++ (b ++ c)).slice a.length (a.length + b.length : Nat) = b := by
  rw [slice_of_le (Nat.le_add_right _ _) (by simp)]
  simp

end Text

end BundlePatch
