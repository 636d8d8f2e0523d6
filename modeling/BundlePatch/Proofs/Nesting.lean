import BundlePatch.Brackets
import BundlePatch.Proofs.Language

/-!
# Proofs/Nesting — well nested texts, and the bracket that a search stops at

A text is **well nested** (`Nested`) when no beginning of it closes more than it opens, and the
whole closes what it opens.  Read character by character this is a depth that never falls below zero
and ends there (`climb`), which is what `unmatched` keeps count of: it stops at the first closing
bracket behind a well nested text (`unmatched_eq_some_iff`), and there is one wherever more is
closed than opened (`exists_nested_append`).
-/

namespace BundlePatch

variable {o c : Char} {s t : Text}

/-- **Well nested** brackets `o` and `c`. -/
def Nested (o c : Char) (s : Text) : Prop :=
  (∀ w, w <+: s → w.count c ≤ w.count o) ∧ s.count o = s.count c

/-- The **depth** after a text that is entered at depth `d`; none if it falls below zero. -/
def climb (o c : Char) : Nat → Text → Option Nat
  | d, [] => some d
  | d, x :: s =>
    if x = o then climb o c (d + 1) s
    else if x = c then if d = 0 then none else climb o c (d - 1) s
    else climb o c d s

theorem climb_append (d : Nat) : climb o c d (s ++ t) = (climb o c d s).bind (climb o c · t) := by
  induction s generalizing d with
  | nil => rfl
  | cons x s ih =>
    simp only [List.cons_append, climb, ih]
    split_ifs <;> rfl

/-- A text **without brackets** keeps the depth. -/
theorem climb_of_notMem (ho : o ∉ s) (hc : c ∉ s) (d : Nat) : climb o c d s = some d := by
  induction s with
  | nil => rfl
  | cons x s ih =>
    rw [List.mem_cons, not_or] at ho hc
    rw [climb, if_neg (Ne.symm ho.1), if_neg (Ne.symm hc.1)]
    exact ih ho.2 hc.2

theorem forall_prefix_cons {P : Text → Prop} {x : Char} :
    (∀ w, w <+: x :: s → P w) ↔ P [] ∧ ∀ w, w <+: s → P (x :: w) := by
  constructor
  · exact fun h => ⟨h [] List.nil_prefix, fun w hw => h _ (List.cons_prefix_cons.2 ⟨rfl, hw⟩)⟩
  · rintro ⟨hnil, hcons⟩ w hw
    rcases List.prefix_cons_iff.1 hw with rfl | ⟨w, rfl, hw'⟩
    · exact hnil
    · exact hcons w hw'

/-- The depth, **by counting**. -/
theorem climb_eq_some_iff (hoc : o ≠ c) {d e : Nat} : climb o c d s = some e ↔
    (∀ w, w <+: s → w.count c ≤ d + w.count o) ∧ d + s.count o = e + s.count c := by
  induction s generalizing d with
  | nil => simp [climb]
  | cons x s ih =>
    rw [climb, forall_prefix_cons]
    by_cases hxo : x = o
    · subst hxo
      simp only [if_true, ih, List.count_cons_self, List.count_cons_of_ne hoc, List.count_nil,
        Nat.zero_le, true_and, Nat.add_assoc, Nat.add_comm 1]
    · rw [if_neg hxo]
      by_cases hxc : x = c
      · subst hxc
        simp only [if_true, List.count_cons_self, List.count_cons_of_ne hoc.symm, List.count_nil]
        by_cases hd : d = 0
        · -- the closing bracket itself is a beginning that closes too much
          subst hd
          simp only [if_true, reduceCtorEq, false_iff, not_and]
          intro h
          have := h.2 [] List.nil_prefix
          simp at this
        · rw [if_neg hd, ih]
          constructor
          · rintro ⟨h, he⟩
            exact ⟨⟨by omega, fun w hw => by have := h w hw; omega⟩, by omega⟩
          · rintro ⟨⟨-, h⟩, he⟩
            exact ⟨fun w hw => by have := h w hw; omega, by omega⟩
      · simp only [if_neg hxc, ih, List.count_cons_of_ne hxo, List.count_cons_of_ne hxc,
          List.count_nil, Nat.zero_le, true_and]

theorem nested_iff_climb (hoc : o ≠ c) : Nested o c s ↔ climb o c 0 s = some 0 := by
  simp [climb_eq_some_iff hoc, Nested]

namespace Nested

theorem append (hoc : o ≠ c) (hs : Nested o c s) (ht : Nested o c t) : Nested o c (s ++ t) := by
  rw [nested_iff_climb hoc] at *
  rw [climb_append, hs]
  exact ht

/-- What is left **before** a well nested end is well nested. -/
theorem of_append_right (h : Nested o c (s ++ t)) (ht : Nested o c t) : Nested o c s := by
  refine ⟨fun w hw => h.1 w (hw.trans (List.prefix_append s t)), ?_⟩
  have hst := h.2
  simp only [List.count_append] at hst
  have := ht.2
  omega

/-- Read **backwards**, with the brackets in each other's place. -/
theorem reverse (h : Nested o c s) : Nested c o s.reverse := by
  refine ⟨fun w hw => ?_, by simp [h.2]⟩
  obtain ⟨u, hu⟩ := hw
  have hs : s = u.reverse ++ w.reverse := by rw [← List.reverse_append, hu, List.reverse_reverse]
  have hpre := h.1 u.reverse ⟨w.reverse, hs.symm⟩
  have htotal := h.2
  rw [hs] at htotal
  simp only [List.count_append, List.count_reverse] at hpre htotal
  omega

/-- A well nested text **does not end inside** a bracket that it opens. -/
theorem not_append_cons (hoc : o ≠ c) (hs : Nested o c (s ++ o :: t)) : ¬ Nested o c t := by
  intro ht
  have hpre := hs.1 s (List.prefix_append s _)
  have htotal := hs.2
  simp only [List.count_append, List.count_cons_self, List.count_cons_of_ne hoc] at htotal
  have := ht.2
  omega

end Nested

/-! ## The bracket that is left over -/

theorem exists_climb_of_count_lt (hoc : o ≠ c) {d : Nat} (h : d + s.count o < s.count c) :
    ∃ w r, s = w ++ c :: r ∧ climb o c d w = some 0 := by
  induction s generalizing d with
  | nil => simp at h
  | cons x s ih =>
    by_cases hxo : x = o
    · subst hxo
      rw [List.count_cons_self, List.count_cons_of_ne hoc] at h
      obtain ⟨w, r, rfl, hw⟩ := @ih (d + 1) (by omega)
      exact ⟨x :: w, r, rfl, by rwa [climb, if_pos rfl]⟩
    · by_cases hxc : x = c
      · subst hxc
        rw [List.count_cons_self, List.count_cons_of_ne hoc.symm] at h
        cases d with
        | zero => exact ⟨[], s, rfl, rfl⟩
        | succ d =>
          obtain ⟨w, r, rfl, hw⟩ := @ih d (by omega)
          exact ⟨x :: w, r, rfl, by simpa [climb, hxo] using hw⟩
      · rw [List.count_cons_of_ne hxo, List.count_cons_of_ne hxc] at h
        obtain ⟨w, r, rfl, hw⟩ := ih h
        exact ⟨x :: w, r, rfl, by rwa [climb, if_neg hxo, if_neg hxc]⟩

/-- A text that **closes more than it opens** has a closing bracket behind a well nested text. -/
theorem exists_nested_append (hoc : o ≠ c) (h : s.count o < s.count c) :
    ∃ w r, s = w ++ c :: r ∧ Nested o c w := by
  simp only [nested_iff_climb hoc]
  exact exists_climb_of_count_lt hoc (by omega)

/-- …and one that **opens more than it closes** an opening one in front of a well nested text. -/
theorem exists_append_nested (hoc : o ≠ c) (h : s.count c < s.count o) :
    ∃ u w, s = u ++ o :: w ∧ Nested o c w := by
  obtain ⟨w, r, hs, hw⟩ :=
    @exists_nested_append c o s.reverse hoc.symm (by simpa only [List.count_reverse] using h)
  refine ⟨r.reverse, w.reverse, ?_, hw.reverse⟩
  rw [← List.reverse_reverse s, hs]
  simp

/-! ## The bracket that is found -/

/-- A bracket that stands behind a stretch of `x :: s` **is `x`, or stands behind a stretch of
`s`**. -/
theorem exists_stretch_cons {d offset k : Nat} {x : Char} :
    (∃ w r, x :: s = w ++ c :: r ∧ climb o c d w = some 0 ∧ k = offset + w.length) ↔
      (x = c ∧ d = 0 ∧ k = offset) ∨
        ∃ w r, s = w ++ c :: r ∧ climb o c d (x :: w) = some 0 ∧ k = offset + 1 + w.length := by
  constructor
  · rintro ⟨w, r, hs, hw, rfl⟩
    cases w with
    | nil =>
      rw [List.nil_append, List.cons.injEq] at hs
      exact Or.inl ⟨hs.1, Option.some.inj hw, rfl⟩
    | cons y w =>
      rw [List.cons_append, List.cons.injEq] at hs
      obtain ⟨rfl, rfl⟩ := hs
      exact Or.inr ⟨w, r, rfl, hw, by simp only [List.length_cons]; omega⟩
  · rintro (⟨rfl, rfl, rfl⟩ | ⟨w, r, rfl, hw, rfl⟩)
    · exact ⟨[], s, rfl, rfl, rfl⟩
    · exact ⟨x :: w, r, rfl, hw, by simp only [List.length_cons]; omega⟩

theorem unmatched_eq_some_iff_climb (hoc : o ≠ c) {d offset k : Nat} :
    unmatched [o] [c] d offset s = some k ↔
      ∃ w r, s = w ++ c :: r ∧ climb o c d w = some 0 ∧ k = offset + w.length := by
  induction s generalizing d offset with
  | nil => simp [unmatched]
  | cons x s ih =>
    rw [exists_stretch_cons]
    simp only [unmatched, List.cons.injEq, and_true, climb]
    by_cases hxo : x = o
    · simp [hxo, hoc, ih]
    · by_cases hxc : x = c
      · cases d with
        | zero => simp [hxc, hoc.symm, eq_comm]
        | succ d => simp [hxc, hoc.symm, ih]
      · simp [hxo, hxc, ih]

/-- **The first unmatched bracket** stands behind a well nested text. -/
theorem unmatched_eq_some_iff (hoc : o ≠ c) {k : Nat} :
    unmatched [o] [c] 0 0 s = some k ↔
      ∃ w r, s = w ++ c :: r ∧ Nested o c w ∧ k = w.length := by
  simp [unmatched_eq_some_iff_climb hoc, nested_iff_climb hoc]

/-- A text is cut **in only one way** at a closing bracket behind a well nested text. -/
theorem Nested.cut_unique (hoc : o ≠ c) {w w' r r' : Text} (hw : Nested o c w)
    (hw' : Nested o c w') (h : w ++ c :: r = w' ++ c :: r') : w = w' ∧ r = r' := by
  have hfirst : unmatched [o] [c] 0 0 (w ++ c :: r) = some w.length :=
    (unmatched_eq_some_iff hoc).2 ⟨w, r, rfl, hw, rfl⟩
  have hsecond : unmatched [o] [c] 0 0 (w ++ c :: r) = some w'.length :=
    (unmatched_eq_some_iff hoc).2 ⟨w', r', h, hw', rfl⟩
  obtain ⟨rfl, hr⟩ := List.append_inj h (Option.some.inj (hfirst.symm.trans hsecond))
  exact ⟨rfl, (List.cons.inj hr).2⟩

/-- Read backwards, the search stops **in front of** a well nested text. -/
theorem unmatched_reverse_eq_some_iff (hoc : o ≠ c) {k : Nat} :
    unmatched [c] [o] 0 0 s.reverse = some k ↔
      ∃ u w, s = u ++ o :: w ∧ Nested o c w ∧ k = w.length := by
  rw [unmatched_eq_some_iff hoc.symm]
  constructor
  · rintro ⟨w, r, hr, hw, rfl⟩
    refine ⟨r.reverse, w.reverse, ?_, hw.reverse, by simp⟩
    rw [← List.reverse_reverse s, hr]
    simp
  · rintro ⟨u, w, rfl, hw, rfl⟩
    exact ⟨w.reverse, u.reverse, by simp, hw.reverse, by simp⟩

end BundlePatch
