import BundlePatch.Pattern.Basic

/-!
# Pattern/Search — where a pattern occurs in a text

`Pattern.search?` finds the leftmost occurrence and cuts the text around it; `Pattern.scan` cuts a
text at all its occurrences, from left to right and without overlap.  Both are **lossless**: what
stands before, inside and after the occurrences makes up the text again.

* `search?_eq_some` — the occurrence found is a match, and no match starts to its left.
* `search?_eq_none_iff` — nothing is found exactly when no position starts a match.
* `scan_flatten` — the cuts make up the text.
-/

namespace BundlePatch

/-- An **occurrence** of a pattern: the text before it, the parts taken by the pieces of the
pattern, and the text after it. -/
structure Hit where
  before : Text
  parts : List Text
  after : Text

namespace Hit

/-- The occurrence itself. -/
def text (h : Hit) : Text := h.parts.flatten

/-- The position at which the occurrence starts. -/
def start (h : Hit) : Nat := h.before.length

/-- The position just after the occurrence. -/
def stop (h : Hit) : Nat := h.before.length + h.text.length

/-- The part taken by the piece with this index. -/
def part (h : Hit) (i : Nat) : Text := h.parts.getD i []

end Hit

/-- An occurrence of a pattern together with the text between it and the occurrence before. -/
structure Segment where
  gap : Text
  parts : List Text

namespace Segment

/-- The occurrence itself. -/
def text (s : Segment) : Text := s.parts.flatten

/-- The part taken by the piece with this index. -/
def part (s : Segment) (i : Nat) : Text := s.parts.getD i []

end Segment

namespace Pattern

/-- The search at the rest of a text, with the text already passed in reverse. -/
def searchFrom (p : Pattern) (passed : Text) : Text → Option Hit
  | [] => (match? p []).map fun (parts, rest) => ⟨passed.reverse, parts, rest⟩
  | c :: s =>
    match match? p (c :: s) with
    | some (parts, rest) => some ⟨passed.reverse, parts, rest⟩
    | none => searchFrom p (c :: passed) s

/-- The **leftmost occurrence** of a pattern. -/
def search? (p : Pattern) (s : Text) : Option Hit := searchFrom p [] s

/-! ## What is found -/

theorem searchFrom_eq_some {p : Pattern} {passed s : Text} {hit : Hit}
    (h : searchFrom p passed s = some hit) :
    ∃ gap, hit.before = passed.reverse ++ gap ∧ s = gap ++ (hit.text ++ hit.after) ∧
      match? p (hit.text ++ hit.after) = some (hit.parts, hit.after) ∧
      ∀ i < gap.length, match? p (s.drop i) = none := by
  induction s generalizing passed with
  | nil =>
    simp only [searchFrom, Option.map_eq_some_iff, Prod.exists] at h
    obtain ⟨parts, rest, hm, rfl⟩ := h
    have hs := (fits_of_match? hm).1
    exact ⟨[], by simp, hs, hs ▸ hm, by simp⟩
  | cons c s ih =>
    simp only [searchFrom] at h
    split at h
    · next parts rest hm =>
      cases h
      have hs := (fits_of_match? hm).1
      exact ⟨[], by simp, hs, hs ▸ hm, by simp⟩
    · next hnone =>
      obtain ⟨gap, hb, hs, hm, hleft⟩ := ih h
      refine ⟨c :: gap, by simp [hb], by rw [hs]; rfl, hm, ?_⟩
      intro i hi
      cases i with
      | zero => exact hnone
      | succ i => exact hleft i (by simpa using hi)

theorem searchFrom_eq_none_iff {p : Pattern} {passed s : Text} :
    searchFrom p passed s = none ↔ ∀ i ≤ s.length, match? p (s.drop i) = none := by
  induction s generalizing passed with
  | nil => simp [searchFrom]
  | cons c s ih =>
    simp only [searchFrom]
    split
    · next parts rest hm =>
      constructor
      · intro h; cases h
      · intro hall
        have := hall 0 (Nat.zero_le _)
        rw [List.drop_zero, hm] at this
        cases this
    · next hnone =>
      rw [ih]
      constructor
      · intro hall i hi
        cases i with
        | zero => exact hnone
        | succ i => exact hall i (by simpa using hi)
      · intro hall i hi
        exact hall (i + 1) (by simpa using hi)

/-- The occurrence found **is a match and the leftmost one**, and nothing of the text is lost. -/
theorem search?_eq_some {p : Pattern} {s : Text} {hit : Hit} (h : search? p s = some hit) :
    s = hit.before ++ (hit.text ++ hit.after) ∧
      match? p (hit.text ++ hit.after) = some (hit.parts, hit.after) ∧
      ∀ i < hit.start, match? p (s.drop i) = none := by
  obtain ⟨gap, hb, hs, hm, hleft⟩ := searchFrom_eq_some h
  simp only [List.reverse_nil, List.nil_append] at hb
  subst hb
  exact ⟨hs, hm, hleft⟩

/-- **Nothing is found** exactly when no position starts a match. -/
theorem search?_eq_none_iff {p : Pattern} {s : Text} :
    search? p s = none ↔ ∀ i ≤ s.length, match? p (s.drop i) = none :=
  searchFrom_eq_none_iff

/-- After an occurrence **less is left**, unless the occurrence and the text before it are empty. -/
theorem length_after_lt {p : Pattern} {s : Text} {hit : Hit} (h : search? p s = some hit)
    (hne : hit.before = [] → hit.text ≠ []) : hit.after.length < s.length := by
  have hs := congrArg List.length (search?_eq_some h).1
  simp only [List.length_append] at hs
  by_cases hb : hit.before = []
  · have := List.length_pos_iff.2 (hne hb)
    omega
  · have := List.length_pos_iff.2 hb
    omega

/-! ## All occurrences -/

/-- **All occurrences** from left to right, each search starting where the last occurrence ended,
and the text after the last.  An occurrence that takes nothing, and nothing before it, ends the
scan. -/
def scan (p : Pattern) (s : Text) : List Segment × Text :=
  match _ : search? p s with
  | none => ([], s)
  | some hit =>
    if hit.before.isEmpty && hit.text.isEmpty then ([⟨hit.before, hit.parts⟩], hit.after)
    else
      let (segments, tail) := scan p hit.after
      (⟨hit.before, hit.parts⟩ :: segments, tail)
termination_by s.length
decreasing_by
  next h hn => exact length_after_lt h (by simpa using hn)

/-- **The cuts make up the text.** -/
theorem scan_flatten (p : Pattern) (s : Text) :
    ((scan p s).1.flatMap fun seg => seg.gap ++ seg.text) ++ (scan p s).2 = s := by
  fun_induction scan p s with
  | case1 s h => rfl
  | case2 s hit h _ =>
    have := (search?_eq_some h).1
    simpa [Segment.text, Hit.text] using this.symm
  | case3 s hit h _ segments tail heq ih =>
    have := (search?_eq_some h).1
    rw [heq] at ih
    simp only [List.flatMap_cons, List.append_assoc, Segment.text] at ih ⊢
    rw [ih]
    simpa [Hit.text] using this.symm

end Pattern

end BundlePatch
