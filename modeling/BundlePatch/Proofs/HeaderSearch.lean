import BundlePatch.Proofs.Enclosure

/-!
# Proofs/HeaderSearch — the header in front of a body, and how far the search looks

The words of a header that end where the body starts are **at most one** header
(`Header.words_unique`), and with a name of at most 89 characters they fit the window.  So the
leftmost match in the window is the header that the text before the body ends with, and since
nothing else is looked at, the search gives the same, moved along, wherever the window is the same
(`Header.before_spec`).
-/

namespace BundlePatch

open Pattern

namespace Header

variable {source source' : Text} {b b' : Nat} {header : Header} {n n' : Text}

/-- A header **moved along** a text. -/
def shift (d : Int) (h : Header) : Header := ⟨h.name, h.start + d, h.stop + d⟩

/-- The header of this name **ends where the body starts**, and the search can see it. -/
structure Ends (source : Text) (b : Nat) (n : Text) : Prop where
  suffix : words n <:+ source.take b
  name : IsName n
  short : n.length ≤ 89

theorem Ends.unique (h : Ends source b n) (h' : Ends source b n') : n = n' := by
  obtain ⟨x, hx⟩ := h.suffix
  obtain ⟨x', hx'⟩ := h'.suffix
  exact (words_unique h.name h'.name (hx.trans hx'.symm)).2

/-- The header that is found is **the one that ends there**. -/
theorem before_eq_ok_iff_ends (hb : b ≤ source.length) : before source b = .ok header ↔
    ∃ n, Ends source b n ∧ header = ⟨n, b - n.length - 11, b⟩ := by
  have hstart : ∀ {x n : Text}, x ++ words n = source.take b →
      (x.length : Int) = b - n.length - 11 := fun {x n} hx => by
    have hlength := congrArg List.length hx
    rw [List.length_append, length_words, List.length_take_of_le hb] at hlength
    omega
  rw [before_eq_ok_iff hb]
  constructor
  · rintro ⟨x, n, hx, hn, hshort, rfl⟩
    exact ⟨n, ⟨⟨x, hx.symm⟩, hn, hshort⟩, by rw [hstart hx.symm]⟩
  · rintro ⟨n, ⟨⟨x, hx⟩, hn, hshort⟩, rfl⟩
    exact ⟨x, n, hx.symm, hn, hshort, by rw [hstart hx]⟩

/-- The search fails **exactly if no header ends there**. -/
theorem before_eq_error_iff (hb : b ≤ source.length) :
    before source b = .error .headerMissing ↔ ¬ ∃ n, Ends source b n := by
  constructor
  · rintro h ⟨n, hn⟩
    cases h.symm.trans ((before_eq_ok_iff_ends hb).2 ⟨n, hn, rfl⟩)
  · intro hnone
    cases h : before source b with
    | error why => rw [before_error hb h]
    | ok header =>
      obtain ⟨n, hn, -⟩ := (before_eq_ok_iff_ends hb).1 h
      exact absurd ⟨n, hn⟩ hnone

/-- In front of two bodies with **the same characters before them**, the search does the same. -/
theorem before_of_window (hb : b ≤ source.length) (hb' : b' ≤ source'.length)
    (h : (source'.take b').drop (b' - 100) = (source.take b).drop (b - 100)) :
    before source' b' = (before source b).map (shift (b' - b)) := by
  have hlength := congrArg List.length h
  simp only [List.length_drop, List.length_take_of_le hb, List.length_take_of_le hb'] at hlength
  rw [before_eq hb, before_eq hb', h]
  cases search? pattern ((source.take b).drop (b - 100)) with
  | none => rfl
  | some hit =>
    simp only [Except.map, shift, Except.ok.injEq, Header.mk.injEq]
    exact ⟨trivial, by omega, by omega⟩

/-- **The search for a header is exact**: it finds the one header that ends where the body starts,
and fails if there is none.  It looks at the last 100 characters before the body only. -/
theorem before_spec (hb : b ≤ source.length) :
    (∀ header, before source b = .ok header ↔
      ∃ n, Ends source b n ∧ header = ⟨n, b - n.length - 11, b⟩) ∧
    (∀ n n', Ends source b n → Ends source b n' → n = n') ∧
    (before source b = .error .headerMissing ↔ ¬ ∃ n, Ends source b n) ∧
    ∀ (source' : Text) (b' : Nat), b' ≤ source'.length →
      (source'.take b').drop (b' - 100) = (source.take b).drop (b - 100) →
      before source' b' = (before source b).map (shift (b' - b)) :=
  ⟨fun _ => before_eq_ok_iff_ends hb, fun _ _ => Ends.unique, before_eq_error_iff hb,
    fun _ _ hb' h => before_of_window hb hb' h⟩

/-- A header behind **another one**, far into a text. -/
def sampleFar : Text := List.replicate 90 ';' ++ "function function F()\x7b".toList

/-- The second header counts, **also where more stands before it**. -/
theorem before_spec_far : before sampleFar 111 = .ok ⟨['F'], 99, 111⟩ ∧
    before ("var x".toList ++ sampleFar) 116 = .ok ⟨['F'], 104, 116⟩ := by
  obtain ⟨hok, -, -, hwindow⟩ := @before_spec sampleFar 111 (by decide +kernel)
  have hfound : before sampleFar 111 = .ok ⟨['F'], 99, 111⟩ :=
    (hok _).2 ⟨['F'], ⟨⟨List.replicate 90 ';' ++ "function ".toList, by decide +kernel⟩,
      ⟨by decide, by decide +kernel⟩, by decide⟩, rfl⟩
  have hmoved := hwindow ("var x".toList ++ sampleFar) 116 (by decide +kernel) (by decide +kernel)
  exact ⟨hfound, hmoved.trans (congrArg (Except.map (shift 5)) hfound)⟩

end Header

end BundlePatch
