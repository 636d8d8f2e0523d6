import BundlePatch.Pattern.Search
import Mathlib.Data.List.Basic
import Mathlib.Data.Nat.Count

/-!
# Proofs/Language — the texts that a pattern spells, and where they stand in a text

`Pattern.Spells p t` says that the pieces of `p` accept **the whole of** `t`.  For a pattern that
never asks for the end of the text (`Pattern.Open`) what stands behind an occurrence has no say, so
matching, searching and scanning are statements about prefixes and infixes:

* `match?_isSome_iff_begins` — a match starts exactly where a prefix is spelled.
* `search?_isSome_iff_exists` — something is found exactly when an infix is spelled.
* `search?_eq_some_of_clear` — and then it is found where nothing spelled starts before.
* `scan_induction` — a scan is a chain of leftmost occurrences.
-/

namespace BundlePatch

/-- Whether all characters that a piece can take satisfy `q`. -/
def Piece.Within (q : Char → Prop) : Piece → Prop
  | .word w | .option w => ∀ c ∈ w, q c
  | .one p | .many p | .some p => ∀ c, p c = true → q c
  | .stop => True

/-- Only the end of the text looks at **what follows**. -/
theorem Piece.accepts_congr {piece : Piece} (h : piece ≠ .stop) {rest rest' t : Text} :
    piece.Accepts rest t ↔ piece.Accepts rest' t := by
  cases piece with
  | stop => exact absurd rfl h
  | _ => rfl

theorem Piece.forall_mem_of_accepts {q : Char → Prop} {piece : Piece} (hq : piece.Within q)
    {rest t : Text} (h : piece.Accepts rest t) : ∀ c ∈ t, q c := by
  cases piece with
  | word w => obtain rfl : t = w := h; exact hq
  | option w =>
    rcases h with rfl | rfl
    · exact hq
    · simp
  | one p =>
    obtain ⟨c, rfl, hc⟩ := h
    simpa using hq c hc
  | many p => exact fun c hc => hq c (h c hc)
  | some p => exact fun c hc => hq c (h.2 c hc)
  | stop => obtain ⟨rfl, -⟩ := h; simp

namespace Pattern

variable {p p' : Pattern} {s t rest : Text} {parts : List Text}

/-- A pattern that **never asks for the end** of the text. -/
def Open (p : Pattern) : Prop := Piece.stop ∉ p

/-- The text `t` **as a whole** is accepted by the pieces of `p`. -/
def Spells (p : Pattern) (t : Text) : Prop := ∃ parts, t = parts.flatten ∧ Fits p parts []

/-- A text **begins** with something that `p` spells. -/
def Begins (p : Pattern) (s : Text) : Prop := ∃ t, p.Spells t ∧ t <+: s

/-- Nothing that `p` spells **starts in** a text, when `rest` follows. -/
def Clear (p : Pattern) : (s rest : Text) → Prop
  | [], _ => True
  | c :: s, rest => ¬ p.Begins (c :: (s ++ rest)) ∧ Clear p s rest

/-- The number of places **in** a text at which something that `p` spells starts, when `rest`
follows. -/
def beginnings (p : Pattern) : (s rest : Text) → Nat
  | [], _ => 0
  | c :: s, rest => (if (p.match? (c :: (s ++ rest))).isSome then 1 else 0) + beginnings p s rest

/-! ## What is spelled -/

theorem Open.tail {piece : Piece} (h : Open (piece :: p)) : Open p :=
  fun hm => h (List.mem_cons_of_mem _ hm)

theorem Open.head_ne {piece : Piece} (h : Open (piece :: p)) : piece ≠ .stop :=
  fun hm => h (hm ▸ List.mem_cons_self)

theorem fits_congr (hp : p.Open) {rest' : Text} : Fits p parts rest ↔ Fits p parts rest' := by
  induction p generalizing parts with
  | nil => rfl
  | cons piece p ih =>
    simp only [Fits, ih hp.tail]
    constructor
    · rintro ⟨t, ts, hparts, hacc, hfits⟩
      exact ⟨t, ts, hparts, (Piece.accepts_congr hp.head_ne).1 hacc, hfits⟩
    · rintro ⟨t, ts, hparts, hacc, hfits⟩
      exact ⟨t, ts, hparts, (Piece.accepts_congr hp.head_ne).2 hacc, hfits⟩

@[simp] theorem spells_nil : Spells [] t ↔ t = [] := by
  simp [Spells, Fits]

theorem spells_cons {piece : Piece} :
    Spells (piece :: p) t ↔ ∃ u v, t = u ++ v ∧ piece.Accepts v u ∧ p.Spells v := by
  constructor
  · rintro ⟨_, rfl, u, us, rfl, hacc, hfits⟩
    exact ⟨u, us.flatten, by simp, by simpa using hacc, us, rfl, hfits⟩
  · rintro ⟨u, _, rfl, hacc, us, rfl, hfits⟩
    exact ⟨u :: us, by simp, u, us, rfl, by simpa using hacc, hfits⟩

theorem spells_word {w : Text} : Spells (.word w :: p) t ↔ ∃ v, t = w ++ v ∧ p.Spells v := by
  rw [spells_cons]
  constructor
  · rintro ⟨_, v, rfl, rfl, hv⟩
    exact ⟨v, rfl, hv⟩
  · rintro ⟨v, rfl, hv⟩
    exact ⟨w, v, rfl, rfl, hv⟩

/-- **Patterns one after the other** spell texts one after the other. -/
theorem spells_append (hp : p.Open) :
    Spells (p ++ p') t ↔ ∃ u v, t = u ++ v ∧ p.Spells u ∧ p'.Spells v := by
  induction p generalizing t with
  | nil =>
    simp only [List.nil_append, spells_nil]
    constructor
    · exact fun h => ⟨[], t, rfl, rfl, h⟩
    · rintro ⟨_, v, rfl, rfl, h⟩
      exact h
  | cons piece p ih =>
    simp only [List.cons_append, spells_cons, ih hp.tail]
    constructor
    · rintro ⟨u, _, rfl, hacc, v, w, rfl, hv, hw⟩
      exact ⟨u ++ v, w, by simp, ⟨u, v, rfl, (Piece.accepts_congr hp.head_ne).1 hacc, hv⟩, hw⟩
    · rintro ⟨_, w, rfl, ⟨u, v, rfl, hacc, hv⟩, hw⟩
      exact ⟨u, v ++ w, by simp, (Piece.accepts_congr hp.head_ne).1 hacc, v, w, rfl, hv, hw⟩

/-- A spelled text has **only characters that its pieces take**. -/
theorem Spells.within {q : Char → Prop} (h : p.Spells t) (hp : ∀ piece ∈ p, piece.Within q) :
    ∀ c ∈ t, q c := by
  induction p generalizing t with
  | nil => simp [spells_nil.1 h]
  | cons piece p ih =>
    obtain ⟨u, v, rfl, hacc, hv⟩ := spells_cons.1 h
    intro c hc
    rcases List.mem_append.1 hc with hu | hv'
    · exact Piece.forall_mem_of_accepts (hp piece List.mem_cons_self) hacc c hu
    · exact ih hv (fun q hq => hp q (List.mem_cons_of_mem _ hq)) c hv'

/-- Every **word of the pattern** stands in a spelled text. -/
theorem Spells.infix_of_word_mem {w : Text} (h : p.Spells t) (hw : Piece.word w ∈ p) :
    w <:+: t := by
  induction p generalizing t with
  | nil => cases hw
  | cons piece p ih =>
    obtain ⟨u, v, rfl, hacc, hv⟩ := spells_cons.1 h
    rcases List.mem_cons.1 hw with rfl | hw
    · obtain rfl : u = w := hacc
      exact (List.prefix_append u v).isInfix
    · exact (ih hv hw).trans (List.suffix_append u v).isInfix

/-! ## Where nothing starts -/

theorem clear_append : Clear p (s ++ t) rest ↔ Clear p s (t ++ rest) ∧ Clear p t rest := by
  induction s with
  | nil => simp [Clear]
  | cons c s ih => simp [Clear, ih, and_assoc]

theorem clear_iff_drop :
    Clear p s rest ↔ ∀ i < s.length, ¬ p.Begins ((s ++ rest).drop i) := by
  induction s with
  | nil => simp [Clear]
  | cons c s ih =>
    rw [Clear, ih, List.length_cons, Nat.forall_lt_succ_left]
    rfl

/-- A place where nothing starts **in any end** of a text. -/
theorem clear_of_forall_suffix (h : ∀ u, u <:+ s → u ≠ [] → ¬ p.Begins (u ++ rest)) :
    Clear p s rest := by
  induction s with
  | nil => trivial
  | cons c s ih =>
    exact ⟨h _ (List.suffix_refl _) (List.cons_ne_nil c s),
      ih fun u hu => h u (hu.trans (List.suffix_cons c s))⟩

/-- Nothing starts in a text **without the character** with which all that is spelled starts. -/
theorem clear_of_notMem {c : Char} (hp : ∀ t, p.Spells t → ∃ u, t = c :: u) (hs : c ∉ s) :
    Clear p s rest := by
  refine clear_of_forall_suffix fun u hu hne => ?_
  rintro ⟨t, ht, hpre⟩
  obtain ⟨v, rfl⟩ := hp t ht
  obtain ⟨d, u, rfl⟩ := List.exists_cons_of_ne_nil hne
  rw [List.cons_append, List.cons_prefix_cons] at hpre
  exact hs (hu.subset (hpre.1 ▸ List.mem_cons_self))

/-- A stretch in which nothing starts **ends before** every place where something does. -/
theorem Clear.length_le {x y : Text} (h : Clear p s rest) (ht : p.Spells t)
    (hs : s ++ rest = x ++ (t ++ y)) : s.length ≤ x.length := by
  by_contra hlt
  refine clear_iff_drop.1 h x.length (by omega) ⟨t, ht, ?_⟩
  rw [hs]
  simp

theorem beginnings_append :
    beginnings p (s ++ t) rest = beginnings p s (t ++ rest) + beginnings p t rest := by
  induction s with
  | nil => simp [beginnings]
  | cons c s ih => simp only [List.cons_append, beginnings, ih, List.append_assoc, Nat.add_assoc]

/-! ## What is matched and found -/

/-- A match takes **a spelled prefix**. -/
theorem spells_of_match? (hp : p.Open) (h : p.match? s = some (parts, rest)) :
    p.Spells parts.flatten ∧ s = parts.flatten ++ rest := by
  obtain ⟨hs, hfits⟩ := fits_of_match? h
  exact ⟨⟨parts, rfl, (fits_congr hp).1 hfits⟩, hs⟩

/-- A match starts exactly where **a prefix is spelled**. -/
theorem match?_isSome_iff_begins (hp : p.Open) : (p.match? s).isSome ↔ p.Begins s := by
  rw [match?_isSome_iff]
  constructor
  · rintro ⟨parts, rest, rfl, hfits⟩
    exact ⟨parts.flatten, ⟨parts, rfl, (fits_congr hp).1 hfits⟩, List.prefix_append _ _⟩
  · rintro ⟨_, ⟨parts, rfl, hfits⟩, rest, rfl⟩
    exact ⟨parts, rest, rfl, (fits_congr hp).1 hfits⟩

theorem match?_eq_none_iff_begins (hp : p.Open) : p.match? s = none ↔ ¬ p.Begins s := by
  rw [← match?_isSome_iff_begins hp, Option.not_isSome_iff_eq_none]

theorem beginnings_eq_zero_iff (hp : p.Open) : beginnings p s rest = 0 ↔ Clear p s rest := by
  induction s with
  | nil => simp [beginnings, Clear]
  | cons c s ih =>
    rw [beginnings, Clear, Nat.add_eq_zero_iff, ih, ← match?_isSome_iff_begins hp]
    simp

open Classical in
/-- The beginnings in a text are counted **place by place**. -/
theorem beginnings_eq_count (hp : p.Open) :
    beginnings p s rest = Nat.count (fun i => p.Begins ((s ++ rest).drop i)) s.length := by
  induction s with
  | nil => rfl
  | cons c s ih =>
    rw [beginnings, List.length_cons, Nat.count_succ', Nat.add_comm, ih]
    simp only [match?_isSome_iff_begins hp]
    rfl

/-- What is found **is spelled, and nothing spelled starts to its left**. -/
theorem search?_spec (hp : p.Open) {hit : Hit} (h : search? p s = some hit) :
    s = hit.before ++ (hit.text ++ hit.after) ∧ p.Spells hit.text ∧ Fits p hit.parts [] ∧
      Clear p hit.before (hit.text ++ hit.after) := by
  obtain ⟨hs, hm, hleft⟩ := search?_eq_some h
  refine ⟨hs, (spells_of_match? hp hm).1, (fits_congr hp).1 (fits_of_match? hm).2,
    clear_iff_drop.2 fun i hi => ?_⟩
  rw [← hs]
  exact (match?_eq_none_iff_begins hp).1 (hleft i hi)

/-- Something is found exactly when **an infix is spelled**. -/
theorem search?_isSome_iff_exists (hp : p.Open) :
    (search? p s).isSome ↔ ∃ t, p.Spells t ∧ t <:+: s := by
  constructor
  · intro h
    obtain ⟨hit, hhit⟩ := Option.isSome_iff_exists.1 h
    obtain ⟨hs, htext, -⟩ := search?_spec hp hhit
    exact ⟨hit.text, htext, hit.before, hit.after, by rw [hs, List.append_assoc]⟩
  · rintro ⟨t, ht, x, y, rfl⟩
    by_contra hnone
    rw [Option.not_isSome_iff_eq_none, search?_eq_none_iff] at hnone
    refine (match?_eq_none_iff_begins hp).1 (hnone x.length (by simp)) ⟨t, ht, ?_⟩
    simp

theorem search?_eq_none_iff_forall (hp : p.Open) :
    search? p s = none ↔ ∀ t, p.Spells t → ¬ t <:+: s := by
  rw [← Option.not_isSome_iff_eq_none, search?_isSome_iff_exists hp]
  simp

/-- A spelled text behind a stretch in which nothing spelled starts **is found there**. -/
theorem search?_eq_some_of_clear (hp : p.Open) {x y : Text} (ht : p.Spells t)
    (hclear : Clear p x (t ++ y)) :
    ∃ hit, search? p (x ++ (t ++ y)) = some hit ∧ hit.before = x ∧
      hit.text ++ hit.after = t ++ y := by
  obtain ⟨hit, hhit⟩ := Option.isSome_iff_exists.1
    ((search?_isSome_iff_exists hp).2 ⟨t, ht, x, y, List.append_assoc ..⟩)
  obtain ⟨hs, htext, -, hbefore⟩ := search?_spec hp hhit
  -- neither of the two places is to the left of the other
  have hx : hit.before.length ≤ x.length := hbefore.length_le ht hs.symm
  have hb : x.length ≤ hit.before.length := hclear.length_le htext hs
  obtain ⟨hxb, hrest⟩ := List.append_inj hs (by omega)
  exact ⟨hit, hhit, hxb.symm, hrest.symm⟩

/-! ## Scans -/

theorem scan_of_search?_eq_none (h : search? p s = none) : scan p s = ([], s) := by
  rw [scan]
  split
  · rfl
  · next heq => rw [h] at heq; cases heq

theorem scan_of_search?_eq_some {hit : Hit} (h : search? p s = some hit) (hne : hit.text ≠ []) :
    scan p s = (⟨hit.before, hit.parts⟩ :: (scan p hit.after).1, (scan p hit.after).2) := by
  rw [scan]
  split
  · next heq => rw [h] at heq; cases heq
  · next hit' heq =>
    obtain rfl : hit = hit' := Option.some.inj (h.symm.trans heq)
    simp [hne]

/-- **A scan is a chain of leftmost occurrences**, if the pattern does not spell the empty text. -/
theorem scan_induction {motive : Text → List Segment → Text → Prop} (hp : p.Open)
    (hne : ¬ p.Spells []) (done : ∀ s, search? p s = none → motive s [] s)
    (step : ∀ s hit segs tail, search? p s = some hit → motive hit.after segs tail →
      motive s (⟨hit.before, hit.parts⟩ :: segs) tail) (s : Text) :
    motive s (scan p s).1 (scan p s).2 := by
  fun_induction scan p s with
  | case1 s h => exact done s h
  | case2 s hit h hempty =>
    have htext : hit.text = [] := by
      simp only [Bool.and_eq_true, List.isEmpty_iff] at hempty
      exact hempty.2
    exact absurd (htext ▸ (search?_spec hp h).2.1) hne
  | case3 s hit h _ segs tail heq ih =>
    rw [heq] at ih
    exact step s hit segs tail h ih

end Pattern

end BundlePatch
