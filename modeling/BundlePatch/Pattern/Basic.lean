import BundlePatch.Text.Class

/-!
# Pattern/Basic — flat patterns, what fits them, and the greedy match

A `Pattern` is a list of pieces, each a fixed word or a run of characters of one class.  Two
descriptions of it stand side by side.

* `Fits p parts rest` — the **meaning**: `parts` are texts that the pieces of `p` accept one by one,
  when the text that follows is `rest`.
* `Pattern.match? p s` — the **match** at the start of `s`: every run is as long as the pieces after
  it allow, the earlier run having the first choice.

`fits_of_match?` and `match?_isSome_iff` tie the two together: what is matched fits, and a text that
begins with something that fits is matched.
-/

namespace BundlePatch

/-- One piece of a pattern. -/
inductive Piece where
  /-- Exactly these characters. -/
  | word (w : Text)
  /-- These characters, or none of them. -/
  | option (w : Text)
  /-- One character of a class. -/
  | one (p : Char → Bool)
  /-- A run of characters of a class, maybe empty. -/
  | many (p : Char → Bool)
  /-- A run of characters of a class, not empty. -/
  | some (p : Char → Bool)
  /-- The end of the text. -/
  | stop

/-- A pattern: its pieces in order. -/
abbrev Pattern := List Piece

/-- What a **single piece** accepts, when the text that follows is `rest`. -/
def Piece.Accepts (rest : Text) : Piece → Text → Prop
  | .word w, t => t = w
  | .option w, t => t = w ∨ t = []
  | .one p, t => ∃ c, t = [c] ∧ p c = true
  | .many p, t => ∀ c ∈ t, p c = true
  | .some p, t => t ≠ [] ∧ ∀ c ∈ t, p c = true
  | .stop, t => t = [] ∧ rest = []

/-- The texts `parts` **fit** the pattern before `rest`: each is accepted by its piece. -/
def Fits : Pattern → List Text → Text → Prop
  | [], parts, _ => parts = []
  | piece :: pattern, parts, rest =>
    ∃ t ts, parts = t :: ts ∧ piece.Accepts (ts.flatten ++ rest) t ∧ Fits pattern ts rest

namespace Pattern

variable {α : Type}

/-- What follows the word `w` at the start of a text. -/
def after? : Text → Text → Option Text
  | [], s => some s
  | _ :: _, [] => none
  | c :: w, d :: s => if c = d then after? w s else none

/-- Takes the **longest run** of characters of `p` after which `next` succeeds. -/
def longest (p : Char → Bool) (next : Text → Option α) : Text → Option (Text × α)
  | [] => (next []).map ([], ·)
  | c :: s =>
    if p c then
      match longest p next s with
      | some (run, a) => some (c :: run, a)
      | none => (next (c :: s)).map ([], ·)
    else (next (c :: s)).map ([], ·)

/-- Adds the part taken by one piece to the parts taken by the others. -/
def consPart (t : Text) (found : List Text × Text) : List Text × Text :=
  (t :: found.1, found.2)

/-- The **match** of a pattern at the start of a text: the parts taken by its pieces, and the rest
of the text. -/
def match? : Pattern → Text → Option (List Text × Text)
  | [], s => some ([], s)
  | .word w :: pattern, s => (after? w s).bind fun r => (match? pattern r).map (consPart w)
  | .option w :: pattern, s =>
    match (after? w s).bind fun r => (match? pattern r).map (consPart w) with
    | some found => some found
    | none => (match? pattern s).map (consPart [])
  | .one p :: pattern, s =>
    match s with
    | [] => none
    | c :: s => if p c then (match? pattern s).map (consPart [c]) else none
  | .many p :: pattern, s =>
    (longest p (match? pattern) s).map fun (run, found) => consPart run found
  | .some p :: pattern, s =>
    match s with
    | [] => none
    | c :: s =>
      if p c then
        (longest p (match? pattern) s).map fun (run, found) => consPart (c :: run) found
      else none
  | .stop :: pattern, s => if s = [] then (match? pattern s).map (consPart []) else none

/-! ## The match fits, and what fits is matched -/

theorem after?_eq_some_iff {w s r : Text} : after? w s = some r ↔ s = w ++ r := by
  induction w generalizing s with
  | nil => simp [after?, eq_comm]
  | cons c w ih =>
    cases s with
    | nil => simp [after?]
    | cons d s =>
      by_cases h : c = d
      · simp [after?, h, ih]
      · simp [after?, h, Ne.symm h]

/-- The longest run **is a run**, and `next` succeeds after it. -/
theorem of_longest_eq_some {p : Char → Bool} {next : Text → Option α} {s run : Text} {a : α}
    (h : longest p next s = some (run, a)) :
    ∃ r, s = run ++ r ∧ (∀ c ∈ run, p c = true) ∧ next r = some a := by
  induction s generalizing run with
  | nil =>
    simp only [longest, Option.map_eq_some_iff, Prod.mk.injEq] at h
    obtain ⟨b, hb, rfl, rfl⟩ := h
    exact ⟨[], rfl, by simp, hb⟩
  | cons c s ih =>
    simp only [longest] at h
    split at h
    · next hc =>
      split at h
      · next run' a' hrec =>
        cases h
        obtain ⟨r, rfl, hall, hn⟩ := ih hrec
        exact ⟨r, rfl, by simpa [hc] using hall, hn⟩
      · simp only [Option.map_eq_some_iff, Prod.mk.injEq] at h
        obtain ⟨b, hb, rfl, rfl⟩ := h
        exact ⟨c :: s, rfl, by simp, hb⟩
    · simp only [Option.map_eq_some_iff, Prod.mk.injEq] at h
      obtain ⟨b, hb, rfl, rfl⟩ := h
      exact ⟨c :: s, rfl, by simp, hb⟩

/-- **No run is overlooked**: if `next` succeeds after some run, a run is taken. -/
theorem longest_isSome {p : Char → Bool} {next : Text → Option α} {run r : Text}
    (hrun : ∀ c ∈ run, p c = true) (hnext : (next r).isSome) :
    (longest p next (run ++ r)).isSome := by
  induction run with
  | nil =>
    cases r with
    | nil => simpa [longest] using hnext
    | cons c s =>
      simp only [List.nil_append, longest]
      split
      · split
        · rfl
        · simpa using hnext
      · simpa using hnext
  | cons c run ih =>
    have hc : p c = true := hrun c List.mem_cons_self
    have hrec := ih fun d hd => hrun d (List.mem_cons_of_mem _ hd)
    obtain ⟨⟨run', a⟩, h⟩ := Option.isSome_iff_exists.1 hrec
    simp [longest, hc, h]

/-- **What is matched fits**: the parts make up the start of the text, and each is accepted. -/
theorem fits_of_match? {p : Pattern} {s rest : Text} {parts : List Text}
    (h : p.match? s = some (parts, rest)) : s = parts.flatten ++ rest ∧ Fits p parts rest := by
  induction p generalizing s parts with
  | nil => simp only [match?, Option.some.injEq, Prod.mk.injEq] at h; simp [← h.1, h.2, Fits]
  | cons piece p ih =>
    -- every case ends the same way: the parts after the first come from the induction
    have close : ∀ {t r : Text} {found : List Text × Text}, match? p r = some found →
        consPart t found = (parts, rest) → s = t ++ r →
        (r = found.1.flatten ++ rest → piece.Accepts (found.1.flatten ++ rest) t) →
        s = parts.flatten ++ rest ∧ Fits (piece :: p) parts rest := by
      rintro t r ⟨ts, rest'⟩ hm heq rfl hacc
      simp only [consPart, Prod.mk.injEq] at heq
      obtain ⟨rfl, rfl⟩ := heq
      obtain ⟨rfl, hfits⟩ := ih hm
      exact ⟨by simp, t, ts, rfl, hacc rfl, hfits⟩
    cases piece with
    | word w =>
      simp only [match?, Option.bind_eq_some_iff, Option.map_eq_some_iff] at h
      obtain ⟨r, hr, found, hm, heq⟩ := h
      exact close hm heq (after?_eq_some_iff.1 hr) fun _ => rfl
    | option w =>
      simp only [match?] at h
      split at h
      · next found' hw =>
        cases h
        simp only [Option.bind_eq_some_iff, Option.map_eq_some_iff] at hw
        obtain ⟨r, hr, found, hm, heq⟩ := hw
        exact close hm heq (after?_eq_some_iff.1 hr) fun _ => Or.inl rfl
      · simp only [Option.map_eq_some_iff] at h
        obtain ⟨found, hm, heq⟩ := h
        exact close hm heq rfl fun _ => Or.inr rfl
    | one q =>
      cases s with
      | nil => simp [match?] at h
      | cons c s =>
        simp only [match?] at h
        split at h
        · next hc =>
          simp only [Option.map_eq_some_iff] at h
          obtain ⟨found, hm, heq⟩ := h
          exact close hm heq rfl fun _ => ⟨c, rfl, hc⟩
        · cases h
    | many q =>
      simp only [match?, Option.map_eq_some_iff, Prod.exists] at h
      obtain ⟨run, ts, rest', hl, heq⟩ := h
      obtain ⟨r, hs, hall, hm⟩ := of_longest_eq_some hl
      exact close hm heq hs fun _ => hall
    | some q =>
      cases s with
      | nil => simp [match?] at h
      | cons c s =>
        simp only [match?] at h
        split at h
        · next hc =>
          simp only [Option.map_eq_some_iff, Prod.exists] at h
          obtain ⟨run, ts, rest', hl, heq⟩ := h
          obtain ⟨r, rfl, hall, hm⟩ := of_longest_eq_some hl
          exact close hm heq rfl fun _ => ⟨by simp, by simpa [hc] using hall⟩
        · cases h
    | stop =>
      simp only [match?] at h
      split at h
      · next hs =>
        subst hs
        simp only [Option.map_eq_some_iff] at h
        obtain ⟨found, hm, heq⟩ := h
        exact close hm heq rfl fun hr => ⟨rfl, hr.symm⟩
      · cases h

/-- **What fits is matched**, though perhaps with other parts. -/
theorem match?_isSome_of_fits {p : Pattern} {rest : Text} {parts : List Text}
    (h : Fits p parts rest) : (p.match? (parts.flatten ++ rest)).isSome := by
  induction p generalizing parts with
  | nil => simp [match?]
  | cons piece p ih =>
    obtain ⟨t, ts, rfl, hacc, hfits⟩ := h
    have hm := ih hfits
    obtain ⟨found, hfound⟩ := Option.isSome_iff_exists.1 hm
    rw [List.flatten_cons, List.append_assoc]
    cases piece with
    | word w =>
      obtain rfl : t = w := hacc
      have hw : after? t (t ++ (ts.flatten ++ rest)) = some (ts.flatten ++ rest) :=
        after?_eq_some_iff.2 rfl
      simp [match?, hw, hfound]
    | option w =>
      rcases hacc with rfl | rfl
      · have hw : after? t (t ++ (ts.flatten ++ rest)) = some (ts.flatten ++ rest) :=
          after?_eq_some_iff.2 rfl
        simp [match?, hw, hfound]
      · simp only [match?, List.nil_append]
        split
        · rfl
        · simp [hfound]
    | one q =>
      obtain ⟨c, rfl, hc⟩ := hacc
      simp [match?, hc, hfound]
    | many q =>
      simpa [match?] using longest_isSome hacc hm
    | some q =>
      obtain ⟨hne, hall⟩ := hacc
      obtain ⟨c, run, rfl⟩ := List.exists_cons_of_ne_nil hne
      have hc : q c = true := hall c List.mem_cons_self
      have hrun := longest_isSome (fun d hd => hall d (List.mem_cons_of_mem _ hd)) hm
      simpa [match?, hc] using hrun
    | stop =>
      obtain ⟨rfl, hnil⟩ := hacc
      rw [hnil] at hfound ⊢
      simp [match?, hfound]

/-- A text is matched **exactly when it begins with something that fits**. -/
theorem match?_isSome_iff {p : Pattern} {s : Text} :
    (p.match? s).isSome ↔ ∃ parts rest, s = parts.flatten ++ rest ∧ Fits p parts rest := by
  constructor
  · intro h
    obtain ⟨⟨parts, rest⟩, hm⟩ := Option.isSome_iff_exists.1 h
    exact ⟨parts, rest, fits_of_match? hm⟩
  · rintro ⟨parts, rest, rfl, hfits⟩
    exact match?_isSome_of_fits hfits

end Pattern

end BundlePatch
