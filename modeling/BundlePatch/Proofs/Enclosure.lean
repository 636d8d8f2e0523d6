import BundlePatch.Routine
import BundlePatch.Proofs.AnchorText

/-!
# Proofs/Enclosure — the function around an anchor, by its layout

A `Layout` is a source cut around an anchor: what leads up to the function, its header, the text
between the opening brace and the anchor, the anchor, the text up to the closing brace, and what
trails.  Where the two inner texts are well nested (`Layout.Sound`) the function around the anchor
is **the one laid out** (`Layout.enclosing_source`), and every function that is found is laid out so
(`exists_layout`).
-/

namespace BundlePatch

open Pattern

/-! ## Brackets -/

/-- A single bracket occurs **as often as its character**. -/
theorem occurrences_singleton (c : Char) (s : Text) : occurrences [c] s = s.count c := by
  have hp : Pattern.Open [.word [c]] := by simp [Pattern.Open]
  have hspells : ∀ t, Spells [.word [c]] t ↔ t = [c] := fun t => by simp [spells_word]
  rw [occurrences, if_neg (by simp)]
  refine scan_induction (motive := fun s segs _ => segs.length = s.count c) hp
    (fun h => absurd ((hspells []).1 h) (by simp)) (fun s h => ?_)
    (fun s hit segs tail h ih => ?_) s
  · rw [search?_eq_none_iff_forall hp] at h
    have hmem : c ∉ s := fun hm => by
      obtain ⟨x, y, rfl⟩ := List.append_of_mem hm
      exact h [c] ((hspells _).2 rfl) ⟨x, y, by simp⟩
    rw [List.count_eq_zero_of_not_mem hmem]
    rfl
  · obtain ⟨hs, htext, -, hbefore⟩ := search?_spec hp h
    have hmem : c ∉ hit.before := fun hm => by
      obtain ⟨x, y, hxy⟩ := List.append_of_mem hm
      rw [hxy, clear_append] at hbefore
      exact hbefore.2.1 ⟨[c], (hspells _).2 rfl, by simp⟩
    rw [List.length_cons, ih, hs, (hspells _).1 htext]
    simp [List.count_eq_zero_of_not_mem hmem]

namespace Scanner

variable {source : Text}

/-- The closing bracket stands **behind a well nested text**. -/
theorem findClosing_eq_ok_iff {i : Nat} {c : Int} :
    ({} : Scanner).findClosing source i = .ok c ↔
      ∃ w r, source.drop i = w ++ '}' :: r ∧ Nested '{' '}' w ∧ c = i + w.length := by
  have hneg : ¬ (i : Int) < -(source.length : Int) := by omega
  have hneg' : ¬ (i : Int) < 0 := by omega
  simp only [findClosing, if_neg hneg, if_neg hneg', Int.toNat_natCast]
  cases hu : unmatched ['{'] ['}'] 0 0 (source.drop i) with
  | none =>
    simp only [reduceCtorEq, false_iff]
    rintro ⟨w, r, hd, hw, -⟩
    rw [(unmatched_eq_some_iff (by decide)).2 ⟨w, r, hd, hw, rfl⟩] at hu
    cases hu
  | some k =>
    simp only [Except.ok.injEq]
    constructor
    · rintro rfl
      obtain ⟨w, r, hd, hw, rfl⟩ := (unmatched_eq_some_iff (by decide)).1 hu
      exact ⟨w, r, hd, hw, rfl⟩
    · rintro ⟨w, r, hd, hw, rfl⟩
      rw [(unmatched_eq_some_iff (by decide)).2 ⟨w, r, hd, hw, rfl⟩] at hu
      rw [Option.some.inj hu]

/-- A search for a closing bracket can only **find none**. -/
theorem findClosing_error {i : Nat} {why : Fault}
    (h : ({} : Scanner).findClosing source i = .error why) : why = .closingMissing := by
  rw [findClosing, if_neg (by omega)] at h
  dsimp only at h
  split at h
  · exact (Except.error.inj h).symm
  · cases h

theorem exists_of_findClosing {i : Nat} {close : Int}
    (h : ({} : Scanner).findClosing source i = .ok close) :
    ∃ c : Nat, close = c ∧ c ≤ source.length := by
  obtain ⟨w, r, hdrop, -, rfl⟩ := findClosing_eq_ok_iff.1 h
  have hlength := congrArg List.length hdrop
  rw [List.length_drop, List.length_append, List.length_cons] at hlength
  exact ⟨i + w.length, by omega, by omega⟩

/-- The opening bracket stands **in front of a well nested text** that reaches up to the closing
one. -/
theorem findOpening_eq_ok_iff {c : Nat} (hc : c ≤ source.length) {i : Int} :
    ({} : Scanner).findOpening source c = .ok i ↔
      ∃ u w, source.take c = u ++ '{' :: w ∧ Nested '{' '}' w ∧ i = u.length := by
  have hlen : ¬ (source.length : Int) < (c : Int) := by omega
  simp only [findOpening, if_neg hlen, Int.toNat_natCast]
  have hcut : ∀ {u w : Text}, source.take c = u ++ '{' :: w → c = u.length + 1 + w.length := by
    intro u w hs
    have := congrArg List.length hs
    rw [List.length_take_of_le hc] at this
    simp at this
    omega
  cases hu : unmatched ['}'] ['{'] 0 0 (source.take c).reverse with
  | none =>
    simp only [reduceCtorEq, false_iff]
    rintro ⟨u, w, hs, hw, -⟩
    rw [(unmatched_reverse_eq_some_iff (by decide)).2 ⟨u, w, hs, hw, rfl⟩] at hu
    cases hu
  | some k =>
    simp only [Except.ok.injEq]
    constructor
    · rintro rfl
      obtain ⟨u, w, hs, hw, rfl⟩ := (unmatched_reverse_eq_some_iff (by decide)).1 hu
      have := hcut hs
      exact ⟨u, w, hs, hw, by omega⟩
    · rintro ⟨u, w, hs, hw, rfl⟩
      rw [(unmatched_reverse_eq_some_iff (by decide)).2 ⟨u, w, hs, hw, rfl⟩] at hu
      have := hcut hs
      have := Option.some.inj hu
      omega

/-- …and so can one for an opening bracket. -/
theorem findOpening_error {i : Nat} {why : Fault} (hi : i ≤ source.length)
    (h : ({} : Scanner).findOpening source i = .error why) : why = .openingMissing := by
  rw [findOpening, if_neg (by omega)] at h
  dsimp only at h
  split at h
  · exact (Except.error.inj h).symm
  · cases h

/-- Both searches together stop at **the braces closest to a well nested text**. -/
theorem found_iff {x t y : Text} {start close : Int} (ht : Nested '{' '}' t) :
    (({} : Scanner).findClosing (x ++ (t ++ y)) (x.length + t.length : Nat) = .ok close ∧
      ({} : Scanner).findOpening (x ++ (t ++ y)) close = .ok start) ↔
    ∃ u head tail trail, x = u ++ '{' :: head ∧ y = tail ++ '}' :: trail ∧
      Nested '{' '}' head ∧ Nested '{' '}' tail ∧ start = u.length ∧
      close = (x.length + t.length + tail.length : Nat) := by
  have hdrop : (x ++ (t ++ y)).drop (x.length + t.length) = y := by
    rw [← List.append_assoc, ← List.length_append, List.drop_left]
  have htake : ∀ tail trail : Text, y = tail ++ '}' :: trail →
      (x ++ (t ++ y)).take (x.length + t.length + tail.length) = x ++ (t ++ tail) := by
    rintro tail trail rfl
    rw [Nat.add_assoc, List.take_length_add_append, List.take_length_add_append, List.take_left]
  have hle : ∀ tail trail : Text, y = tail ++ '}' :: trail →
      x.length + t.length + tail.length ≤ (x ++ (t ++ y)).length := by
    rintro tail trail rfl
    simp
    omega
  rw [findClosing_eq_ok_iff, hdrop]
  constructor
  · rintro ⟨⟨tail, trail, hy, htail, hclose⟩, hstart⟩
    obtain rfl : close = ((x.length + t.length + tail.length : Nat) : Int) := by omega
    obtain ⟨u, w, hu, hw, rfl⟩ := (findOpening_eq_ok_iff (hle tail trail hy)).1 hstart
    rw [htake tail trail hy] at hu
    -- the opening brace is not behind the start of the nested text
    have hinner : Nested '{' '}' (t ++ tail) := ht.append (by decide) htail
    obtain ⟨head, hx, rfl⟩ : ∃ head, x = u ++ '{' :: head ∧ w = head ++ (t ++ tail) := by
      rcases List.append_eq_append_iff.1 hu with ⟨z, -, hz⟩ | ⟨z, hx, hz⟩
      · exact absurd hw (Nested.not_append_cons (by decide) (hz ▸ hinner))
      · cases z with
        | nil =>
          rw [List.nil_append] at hz
          exact absurd hw (Nested.not_append_cons (s := []) (by decide) (hz ▸ hinner))
        | cons d head =>
          obtain ⟨rfl, hw'⟩ := List.cons.inj hz
          exact ⟨head, hx, hw'⟩
    exact ⟨u, head, tail, trail, hx, hy, hw.of_append_right hinner, htail, rfl, rfl⟩
  · rintro ⟨u, head, tail, trail, hx, hy, hhead, htail, rfl, rfl⟩
    refine ⟨⟨tail, trail, hy, htail, by omega⟩, ?_⟩
    rw [findOpening_eq_ok_iff (hle tail trail hy), htake tail trail hy, hx]
    exact ⟨u, head ++ (t ++ tail), by simp,
      hhead.append (by decide) (ht.append (by decide) htail), rfl⟩

end Scanner

/-! ## The header -/

namespace Header

/-- The word in front of the name. -/
def keyword : Text := "function ".toList

/-- The **words in front of a body**, for a function of a given name. -/
def words (name : Text) : Text := keyword ++ (name ++ "()".toList)

theorem length_words (name : Text) : (words name).length = name.length + 11 := by
  have hkeyword : keyword.length = 9 := by decide
  have hcall : "()".toList.length = 2 := by decide
  rw [words, List.length_append, List.length_append, hkeyword, hcall]
  omega

/-- A character that a header takes **only from the name**. -/
theorem notMem_words {n : Text} (hn : IsName n) {c : Char} (hi : isIdentifier c = false)
    (h : c ∉ words []) : c ∉ words n := by
  simp only [words, List.mem_append, not_or] at h ⊢
  exact ⟨h.1, hn.notMem hi, h.2.2⟩

/-- Only one header **ends at** one place. -/
theorem words_unique {x x' n n' : Text} (hn : IsName n) (hn' : IsName n')
    (h : x ++ words n = x' ++ words n') : x = x' ∧ n = n' := by
  have hspace : ∀ {n : Text}, IsName n → ' ' ∉ n ++ "()".toList := fun hn => by
    simp [hn.notMem (c := ' ') (by decide)]
  have hkeyword : keyword = "function".toList ++ [' '] := by decide
  have hcut : ∀ x n : Text, x ++ words n = (x ++ "function".toList) ++ ' ' :: (n ++ "()".toList) :=
    fun x n => by rw [words, hkeyword]; simp
  rw [hcut, hcut] at h
  obtain ⟨hx, hn⟩ := Text.cut_unique_last (hspace hn) (hspace hn') h
  exact ⟨List.append_cancel_right hx, List.append_cancel_right hn⟩

theorem fits_pattern_iff {parts : List Text} {rest : Text} : Fits pattern parts rest ↔
    ∃ n, parts = [keyword, n, "()".toList, []] ∧ IsName n ∧ rest = [] := by
  constructor
  · rintro ⟨_, _, rfl, rfl, n, _, rfl, hn, _, _, rfl, rfl, _, _, rfl, ⟨rfl, hrest⟩, rfl⟩
    exact ⟨n, rfl, hn, by simpa using hrest⟩
  · rintro ⟨n, rfl, hn, rfl⟩
    exact ⟨_, _, rfl, rfl, _, _, rfl, hn, _, _, rfl, rfl, _, _, rfl, ⟨rfl, rfl⟩, rfl⟩

theorem of_search?_eq_some {s : Text} {hit : Hit} (h : search? pattern s = some hit) :
    ∃ n, s = hit.before ++ words n ∧ IsName n ∧ hit.part 1 = n ∧ hit.text = words n := by
  obtain ⟨hs, hm, -⟩ := search?_eq_some h
  obtain ⟨n, hparts, hn, hafter⟩ := fits_pattern_iff.1 (fits_of_match? hm).2
  have htext : hit.text = words n := by simp [Hit.text, hparts, words]
  refine ⟨n, ?_, hn, by simp [Hit.part, hparts], htext⟩
  rw [hs, hafter, List.append_nil, htext]

theorem search?_words {x n : Text} (hn : IsName n) :
    ∃ hit, search? pattern (x ++ words n) = some hit ∧ hit.before = x ∧ hit.part 1 = n ∧
      hit.text = words n := by
  have hfits : Fits pattern [keyword, n, "()".toList, []] [] := fits_pattern_iff.2 ⟨n, rfl, hn, rfl⟩
  cases h : search? pattern (x ++ words n) with
  | none =>
    have hnone := search?_eq_none_iff.1 h x.length (by simp)
    have hsome := match?_isSome_of_fits hfits
    have hwords : [keyword, n, "()".toList, []].flatten ++ [] = words n := by simp [words]
    rw [hwords] at hsome
    rw [List.drop_left, Option.eq_none_iff_forall_ne_some] at hnone
    obtain ⟨found, hfound⟩ := Option.isSome_iff_exists.1 hsome
    exact absurd hfound (hnone found)
  | some hit =>
    obtain ⟨n', hs, hn', hpart, htext⟩ := of_search?_eq_some h
    obtain ⟨hx, rfl⟩ := words_unique hn hn' hs
    exact ⟨hit, rfl, hx.symm, hpart, htext⟩

/-- Inside the source, the header is looked for in **the last characters** before the body. -/
theorem before_eq {source : Text} {b : Nat} (hb : b ≤ source.length) :
    before source b =
      match search? pattern ((source.take b).drop (b - 100)) with
      | none => .error .headerMissing
      | some hit => .ok ⟨hit.part 1, (b - 100 : Nat) + hit.start, (b - 100 : Nat) + hit.stop⟩ := by
  have hindex : source.indexable (b : Int) = true := Text.indexable_of_le hb
  have hfirst : max 0 ((b : Int) - window) = ((b - 100 : Nat) : Int) := by
    simp only [window]
    omega
  have hwidth : ((b : Int) - ((b - 100 : Nat) : Int)).toNat = b - (b - 100) := by omega
  cases hsearch : search? pattern ((source.take b).drop (b - 100)) <;>
    simp only [before, hindex, Bool.not_true, Bool.false_eq_true, if_false, hfirst, hwidth,
      Int.toNat_natCast, ← List.drop_take, hsearch]

/-- The header in front of a body is **the end of what stands before** it; its name fits the
window. -/
theorem before_eq_ok_iff {source : Text} {b : Nat} (hb : b ≤ source.length) {header : Header} :
    before source b = .ok header ↔
      ∃ x n, source.take b = x ++ words n ∧ IsName n ∧ n.length ≤ 89 ∧
        header = ⟨n, x.length, b⟩ := by
  have hlength : (source.take b).length = b := List.length_take_of_le hb
  rw [before_eq hb]
  constructor
  · intro h
    cases hfound : search? pattern ((source.take b).drop (b - 100)) with
    | none => rw [hfound] at h; cases h
    | some hit =>
      rw [hfound] at h
      obtain ⟨n, hs, hn, hpart, htext⟩ := of_search?_eq_some hfound
      have hwords := length_words n
      have hstretch := congrArg List.length hs
      rw [List.length_drop, List.length_append, hlength] at hstretch
      refine ⟨(source.take b).take (b - 100) ++ hit.before, n, ?_, hn, by omega, ?_⟩
      · rw [List.append_assoc, ← hs, List.take_append_drop]
      · rw [← Except.ok.inj h, hpart, Header.mk.injEq, Hit.start, Hit.stop, htext,
          List.length_append, List.length_take, hlength]
        exact ⟨rfl, by omega, by omega⟩
  · rintro ⟨x, n, hs, hn, hshort, rfl⟩
    have hwords := length_words n
    have hx := congrArg List.length hs
    rw [List.length_append, hlength] at hx
    have hdrop : (source.take b).drop (b - 100) = x.drop (b - 100) ++ words n := by
      rw [hs, List.drop_append_of_le_length (by omega)]
    obtain ⟨hit, hfound, hbefore, hpart, htext⟩ := search?_words (x := x.drop (b - 100)) hn
    rw [hdrop, hfound]
    simp only [Except.ok.injEq, Header.mk.injEq, hpart, Hit.start, Hit.stop, hbefore, htext,
      List.length_drop]
    exact ⟨trivial, by omega, by omega⟩

/-- Where there is no header, **none stands there**. -/
theorem before_error {source : Text} {b : Nat} {why : Fault} (hb : b ≤ source.length)
    (h : before source b = .error why) : why = .headerMissing := by
  rw [before_eq hb] at h
  split at h
  · exact (Except.error.inj h).symm
  · cases h

end Header

/-! ## The layout -/

/-- A source, **cut around an anchor** in a function. -/
structure Layout where
  /-- What leads up to the function. -/
  lead : Text
  /-- The name of the function. -/
  name : Text
  /-- What stands between the opening brace and the anchor. -/
  head : Text
  anchor : Text
  /-- What stands between the anchor and the closing brace. -/
  tail : Text
  /-- What trails behind the function. -/
  trail : Text

namespace Layout

variable (l : Layout)

/-- What stands between the braces. -/
def inner : Text := l.head ++ (l.anchor ++ l.tail)

/-- The text of the function. -/
def code : Text := Header.words l.name ++ '{' :: (l.inner ++ ['}'])

/-- The **whole source**. -/
def source : Text := l.lead ++ (l.code ++ l.trail)

/-- What stands **before the anchor**. -/
def front : Text := l.lead ++ (Header.words l.name ++ '{' :: l.head)

/-- What stands **behind the anchor**. -/
def rear : Text := l.tail ++ '}' :: l.trail

/-- Where the body starts. -/
def bodyStart : Nat := l.lead.length + (Header.words l.name).length

/-- The anchor, where it stands. -/
def mark : Anchor := .ofText (l.bodyStart + 1 + l.head.length) l.anchor

/-- The **function** laid out. -/
def routine : Routine :=
  ⟨l.name, l.lead.length, l.lead.length + l.code.length, l.bodyStart, l.code⟩

/-- What makes the function **the one around the anchor**. -/
structure Sound : Prop where
  name : IsName l.name
  short : l.name.length ≤ 89
  head : Nested '{' '}' l.head
  anchor : IsAnchor l.anchor
  tail : Nested '{' '}' l.tail

variable {l}

theorem Sound.inner (h : l.Sound) : Nested '{' '}' l.inner :=
  h.head.append (by decide) (h.anchor.nested.append (by decide) h.tail)

end Layout

theorem Routine.enclosing_eq_ok_iff {source : Text} {anchor : Anchor} {sc : Scanner} {f : Routine} :
    enclosing source anchor sc = .ok f ↔
      ∃ close start header, sc.findClosing source anchor.stop = .ok close ∧
        sc.findOpening source close = .ok start ∧ Header.before source start = .ok header ∧
        (header.start < anchor.start ∧ anchor.stop ≤ close + 1) ∧
        sc.balance (source.slice header.start (close + 1)) = 0 ∧
        f = ⟨header.name, header.start, close + 1, start,
          source.slice header.start (close + 1)⟩ := by
  simp only [enclosing, bind_eq_ok_iff]
  constructor
  · rintro ⟨close, hclose, start, hstart, header, hheader, h⟩
    refine ⟨close, start, header, hclose, hstart, hheader, ?_⟩
    by_cases hguard : header.start < anchor.start ∧ anchor.stop ≤ close + 1
    · rw [if_neg (not_not.2 hguard)] at h
      by_cases hbalance : sc.balance (source.slice header.start (close + 1)) = 0
      · rw [if_neg (not_not.2 hbalance)] at h
        exact ⟨hguard, hbalance, (Except.ok.inj h).symm⟩
      · rw [if_pos hbalance] at h
        cases h
    · rw [if_pos hguard] at h
      cases h
  · rintro ⟨close, start, header, hclose, hstart, hheader, hguard, hbalance, rfl⟩
    refine ⟨close, hclose, start, hstart, header, hheader, ?_⟩
    rw [if_neg (not_not.2 hguard), if_neg (not_not.2 hbalance)]
    rfl

namespace Layout

variable {l : Layout}

theorem source_eq (l : Layout) : l.source = l.front ++ (l.anchor ++ l.rear) := by
  simp [source, code, inner, front, rear]

theorem length_front (l : Layout) : l.front.length = l.bodyStart + 1 + l.head.length := by
  simp [front, bodyStart]
  omega

theorem stop_mark (l : Layout) : l.mark.stop = (l.front.length + l.anchor.length : Nat) := by
  simp [mark, Anchor.ofText, length_front]

theorem balance_code (h : l.Sound) : ({} : Scanner).balance l.code = 0 := by
  have hopening : (Header.words l.name).count '{' = 0 :=
    List.count_eq_zero.2 (Header.notMem_words h.name (by decide) (by decide))
  have hclosing : (Header.words l.name).count '}' = 0 :=
    List.count_eq_zero.2 (Header.notMem_words h.name (by decide) (by decide))
  simp only [Scanner.balance, BundlePatch.balance, occurrences_singleton, code, List.count_append,
    hopening, hclosing]
  simp [h.inner.2]

/-- The closing brace, **by position**. -/
theorem stop_eq (l : Layout) :
    l.lead.length + l.code.length = l.bodyStart + 1 + l.inner.length + 1 := by
  simp [code, bodyStart]
  omega

/-- **The function that is found is the one laid out.** -/
theorem enclosing_source (h : l.Sound) : Routine.enclosing l.source l.mark {} = .ok l.routine := by
  have hinner : l.inner.length = l.head.length + l.anchor.length + l.tail.length := by
    simp [inner]
    omega
  have hstop := l.stop_eq
  have hlength : l.source.length = l.lead.length + l.code.length + l.trail.length := by
    simp [source]
    omega
  have hclose : ((l.lead.length + l.code.length : Nat) : Int) =
      ((l.bodyStart + 1 + l.inner.length : Nat) : Int) + 1 := by omega
  have hslice : l.source.slice l.lead.length
      (((l.bodyStart + 1 + l.inner.length : Nat) : Int) + 1) = l.code := by
    rw [← hclose]
    exact Text.slice_middle l.lead l.code l.trail
  have hfound := (@Scanner.found_iff l.front l.anchor l.rear l.bodyStart
    ((l.bodyStart + 1 + l.inner.length : Nat) : Int) h.anchor.nested).2
    ⟨l.lead ++ Header.words l.name, l.head, l.tail, l.trail, by simp [front], rfl, h.head, h.tail,
      by simp [bodyStart], by rw [length_front]; omega⟩
  rw [← source_eq, ← stop_mark] at hfound
  refine Routine.enclosing_eq_ok_iff.2 ⟨((l.bodyStart + 1 + l.inner.length : Nat) : Int),
    l.bodyStart, ⟨l.name, l.lead.length, l.bodyStart⟩, ?_, ?_, ?_, ?_, ?_, ?_⟩
  · exact hfound.1
  · exact hfound.2
  · rw [Header.before_eq_ok_iff (by omega)]
    refine ⟨l.lead, l.name, ?_, h.name, h.short, rfl⟩
    have hcut : l.source =
        (l.lead ++ Header.words l.name) ++ ('{' :: l.inner ++ '}' :: l.trail) := by
      simp [source, code]
    rw [hcut]
    exact List.take_left' (by simp [bodyStart])
  · have := Header.length_words l.name
    simp only [mark, Anchor.ofText, bodyStart]
    omega
  · rw [hslice]
    exact balance_code h
  · rw [hslice, ← hclose]
    rfl

end Layout

/-- A header in front of the braces closest to an anchor **lays the function out**. -/
theorem exists_layout_of_header {u head t tail trail : Text} {header : Header} (ht : IsAnchor t)
    (hhead : Nested '{' '}' head) (htail : Nested '{' '}' tail)
    (hheader : Header.before (u ++ '{' :: head ++ (t ++ (tail ++ '}' :: trail))) u.length =
      .ok header) :
    ∃ l : Layout, l.Sound ∧ l.source = u ++ '{' :: head ++ (t ++ (tail ++ '}' :: trail)) ∧
      l.mark = .ofText (u ++ '{' :: head).length t ∧ l.anchor = t ∧ l.head = head ∧
      u = l.lead ++ Header.words l.name := by
  obtain ⟨lead, name, hlead, hname, hshort, rfl⟩ :=
    (Header.before_eq_ok_iff (by simp)).1 hheader
  rw [List.append_assoc, List.take_left] at hlead
  subst hlead
  refine ⟨⟨lead, name, head, t, tail, trail⟩, ⟨hname, hshort, hhead, ht, htail⟩, ?_, ?_, rfl, rfl,
    rfl⟩
  · simp [Layout.source, Layout.code, Layout.inner]
  · refine congrArg (Anchor.ofText · t) ?_
    simp [Layout.bodyStart]
    omega

/-- **Every function that is found is laid out** around its anchor. -/
theorem exists_layout {x t y : Text} {f : Routine} (ht : IsAnchor t)
    (h : Routine.enclosing (x ++ (t ++ y)) (.ofText x.length t) {} = .ok f) :
    ∃ l : Layout, l.Sound ∧ l.source = x ++ (t ++ y) ∧ l.anchor = t ∧
      x = l.lead ++ (Header.words l.name ++ '{' :: l.head) ∧ l.routine = f := by
  obtain ⟨close, start, header, hclose, hstart, hheader, -⟩ := Routine.enclosing_eq_ok_iff.1 h
  have hstop : (Anchor.ofText x.length t).stop = ((x.length + t.length : Nat) : Int) := by
    simp [Anchor.ofText]
  obtain ⟨u, head, tail, trail, rfl, rfl, hhead, htail, rfl, -⟩ :=
    (Scanner.found_iff ht.nested).1 ⟨hstop ▸ hclose, hstart⟩
  obtain ⟨l, hl, hsource, hmark, hanchor, rfl, rfl⟩ :=
    exists_layout_of_header ht hhead htail hheader
  have hfound := Layout.enclosing_source hl
  rw [hsource, hmark] at hfound
  exact ⟨l, hl, hsource, hanchor, List.append_assoc .., Except.ok.inj (hfound.symm.trans h)⟩

end BundlePatch
