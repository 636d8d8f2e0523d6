import BundlePatch.Anchor
import BundlePatch.Proofs.Names
import BundlePatch.Proofs.Nesting

/-!
# Proofs/AnchorText — what an anchor is made of, and the survey of a source

An anchor is the word `return`, blanks, and **one pair of braces** around names, blanks, colons and
commas (`IsAnchor.cut`).  So an anchor ends at the first closing brace behind its start
(`IsAnchor.unique`) and no other starts inside it (`IsAnchor.clear`), which makes the survey of a
source a count of places (`survey_eq_ok_iff`).
-/

namespace BundlePatch

open Pattern

/-- A text of the **anchor grammar** for the usual fields. -/
def IsAnchor (t : Text) : Prop := (Anchor.pattern Anchor.fields).Spells t

namespace Anchor

/-- What stands **between the braces** of an anchor. -/
def isInside (c : Char) : Bool := isIdentifier c || isBlank c || c == ':' || c == ','

/-- The pattern of what stands between the braces. -/
def insidePattern (names : List Text) : Pattern := .many isBlank :: body names ++ [.many isBlank]

theorem open_body (names : List Text) : (body names).Open := by
  induction names with
  | nil => simp [body, Pattern.Open]
  | cons name names ih =>
    cases names with
    | nil => simp [body, field, spaced, Pattern.Open]
    | cons name' names =>
      simp only [Pattern.Open, body, field, spaced] at ih ⊢
      simp [ih]

theorem open_insidePattern (names : List Text) : (insidePattern names).Open := by
  have := open_body names
  simp only [Pattern.Open] at this
  simp [insidePattern, Pattern.Open, this]

theorem open_pattern (names : List Text) : (pattern names).Open := by
  have := open_body names
  simp only [Pattern.Open] at this
  simp [pattern, spaced, Pattern.Open, this]

theorem within_body {names : List Text} (h : ∀ name ∈ names, ∀ c ∈ name, isInside c = true) :
    ∀ piece ∈ body names, piece.Within (isInside · = true) := by
  have hname : ∀ c, isIdentifier c = true → isInside c = true := fun c hc => by simp [isInside, hc]
  have hblank : ∀ c, isBlank c = true → isInside c = true := fun c hc => by simp [isInside, hc]
  induction names with
  | nil => simp [body]
  | cons name names ih =>
    have hhead := h name List.mem_cons_self
    have htail := ih fun n hn => h n (List.mem_cons_of_mem _ hn)
    cases names with
    | nil =>
      simp only [body, field, spaced, List.cons_append, List.nil_append, List.mem_cons,
        List.not_mem_nil, or_false, forall_eq_or_imp, forall_eq, Piece.Within]
      exact ⟨hhead, hblank, by decide, hblank, hname⟩
    | cons name' names =>
      simp only [body, field, spaced, List.cons_append, List.nil_append, List.mem_cons,
        forall_eq_or_imp, Piece.Within]
      exact ⟨hhead, hblank, by decide, hblank, hname, hblank, by decide, hblank, htail⟩

end Anchor

namespace IsAnchor

open Anchor

variable {t t' s : Text}

/-- **The parts of an anchor**: the word, the blanks behind it, and what stands between the
braces. -/
theorem cut (h : IsAnchor t) : ∃ b inside, t = "return".toList ++ (b ++ '{' :: (inside ++ ['}'])) ∧
    (∀ c ∈ b, isBlank c = true) ∧ (∀ c ∈ inside, isInside c = true) ∧ ',' ∈ inside := by
  have hp : pattern fields = .word "return".toList :: .many isBlank :: .word ['{'] ::
      (insidePattern fields ++ [.word ['}']]) := by
    simp [pattern, insidePattern, spaced]
  rw [IsAnchor, hp, spells_word] at h
  obtain ⟨_, rfl, hblanks⟩ := h
  obtain ⟨b, _, rfl, hb, hopening⟩ := spells_cons.1 hblanks
  obtain ⟨_, rfl, hrest⟩ := spells_word.1 hopening
  obtain ⟨inside, _, rfl, hinside, hclosing⟩ := (spells_append (open_insidePattern _)).1 hrest
  obtain ⟨_, rfl, hend⟩ := spells_word.1 hclosing
  obtain rfl := spells_nil.1 hend
  refine ⟨b, inside, by simp, hb, hinside.within ?_, ?_⟩
  · have hfields : ∀ name ∈ fields, ∀ c ∈ name, isInside c = true := by decide
    have hbody := within_body hfields
    have hblank : ∀ c, isBlank c = true → isInside c = true := fun c hc => by simp [isInside, hc]
    simp only [insidePattern, List.cons_append, List.mem_cons, List.mem_append, List.not_mem_nil,
      or_false]
    rintro piece (rfl | hpiece | rfl)
    · exact hblank
    · exact hbody piece hpiece
    · exact hblank
  · have hcomma : [','] <:+: inside := hinside.infix_of_word_mem (by
      simp [insidePattern, fields, body, spaced])
    exact hcomma.subset (List.mem_singleton.2 rfl)

/-- An anchor has **one closing brace, at its end**. -/
theorem eq_append (h : IsAnchor t) : ∃ u, t = u ++ ['}'] ∧ '}' ∉ u := by
  obtain ⟨b, inside, rfl, hb, hinside, -⟩ := h.cut
  refine ⟨"return".toList ++ (b ++ '{' :: inside), by simp, ?_⟩
  have hb' : '}' ∉ b := fun hm => absurd (hb _ hm) (by decide)
  have hi' : '}' ∉ inside := fun hm => absurd (hinside _ hm) (by decide)
  simp [hb', hi']

/-- A character that is **no letter of an anchor**. -/
theorem notMem (h : IsAnchor t) {c : Char} (hi : isInside c = false) (ho : c ≠ '{') (hc : c ≠ '}') :
    c ∉ t := by
  obtain ⟨b, inside, rfl, hb, hinside, -⟩ := h.cut
  have hr : ∀ d ∈ "return".toList, isInside d = true := by decide
  simp only [List.mem_append, List.mem_cons, List.not_mem_nil, or_false, not_or]
  refine ⟨fun hm => ?_, fun hm => ?_, ho, fun hm => ?_, hc⟩
  · rw [hr _ hm] at hi; cases hi
  · simp [isInside, hb _ hm] at hi
  · rw [hinside _ hm] at hi; cases hi

theorem comma_mem (h : IsAnchor t) : ',' ∈ t := by
  obtain ⟨b, inside, rfl, -, -, hcomma⟩ := h.cut
  simp [hcomma]

theorem ne_nil (h : IsAnchor t) : t ≠ [] := by
  obtain ⟨u, rfl, -⟩ := h.eq_append
  simp

/-- An anchor **opens and closes one pair** of braces. -/
theorem nested (h : IsAnchor t) : Nested '{' '}' t := by
  obtain ⟨b, inside, rfl, hb, hinside, -⟩ := h.cut
  have hbo : '{' ∉ b := fun hm => absurd (hb _ hm) (by decide)
  have hbc : '}' ∉ b := fun hm => absurd (hb _ hm) (by decide)
  have hio : '{' ∉ inside := fun hm => absurd (hinside _ hm) (by decide)
  have hic : '}' ∉ inside := fun hm => absurd (hinside _ hm) (by decide)
  rw [nested_iff_climb (by decide), climb_append, climb_of_notMem (by decide) (by decide),
    Option.bind_some, climb_append, climb_of_notMem hbo hbc, Option.bind_some]
  simp [climb, climb_append, climb_of_notMem hio hic]

/-- At one place **only one anchor** starts. -/
theorem unique (h : IsAnchor t) (h' : IsAnchor t') (ht : t <+: s) (ht' : t' <+: s) : t = t' := by
  obtain ⟨u, rfl, hu⟩ := h.eq_append
  obtain ⟨u', rfl, hu'⟩ := h'.eq_append
  obtain ⟨r, hr⟩ := ht
  obtain ⟨r', hr'⟩ := ht'
  rw [List.append_assoc] at hr hr'
  rw [(Text.cut_unique hu hu' (hr.trans hr'.symm)).1]

/-- **No anchor starts inside an anchor**: both would end at the same brace, and there is only one
word `return` in front of it. -/
theorem eq_of_suffix (h : IsAnchor t) (h' : IsAnchor t') (ht : t' <:+ t) : t' = t := by
  obtain ⟨x, rfl⟩ := ht
  obtain ⟨b, inside, hcut, hb, hinside, -⟩ := h.cut
  obtain ⟨b', inside', rfl, hb', hinside', -⟩ := h'.cut
  have hbo : '{' ∉ b := fun hm => absurd (hb _ hm) (by decide)
  have hbo' : '{' ∉ b' := fun hm => absurd (hb' _ hm) (by decide)
  have hio : '{' ∉ inside := fun hm => absurd (hinside _ hm) (by decide)
  have hx : '{' ∉ x := by
    have hcount := congrArg (List.count '{') hcut
    have hro : List.count '{' "return".toList = 0 := by decide
    simp only [List.count_append, List.count_cons_self, List.count_eq_zero_of_not_mem hbo,
      List.count_eq_zero_of_not_mem hio, hro] at hcount
    rw [← List.count_eq_zero]
    simp at hcount
    omega
  have hfront : x ++ ("return".toList ++ b') = "return".toList ++ b := by
    refine (@Text.cut_unique _ (inside' ++ ['}']) _ (inside ++ ['}']) '{' ?_ ?_ ?_).1
    · simp [hx, hbo']
    · simp [hbo]
    · simpa using hcut
  cases x with
  | nil => rfl
  | cons d x =>
    -- a second word would bring two more letters `r`
    have hd : d = 'r' := by simpa using congrArg List.head? hfront
    have hcount := congrArg (List.count 'r') hfront
    have hbr : List.count 'r' b = 0 := List.count_eq_zero.2 fun hm => absurd (hb _ hm) (by decide)
    have hrr : List.count 'r' "return".toList = 2 := by decide
    rw [hd, List.cons_append, List.count_cons_self, List.count_append, List.count_append,
      List.count_append, hrr, hbr] at hcount
    omega

/-- **No anchor starts behind the start** of an anchor. -/
theorem clear {d : Char} (h : IsAnchor (d :: t)) (rest : Text) :
    Clear (pattern fields) t rest := by
  refine clear_of_forall_suffix fun u hu hne => ?_
  rintro ⟨t', ht', hpre⟩
  -- `u` ends with the only closing brace, so the other anchor is `u`
  obtain ⟨v, hv, hbrace⟩ := h.eq_append
  have hsuffix : u <:+ d :: t := hu.trans (List.suffix_cons d t)
  have hend := hsuffix
  rw [hv, List.suffix_concat_iff] at hend
  obtain ⟨u, rfl, hu'⟩ := hend.resolve_left hne
  obtain ⟨w, rfl, hwbrace⟩ := IsAnchor.eq_append ht'
  obtain ⟨r, hr⟩ := hpre
  have hubrace : '}' ∉ u := fun hm => hbrace (hu'.subset hm)
  obtain rfl : w = u := (Text.cut_unique hwbrace hubrace (by simpa using hr)).1
  have hlen := congrArg List.length (h.eq_of_suffix ht' hsuffix)
  have hle := hu.length_le
  rw [hlen, List.length_cons] at hle
  omega

end IsAnchor

namespace Anchor

/-! ## The survey of a source -/

variable {s x y : Text}

/-- Anchors **do not overlap**, so a scan meets every place where one starts. -/
theorem length_scan (s : Text) :
    (scan (pattern fields) s).1.length = beginnings (pattern fields) s [] := by
  have hp := open_pattern fields
  refine scan_induction (motive := fun s segs _ => segs.length = beginnings _ s []) hp
    (fun h => IsAnchor.ne_nil h rfl) (fun s h => ?_) (fun s hit segs tail h ih => ?_) s
  · rw [search?_eq_none_iff_forall hp] at h
    refine ((beginnings_eq_zero_iff hp).2 (clear_of_forall_suffix fun u hu _ => ?_)).symm
    rintro ⟨t, ht, hpre⟩
    rw [List.append_nil] at hpre
    exact h t ht (hpre.isInfix.trans hu.isInfix)
  · obtain ⟨hs, htext, -, hbefore⟩ := search?_spec hp h
    obtain ⟨d, t, hdt⟩ := List.exists_cons_of_ne_nil (IsAnchor.ne_nil htext)
    have hinside : beginnings (pattern fields) t hit.after = 0 :=
      (beginnings_eq_zero_iff hp).2 (IsAnchor.clear (hdt ▸ htext) _)
    have hhere : ((pattern fields).match? (d :: (t ++ hit.after))).isSome :=
      (match?_isSome_iff_begins hp).2 ⟨_, hdt ▸ htext, List.prefix_append (d :: t) _⟩
    rw [List.length_cons, ih, hs, beginnings_append, List.append_nil,
      (beginnings_eq_zero_iff hp).2 hbefore, beginnings_append, List.append_nil, hdt, beginnings,
      if_pos hhere, hinside]
    omega

/-- The **first anchor** is the one before which none starts. -/
theorem locate_eq_ok_iff {anchor : Anchor} : locate fields s = .ok anchor ↔
    ∃ x t y, s = x ++ (t ++ y) ∧ IsAnchor t ∧ Clear (pattern fields) x (t ++ y) ∧
      anchor = ofText x.length t := by
  have hp := open_pattern fields
  constructor
  · intro h
    cases hfound : search? (pattern fields) s with
    | none =>
      rw [locate, hfound] at h
      cases h
    | some hit =>
      obtain ⟨hs, htext, -, hbefore⟩ := search?_spec hp hfound
      rw [locate, hfound] at h
      exact ⟨hit.before, hit.text, hit.after, hs, htext, hbefore, (Except.ok.inj h).symm⟩
  · rintro ⟨x, t, y, rfl, ht, hclear, rfl⟩
    obtain ⟨hit, hfound, hx, hrest⟩ := search?_eq_some_of_clear hp ht hclear
    obtain ⟨-, htext, -⟩ := search?_spec hp hfound
    have hanchor : hit.text = t :=
      IsAnchor.unique htext ht (List.prefix_append hit.text hit.after)
        (hrest.symm ▸ List.prefix_append t y)
    rw [locate, hfound, ← hanchor, ← hx]
    rfl

/-- A survey **starts with the first anchor** and goes on to count. -/
theorem survey_eq_map (names : List Text) (s : Text) : survey names s =
    (locate names s).map fun anchor => (anchor, (scan (pattern names) s).1.length) := by
  cases hfound : search? (pattern names) s with
  | none =>
    rw [survey, locate, hfound, scan_of_search?_eq_none hfound]
    rfl
  | some hit =>
    obtain ⟨v, hv, -⟩ := spells_word.1 (search?_spec (open_pattern names) hfound).2.1
    have hne : hit.text ≠ [] := by simp [hv]
    rw [survey, locate, hfound, scan_of_search?_eq_some hfound hne]
    rfl

theorem survey_eq_ok_iff_locate {names : List Text} {anchor : Anchor} {total : Nat} :
    survey names s = .ok (anchor, total) ↔
      locate names s = .ok anchor ∧ total = (scan (pattern names) s).1.length := by
  rw [survey_eq_map]
  cases locate names s with
  | error why => exact ⟨nofun, nofun⟩
  | ok first => simp [Except.map, eq_comm]

theorem survey_error {names : List Text} {why : Fault} (h : survey names s = .error why) :
    why = .anchorMissing := by
  rw [survey] at h
  split at h
  · exact (Except.error.inj h).symm
  · cases h

/-- The number of all anchors is that of the **places where one starts**. -/
theorem survey_eq_ok_iff {anchor : Anchor} {total : Nat} :
    survey fields s = .ok (anchor, total) ↔
      ∃ x t y, s = x ++ (t ++ y) ∧ IsAnchor t ∧ Clear (pattern fields) x (t ++ y) ∧
        anchor = ofText x.length t ∧ total = beginnings (pattern fields) s [] := by
  rw [survey_eq_ok_iff_locate, length_scan, locate_eq_ok_iff]
  constructor
  · rintro ⟨⟨x, t, y, hs, ht, hclear, hanchor⟩, htotal⟩
    exact ⟨x, t, y, hs, ht, hclear, hanchor, htotal⟩
  · rintro ⟨x, t, y, hs, ht, hclear, hanchor, htotal⟩
    exact ⟨⟨x, t, y, hs, ht, hclear, hanchor⟩, htotal⟩

/-- The first anchor **is one, and none starts before it**. -/
theorem spec_of_survey {anchor : Anchor} {total : Nat} (h : survey fields s = .ok (anchor, total)) :
    IsAnchor anchor.text ∧
      ∀ x t y, s = x ++ (t ++ y) → IsAnchor t → anchor.start ≤ x.length := by
  obtain ⟨x, t, y, rfl, ht, hclear, rfl, -⟩ := survey_eq_ok_iff.1 h
  refine ⟨ht, fun x' t' y' hs ht' => ?_⟩
  simpa [ofText] using hclear.length_le ht' hs

end Anchor

end BundlePatch
