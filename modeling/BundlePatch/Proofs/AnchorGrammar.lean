import BundlePatch.Proofs.AnchorText
import Mathlib.Data.Set.Card

/-!
# Proofs/AnchorGrammar — the return statement of any fields, where the first one is and how many

The return statement of an object is a small grammar: the word `return`, a brace, the members with
commas between them, a brace, and blanks wherever two of these meet (`IsReturn`).  The names of the
fields are **any texts**: none at all, an empty one, one that starts with a blank.  The search takes
the longest run of blanks first, so before such a name it has to give some of them back.

* `spells_pattern_iff` — the pattern spells just the texts of the grammar.
* `locate_spec` — an anchor is missing exactly when no part of the source is such a text, and
  otherwise the anchor is the first one.
* `survey_spec` — the survey finds the same anchor, and for the usual fields it counts every place at
  which such a text begins, because two of them never overlap.
-/

namespace BundlePatch

open Pattern

/-- **Blanks**, maybe none. -/
def IsBlanks (b : Text) : Prop := ∀ c ∈ b, isBlank c = true

instance (b : Text) : Decidable (IsBlanks b) := inferInstanceAs (Decidable (∀ c ∈ b, _ = true))

namespace Anchor

/-! ## The grammar -/

/-- A **token** between blanks. -/
def IsSpaced (token t : Text) : Prop :=
  ∃ b b', IsBlanks b ∧ IsBlanks b' ∧ t = b ++ (token ++ b')

/-- A **member** of an object: the name of the field, a colon, and the name of its value. -/
def IsMember (name t : Text) : Prop :=
  ∃ colon value, IsSpaced [':'] colon ∧ IsName value ∧ t = name ++ (colon ++ value)

/-- The **members** of an object with these fields: in their order, and with a comma between two of
them. -/
inductive Members : List Text → Text → Prop
  | none : Members [] []
  | last {name t : Text} : IsMember name t → Members [name] t
  | more {name name' t comma rest : Text} {names : List Text} : IsMember name t →
      IsSpaced [','] comma → Members (name' :: names) rest →
      Members (name :: name' :: names) (t ++ (comma ++ rest))

/-- The **return statement** of an object with these fields. -/
def IsReturn (names : List Text) (t : Text) : Prop :=
  ∃ brace inside b, IsSpaced ['{'] brace ∧ Members names inside ∧ IsBlanks b ∧
    t = "return".toList ++ (brace ++ (inside ++ (b ++ ['}'])))

variable {names : List Text} {name token t source : Text}

/-! ## The pattern spells the grammar -/

theorem spells_spaced_iff : (spaced token).Spells t ↔ IsSpaced token t := by
  simp only [spaced, spells_cons, spells_nil]
  constructor
  · rintro ⟨b, _, rfl, hb, _, _, rfl, rfl, b', _, rfl, hb', rfl⟩
    exact ⟨b, b', hb, hb', by simp⟩
  · rintro ⟨b, b', hb, hb', rfl⟩
    exact ⟨b, _, rfl, hb, token, b', rfl, rfl, b', [], by simp, hb', rfl⟩

theorem open_spaced : (spaced token).Open := by
  simp [spaced, Pattern.Open]

theorem spells_field_iff : (field name).Spells t ↔ IsMember name t := by
  simp only [field, List.cons_append, spells_cons, spells_append open_spaced, spells_spaced_iff,
    spells_nil]
  constructor
  · rintro ⟨_, _, rfl, rfl, colon, _, rfl, hcolon, value, _, rfl, hvalue, rfl⟩
    exact ⟨colon, value, hcolon, hvalue, by simp⟩
  · rintro ⟨colon, value, hcolon, hvalue, rfl⟩
    exact ⟨name, _, rfl, rfl, colon, value, rfl, hcolon, value, [], by simp, hvalue, rfl⟩

theorem open_field : (field name).Open := by
  simp [field, spaced, Pattern.Open]

theorem spells_body_iff : (body names).Spells t ↔ Members names t := by
  induction names generalizing t with
  | nil =>
    rw [body, spells_nil]
    constructor
    · rintro rfl
      exact .none
    · rintro ⟨⟩
      rfl
  | cons name names ih =>
    cases names with
    | nil =>
      rw [body, spells_field_iff]
      constructor
      · exact .last
      · rintro ⟨⟩
        assumption
    | cons name' names =>
      simp only [body, List.append_assoc, spells_append open_field, spells_append open_spaced,
        spells_field_iff, spells_spaced_iff, ih]
      constructor
      · rintro ⟨t, _, rfl, ht, comma, rest, rfl, hcomma, hrest⟩
        exact .more ht hcomma hrest
      · rintro (_ | _ | ⟨ht, hcomma, hrest⟩)
        exact ⟨_, _, rfl, ht, _, _, rfl, hcomma, hrest⟩

/-- The pattern of these fields spells **their return statements**. -/
theorem spells_pattern_iff : (pattern names).Spells t ↔ IsReturn names t := by
  simp only [pattern, List.cons_append, List.append_assoc, spells_cons, spells_append open_spaced,
    spells_append (open_body names), spells_spaced_iff, spells_body_iff, spells_nil]
  constructor
  · rintro ⟨_, _, rfl, rfl, brace, _, rfl, hbrace, inside, _, rfl, hinside, b, _, rfl, hb, _, _,
      rfl, rfl, rfl⟩
    exact ⟨brace, inside, b, hbrace, hinside, hb, by simp⟩
  · rintro ⟨brace, inside, b, hbrace, hinside, hb, rfl⟩
    exact ⟨_, _, rfl, rfl, brace, _, rfl, hbrace, inside, _, rfl, hinside, b, _, rfl, hb, ['}'], [],
      rfl, rfl, rfl⟩

/-! ## The first return statement -/

/-- The anchor is the **first return statement** of an object with these fields: it stands where it
says, and no other one starts before. -/
structure IsFirst (names : List Text) (source : Text) (anchor : Anchor) : Prop where
  isReturn : IsReturn names anchor.text
  starts : ∃ x y, source = x ++ (anchor.text ++ y) ∧ anchor.start = x.length
  slice : source.slice anchor.start anchor.stop = anchor.text
  start_le : ∀ x t y, source = x ++ (t ++ y) → IsReturn names t → anchor.start ≤ x.length

theorem isFirst_of_search? {hit : Hit} (h : search? (pattern names) source = some hit) :
    IsFirst names source (ofText hit.start hit.text) := by
  obtain ⟨rfl, htext, -, hclear⟩ := search?_spec (open_pattern names) h
  refine ⟨spells_pattern_iff.1 htext, ⟨_, _, rfl, rfl⟩, Text.slice_middle .., ?_⟩
  intro x t y hs ht
  exact Int.ofNat_le.2 (hclear.length_le (spells_pattern_iff.2 ht) hs)

theorem locate_eq_error_iff : locate names source = .error .anchorMissing ↔
    ∀ t, IsReturn names t → ¬ t <:+: source := by
  have hnone := search?_eq_none_iff_forall (s := source) (open_pattern names)
  simp only [spells_pattern_iff] at hnone
  rw [← hnone, locate]
  cases search? (pattern names) source with
  | none => simp
  | some hit => simp

theorem exists_isFirst (h : ∃ t, IsReturn names t ∧ t <:+: source) :
    ∃ anchor, locate names source = .ok anchor ∧ IsFirst names source anchor := by
  simp only [← spells_pattern_iff] at h
  obtain ⟨hit, hhit⟩ :=
    Option.isSome_iff_exists.1 ((search?_isSome_iff_exists (open_pattern names)).2 h)
  exact ⟨_, by rw [locate, hhit], isFirst_of_search? hhit⟩

/-- **An anchor is missing exactly when no part of the source is a return statement of these
fields**, and when one is, the first of them is the anchor. -/
theorem locate_spec (names : List Text) (source : Text) :
    (locate names source = .error .anchorMissing ↔ ∀ t, IsReturn names t → ¬ t <:+: source) ∧
      ((∃ t, IsReturn names t ∧ t <:+: source) →
        ∃ anchor, locate names source = .ok anchor ∧ IsFirst names source anchor) :=
  ⟨locate_eq_error_iff, exists_isFirst⟩

/-- Fields of which the first starts with a blank, the second is empty and the third **looks like
the end** of an object. -/
def sampleFields : List Text := [[' ', 'x'], [], ['}', ' ']]

/-- Their return statement, in which the name of the first field takes one of **two blanks**. -/
def sampleReturn : Text := "return \x7b  x:a , :b,\t\x7d :c\x7d".toList

theorem isReturn_sampleReturn : IsReturn sampleFields sampleReturn :=
  have hcolon : IsSpaced [':'] [':'] := ⟨[], [], by decide, by decide, rfl⟩
  have hx : IsMember [' ', 'x'] " x:a".toList := ⟨[':'], ['a'], hcolon, by decide, rfl⟩
  have hempty : IsMember [] ":b".toList := ⟨[':'], ['b'], hcolon, by decide, rfl⟩
  have hbrace : IsMember ['}', ' '] "\x7d :c".toList := ⟨[':'], ['c'], hcolon, by decide, rfl⟩
  have hcomma : IsSpaced [','] " , ".toList := ⟨[' '], [' '], by decide, by decide, rfl⟩
  have hcomma' : IsSpaced [','] ",\t".toList := ⟨[], ['\t'], by decide, by decide, rfl⟩
  ⟨" \x7b ".toList, _, [], ⟨[' '], [' '], by decide, by decide, rfl⟩,
    .more hx hcomma (.more hempty hcomma' (.last hbrace)), by decide, rfl⟩

theorem locate_spec_sample :
    locate sampleFields ("return;".toList ++ sampleReturn) = .ok (ofText 7 sampleReturn) ∧
      IsFirst sampleFields ("return;".toList ++ sampleReturn) (ofText 7 sampleReturn) := by
  have hlocate : locate sampleFields ("return;".toList ++ sampleReturn) =
      .ok (ofText 7 sampleReturn) := by decide +kernel
  obtain ⟨anchor, hanchor, hfirst⟩ :=
    (locate_spec sampleFields ("return;".toList ++ sampleReturn)).2
      ⟨_, isReturn_sampleReturn, (List.suffix_append _ _).isInfix⟩
  obtain rfl := Except.ok.inj (hlocate.symm.trans hanchor)
  exact ⟨hlocate, hfirst⟩

/-! ## All return statements -/

/-- The places of a source at which a return statement of these fields **begins**. -/
def places (names : List Text) (source : Text) : Set ℕ :=
  {i | ∃ x t, i = x.length ∧ IsReturn names t ∧ x ++ t <+: source}

theorem mem_places_iff {i : ℕ} :
    i ∈ places names source ↔ i < source.length ∧ (pattern names).Begins (source.drop i) := by
  constructor
  · rintro ⟨x, t, rfl, ht, y, rfl⟩
    have hpos : 0 < t.length := by
      obtain ⟨brace, inside, b, -, -, -, rfl⟩ := ht
      simp
    refine ⟨?_, t, spells_pattern_iff.2 ht, ?_⟩
    · simp only [List.length_append]
      omega
    · simp
  · rintro ⟨hi, t, ht, hpre⟩
    refine ⟨source.take i, t, ?_, spells_pattern_iff.1 ht, ?_⟩
    · rw [List.length_take]
      omega
    · obtain ⟨y, hy⟩ := hpre
      exact ⟨y, by rw [List.append_assoc, hy, List.take_append_drop]⟩

/-- There are as many places as the pattern has **beginnings**. -/
theorem ncard_places : (places names source).ncard = beginnings (pattern names) source [] := by
  classical
  have hplaces : places names source =
      {i ∈ Finset.range source.length | (pattern names).Begins (source.drop i)} := by
    ext i
    simp [mem_places_iff]
  rw [hplaces, Set.ncard_coe_finset, beginnings_eq_count (open_pattern names),
    Nat.count_eq_card_filter_range, List.append_nil]

/-- The survey is the search **with a number in addition**. -/
theorem map_survey (names : List Text) (source : Text) :
    (survey names source).map Prod.fst = locate names source := by
  rw [survey_eq_map]
  cases locate names source <;> rfl

/-- Return statements of these fields **stand apart** in a source: the start of one tells its end,
and of two that start at different places the one in front ends before the other starts. -/
structure StandApart (names : List Text) (source : Text) : Prop where
  unique : ∀ x t t', IsReturn names t → IsReturn names t' → x ++ t <+: source →
    x ++ t' <+: source → t = t'
  disjoint : ∀ x t x' t', IsReturn names t → IsReturn names t' → x ++ t <+: source →
    x' ++ t' <+: source → x.length < x'.length → (x ++ t).length ≤ x'.length

/-- The usual fields hold **no brace and no word `return`**, so their statements stand apart. -/
theorem standApart_fields (source : Text) : StandApart fields source := by
  constructor
  case unique =>
    intro x t t' ht ht' hx hx'
    obtain ⟨y, rfl⟩ := hx
    rw [List.append_assoc, List.prefix_append_right_inj] at hx'
    exact IsAnchor.unique (spells_pattern_iff.2 ht) (spells_pattern_iff.2 ht')
      (List.prefix_append t y) hx'
  case disjoint =>
    intro x t x' t' ht ht' hx hx' hlt
    rw [← spells_pattern_iff] at ht ht'
    obtain ⟨d, t, rfl⟩ := List.exists_cons_of_ne_nil (IsAnchor.ne_nil ht)
    -- the other one starts behind the first letter of this one, where no anchor starts
    have hfront : x ++ [d] <+: x' := by
      refine List.prefix_of_prefix_length_le ?_ ((List.prefix_append x' t').trans hx') ?_
      · exact (List.prefix_append (x ++ [d]) t).trans (by simpa using hx)
      · simpa using hlt
    obtain ⟨z, rfl⟩ := hfront
    obtain ⟨y, rfl⟩ := hx
    obtain ⟨y', hy'⟩ := hx'
    have hle := (IsAnchor.clear ht y).length_le (x := z) (y := y') ht' (by simpa using hy'.symm)
    simp only [List.length_append, List.length_cons, List.length_nil]
    omega

/-- **The survey of a source fails as the search does and finds the same anchor**, for any fields;
for the usual ones, of which the return statements stand apart, its number is that of the places at
which one begins. -/
theorem survey_spec (names : List Text) (source : Text) :
    (survey names source = .error .anchorMissing ↔ locate names source = .error .anchorMissing) ∧
      (survey names source).map Prod.fst = locate names source ∧
      StandApart fields source ∧
      ∀ anchor total, survey fields source = .ok (anchor, total) →
        total = (places fields source).ncard := by
  refine ⟨?_, map_survey names source, standApart_fields source, fun anchor total h => ?_⟩
  · rw [survey_eq_map]
    cases locate names source <;> simp [Except.map]
  · obtain ⟨-, htotal⟩ := survey_eq_ok_iff_locate.1 h
    rw [htotal, length_scan, ncard_places]

/-- A return statement of the usual fields, with blanks here and there. -/
def sampleUsual : Text :=
  ("return \x7binitialize:a,shutdown:b,getServerForFile:c,ensureServerStarted:d,sendRequest:e," ++
    "getAllServers:f , openFile:g,changeFile:h,saveFile:return,closeFile:j,isFileOpen:k\x7d").toList

theorem survey_spec_sample :
    survey fields ("return\x7b".toList ++ (sampleUsual ++ sampleUsual)) =
        .ok (ofText 7 sampleUsual, 2) ∧
      2 = (places fields ("return\x7b".toList ++ (sampleUsual ++ sampleUsual))).ncard := by
  have hsurvey : survey fields ("return\x7b".toList ++ (sampleUsual ++ sampleUsual)) =
      .ok (ofText 7 sampleUsual, 2) := by decide +kernel
  exact ⟨hsurvey, (survey_spec fields _).2.2.2 _ _ hsurvey⟩

end Anchor

end BundlePatch
