import BundlePatch.Proofs.AddressText
import BundlePatch.Proofs.AnchorText
import Mathlib.Data.List.Infix

/-!
# Proofs/Rewriting — what survives when templates become calls

`Rewrites path converter s t` — some templates of `path` in `s` have become calls in `t`.  The edit
takes away a pair of braces and two backticks and brings names and parentheses, so it leaves alone
all that cannot overlap either text:

* `Rewrites.nested` — brackets pair as before.
* `Rewrites.beginnings_eq` — as many anchors start as before.
* `Rewrites.prefix_of_prefix_right` — no template comes into being.
* `Rewrites.split` — a text is rewritten part by part, when no template lies across.
-/

namespace BundlePatch

open Pattern Edit

variable {path converter file lead a b s t u v w : Text}

/-! ## The two texts -/

namespace Edit

/-- The text of a template holds **one pair of braces**. -/
theorem climb_templateText (hp : IsName path) (hf : IsName file) (d : Nat) :
    climb '{' '}' d (templateText path file) = some d := by
  have hopening : "file://$\x7b".toList = "file://$".toList ++ ['{'] := by decide
  have hclosing : ")\x7d`".toList = [')', '}', '`'] := by decide
  have hpo := hp.notMem (c := '{') (by decide)
  have hpc := hp.notMem (c := '}') (by decide)
  have hfo := hf.notMem (c := '{') (by decide)
  have hfc := hf.notMem (c := '}') (by decide)
  simp [templateText, climb, climb_append, hopening, hclosing, climb_of_notMem hpo hpc,
    climb_of_notMem hfo hfc]

/-- The text that **comes for a template**: the call, maybe with a blank in front. -/
def IsReplacement (path converter file new : Text) : Prop :=
  new = call converter path file ∨ new = ' ' :: call converter path file

theorem isReplacement_separated (last? : Option Char) :
    IsReplacement path converter file (separated last? (call converter path file)) := by
  rw [separated]
  split
  · exact Or.inr rfl
  · exact Or.inl rfl

namespace IsReplacement

variable {new : Text}

/-- A character that a call **never takes**. -/
theorem notMem (h : IsReplacement path converter file new) (hp : IsName path)
    (hc : IsName converter) (hf : IsName file) {c : Char} (hi : isIdentifier c = false)
    (hcall : c ∉ ' ' :: call [] [] []) : c ∉ new := by
  rw [List.mem_cons, not_or] at hcall
  have hnot := notMem_call (hc.notMem hi) (hp.notMem hi) (hf.notMem hi) hcall.2
  rcases h with rfl | rfl
  · exact hnot
  · exact fun hm => (List.mem_cons.1 hm).elim hcall.1 hnot

/-- A call **ends with** `.href`. -/
theorem eq_append (h : IsReplacement path converter file new) :
    ∃ x, new = x ++ '.' :: "href".toList := by
  have hhref : ")).href".toList = "))".toList ++ '.' :: "href".toList := by decide
  rcases h with rfl | rfl
  · exact ⟨converter ++ ('(' :: (path ++ (".resolve(".toList ++ (file ++ "))".toList)))), by
      rw [call_eq, hhref]; simp⟩
  · exact ⟨' ' :: (converter ++ ('(' :: (path ++ (".resolve(".toList ++
      (file ++ "))".toList))))), by rw [call_eq, hhref]; simp⟩

/-- A call holds **two closing parentheses**. -/
theorem two_le_count (h : IsReplacement path converter file new) : 2 ≤ new.count ')' := by
  have hbare : (call [] [] []).count ')' = 2 := by decide
  have hcall : 2 ≤ (call converter path file).count ')' := by
    rw [count_call, hbare]
    omega
  rcases h with rfl | rfl
  · exact hcall
  · exact hcall.trans (List.count_le_count_cons)

theorem climb_eq (h : IsReplacement path converter file new) (hp : IsName path)
    (hc : IsName converter) (hf : IsName file) (d : Nat) : climb '{' '}' d new = some d :=
  climb_of_notMem (h.notMem hp hc hf (by decide) (by decide))
    (h.notMem hp hc hf (by decide) (by decide)) d

end IsReplacement

end Edit

/-! ## Rewriting -/

/-- **Some templates have become calls.** -/
inductive Rewrites (path converter : Text) : Text → Text → Prop
  | nil : Rewrites path converter [] []
  | keep {c : Char} {s t : Text} : Rewrites path converter s t →
      Rewrites path converter (c :: s) (c :: t)
  | swap {file new s t : Text} : IsName file → IsReplacement path converter file new →
      Rewrites path converter s t →
      Rewrites path converter (templateText path file ++ s) (new ++ t)

namespace Rewrites

theorem refl (s : Text) : Rewrites path converter s s := by
  induction s with
  | nil => exact nil
  | cons c s ih => exact keep ih

theorem append (hs : Rewrites path converter s t) (hu : Rewrites path converter u v) :
    Rewrites path converter (s ++ u) (t ++ v) := by
  induction hs with
  | nil => exact hu
  | keep _ ih => exact keep ih
  | swap hf hnew _ ih =>
    rw [List.append_assoc, List.append_assoc]
    exact swap hf hnew ih

theorem single {new : Text} (hf : IsName file) (hnew : IsReplacement path converter file new) :
    Rewrites path converter (templateText path file) new := by
  have h := swap hf hnew nil
  rwa [List.append_nil, List.append_nil] at h

/-- Without a backtick there is **nothing to rewrite**. -/
theorem eq_of_notMem (h : Rewrites path converter s t) (hs : '`' ∉ s) : t = s := by
  induction h with
  | nil => rfl
  | keep _ ih => rw [ih fun hm => hs (List.mem_cons_of_mem _ hm)]
  | swap _ _ _ _ => exact absurd List.mem_cons_self hs

/-- **Brackets pair as before.** -/
theorem climb_eq (h : Rewrites path converter s t) (hp : IsName path) (hc : IsName converter)
    (d : Nat) : climb '{' '}' d t = climb '{' '}' d s := by
  induction h generalizing d with
  | nil => rfl
  | keep _ ih => simp only [climb, ih]
  | swap hf hnew _ ih =>
    rw [climb_append, climb_append, hnew.climb_eq hp hc hf, climb_templateText hp hf,
      Option.bind_some, Option.bind_some, ih]

theorem nested (h : Rewrites path converter s t) (hp : IsName path) (hc : IsName converter)
    (hs : Nested '{' '}' s) : Nested '{' '}' t := by
  rw [nested_iff_climb (by decide)] at hs ⊢
  rw [h.climb_eq hp hc, hs]

/-! ### Words that overlap neither text -/

/-- A word **without a backtick** stays where it starts. -/
theorem prefix_of_notMem (h : Rewrites path converter s t) (hw : w <+: s) (hb : '`' ∉ w) :
    w <+: t := by
  induction h generalizing w with
  | nil => exact hw
  | @keep c s t _ ih =>
    cases w with
    | nil => exact List.nil_prefix
    | cons d w =>
      obtain ⟨rfl, hw'⟩ := List.cons_prefix_cons.1 hw
      exact List.cons_prefix_cons.2 ⟨rfl, ih hw' fun hm => hb (List.mem_cons_of_mem _ hm)⟩
  | swap _ _ _ _ =>
    cases w with
    | nil => exact List.nil_prefix
    | cons d w =>
      obtain ⟨rfl, -⟩ := List.cons_prefix_cons.1 hw
      exact absurd List.mem_cons_self hb

/-- A word that **ends with a closing brace or a backtick**, with one parenthesis closed in it at
most, does not come into being. -/
theorem prefix_of_prefix_right (h : Rewrites path converter s t) (hp : IsName path)
    (hc : IsName converter) (hw : w <+: t) (hcount : w.count ')' ≤ 1)
    (hlast : ∀ c ∈ w.getLast?, c = '}' ∨ c = '`') : w <+: s := by
  induction h generalizing w with
  | nil => exact hw
  | @keep c s t _ ih =>
    cases w with
    | nil => exact List.nil_prefix
    | cons d w =>
      obtain ⟨rfl, hw'⟩ := List.cons_prefix_cons.1 hw
      refine List.cons_prefix_cons.2 ⟨rfl, ih hw' (List.count_le_count_cons.trans hcount) ?_⟩
      intro e he
      refine hlast e ?_
      rw [Option.mem_def] at he ⊢
      rw [List.getLast?_cons, he]
      rfl
  | @swap file new s t hf hnew _ ih =>
    cases hend : w.getLast? with
    | none => rw [List.getLast?_eq_none_iff.1 hend]; exact List.nil_prefix
    | some c =>
      exfalso
      rcases Text.prefix_append_cases hw with hnew' | ⟨z, rfl, -⟩
      · -- the word would end inside the call
        have hmem : c ∈ new := hnew'.subset (List.mem_of_getLast? hend)
        rcases hlast c hend with rfl | rfl
        · exact hnew.notMem hp hc hf (by decide) (by decide) hmem
        · exact hnew.notMem hp hc hf (by decide) (by decide) hmem
      · -- the word would hold the call
        have := hnew.two_le_count
        rw [List.count_append] at hcount
        omega

/-! ### Anchors -/

/-- **The same anchors begin** before and after. -/
theorem begins_iff (h : Rewrites path converter s t) (hp : IsName path) (hc : IsName converter) :
    (Anchor.pattern Anchor.fields).Begins s ↔ (Anchor.pattern Anchor.fields).Begins t := by
  constructor
  · rintro ⟨w, hw, hpre⟩
    exact ⟨w, hw, h.prefix_of_notMem hpre (IsAnchor.notMem hw (by decide) (by decide) (by decide))⟩
  · rintro ⟨w, hw, hpre⟩
    refine ⟨w, hw, h.prefix_of_prefix_right hp hc hpre ?_ ?_⟩
    · rw [List.count_eq_zero_of_not_mem (IsAnchor.notMem hw (by decide) (by decide) (by decide))]
      exact Nat.zero_le 1
    · obtain ⟨x, rfl, -⟩ := IsAnchor.eq_append hw
      intro c hlast
      rw [List.getLast?_concat, Option.mem_def, Option.some.injEq] at hlast
      exact Or.inl hlast.symm

/-- **No anchor starts in a template.** -/
theorem clear_templateText (hp : IsName path) (hf : IsName file) (rest : Text) :
    Clear (Anchor.pattern Anchor.fields) (templateText path file) rest := by
  refine clear_of_forall_suffix fun u hu hne => ?_
  rintro ⟨w, hw, hpre⟩
  rcases Text.prefix_append_cases hpre with hpre' | ⟨z, rfl, -⟩
  · -- inside the template there is no comma
    have hcomma := hu.subset (hpre'.subset (IsAnchor.comma_mem hw))
    exact notMem_templateText (hp.notMem (by decide)) (hf.notMem (by decide)) (by decide) hcomma
  · -- over its end there is a backtick
    have htick := List.mem_append_left z (backtick_mem_of_suffix hu hne)
    exact IsAnchor.notMem hw (by decide) (by decide) (by decide) htick

/-- **No anchor starts in a call.** -/
theorem clear_replacement {new : Text} (hnew : IsReplacement path converter file new)
    (hp : IsName path) (hc : IsName converter) (hf : IsName file) (rest : Text) :
    Clear (Anchor.pattern Anchor.fields) new rest := by
  refine clear_of_forall_suffix fun u hu hne => ?_
  rintro ⟨w, hw, hpre⟩
  rcases Text.prefix_append_cases hpre with hpre' | ⟨z, rfl, -⟩
  · -- inside the call there is no closing brace
    obtain ⟨x, rfl, -⟩ := IsAnchor.eq_append hw
    have hbrace := hu.subset (hpre'.subset (List.mem_append_right x (List.mem_singleton.2 rfl)))
    exact hnew.notMem hp hc hf (by decide) (by decide) hbrace
  · -- over its end there is an end of `href`, and `return` begins otherwise
    obtain ⟨x, rfl⟩ := hnew.eq_append
    have hdot : '.' ∉ u := fun hm =>
      IsAnchor.notMem hw (by decide) (by decide) (by decide) (List.mem_append_left z hm)
    have hend : u <:+ "href".toList := by
      have hrev := List.reverse_prefix.2 hu
      rw [List.reverse_append, List.reverse_cons, List.append_assoc, List.singleton_append] at hrev
      exact List.reverse_prefix.1 (Text.prefix_of_notMem hrev (by simpa using hdot))
    obtain ⟨b, inside, hcut, -⟩ := IsAnchor.cut hw
    have hstart : u <+: "return".toList := by
      refine List.prefix_of_prefix_length_le (List.prefix_append u z) ⟨_, hcut.symm⟩ ?_
      exact hend.length_le.trans (by decide)
    have hnone : ∀ u ∈ "href".toList.tails, u <+: "return".toList → u = [] := by decide
    exact hne (hnone u ((List.mem_tails _ _).2 hend) hstart)

/-- **As many anchors start** before and after. -/
theorem beginnings_eq (h : Rewrites path converter s t) (hrest : Rewrites path converter u v)
    (hp : IsName path) (hc : IsName converter) :
    beginnings (Anchor.pattern Anchor.fields) s u =
      beginnings (Anchor.pattern Anchor.fields) t v := by
  have hopen := Anchor.open_pattern Anchor.fields
  induction h with
  | nil => rfl
  | @keep c s t h ih =>
    have hhere := (keep (c := c) (h.append hrest)).begins_iff hp hc
    rw [← match?_isSome_iff_begins hopen, ← match?_isSome_iff_begins hopen] at hhere
    simp only [beginnings, ih, hhere]
  | @swap file new s t hf hnew h ih =>
    rw [beginnings_append, beginnings_append, ih,
      (beginnings_eq_zero_iff hopen).2 (clear_templateText hp hf _),
      (beginnings_eq_zero_iff hopen).2 (clear_replacement hnew hp hc hf _)]

/-! ### Part by part -/

/-- A text is **rewritten part by part**, when no template lies across the cut. -/
theorem split (h : Rewrites path converter (a ++ b) t)
    (hcut : ∀ file x z, IsName file → templateText path file = x ++ z → x ≠ [] → x <:+ a → z ≠ [] →
      ¬ z <+: b) :
    ∃ a' b', t = a' ++ b' ∧ Rewrites path converter a a' ∧ Rewrites path converter b b' := by
  generalize hs : a ++ b = s at h
  induction h generalizing a with
  | nil =>
    obtain ⟨rfl, rfl⟩ := List.append_eq_nil_iff.1 hs
    exact ⟨[], [], rfl, nil, nil⟩
  | @keep c s t h ih =>
    cases a with
    | nil =>
      obtain rfl : b = c :: s := hs
      exact ⟨[], c :: t, rfl, nil, keep h⟩
    | cons d a =>
      obtain ⟨rfl, hs'⟩ := List.cons.inj hs
      obtain ⟨a', b', rfl, ha, hb⟩ := ih (fun f x z hf hx hne hxa =>
        hcut f x z hf hx hne (hxa.trans (List.suffix_cons d a))) hs'
      exact ⟨d :: a', b', rfl, keep ha, hb⟩
  | @swap file new s t hf hnew h ih =>
    rcases List.append_eq_append_iff.1 hs with ⟨z, hz, hb⟩ | ⟨a₀, rfl, hs'⟩
    · -- the cut is in the template or at one of its ends
      by_cases ha : a = []
      · subst ha
        obtain rfl : b = templateText path file ++ s := hs
        exact ⟨[], new ++ t, rfl, nil, swap hf hnew h⟩
      · by_cases hz' : z = []
        · subst hz'
          obtain rfl : b = s := hb
          rw [List.append_nil] at hz
          exact ⟨new, t, rfl, hz ▸ single hf hnew, h⟩
        · exact absurd ⟨s, hb.symm⟩ (hcut file a z hf hz ha (List.suffix_refl a) hz')
    · obtain ⟨a', b', rfl, ha, hb⟩ := ih (fun f x z hf' hx hne hxa =>
        hcut f x z hf' hx hne (hxa.trans (List.suffix_append _ a₀))) hs'.symm
      exact ⟨new ++ a', b', (List.append_assoc ..).symm, swap hf hnew ha, hb⟩

/-- A part in front **without a backtick** stays. -/
theorem split_of_notMem (h : Rewrites path converter (a ++ b) t) (ha : '`' ∉ a) :
    ∃ b', t = a ++ b' ∧ Rewrites path converter b b' := by
  obtain ⟨a', b', rfl, haa, hb⟩ := h.split fun f x z _ hx hne hxa => by
    -- what lies in front of the cut would start with a backtick
    cases x with
    | nil => exact absurd rfl hne
    | cons d x =>
      obtain ⟨rfl, -⟩ := List.cons.inj hx
      exact absurd (hxa.subset List.mem_cons_self) ha
  exact ⟨b', by rw [haa.eq_of_notMem ha], hb⟩

/-- An **anchor** stays, and parts its surroundings. -/
theorem split_anchor (h : Rewrites path converter (a ++ (w ++ b)) t) (hp : IsName path)
    (hw : IsAnchor w) : ∃ a' b', t = a' ++ (w ++ b') ∧ Rewrites path converter a a' ∧
      Rewrites path converter b b' := by
  have htick : '`' ∉ w := hw.notMem (by decide) (by decide) (by decide)
  obtain ⟨a', wb, rfl, ha, hwb⟩ := h.split fun f x z hf hx _ _ hne hz => by
    have hsuffix : z <:+ templateText path f := ⟨x, hx.symm⟩
    rcases Text.prefix_append_cases hz with hz' | ⟨y, rfl, -⟩
    · exact htick (hz'.subset (backtick_mem_of_suffix hsuffix hne))
    · -- the template would hold the anchor, and the comma in it
      have hcomma := hsuffix.subset (List.mem_append_left y hw.comma_mem)
      exact notMem_templateText (hp.notMem (by decide)) (hf.notMem (by decide)) (by decide) hcomma
  obtain ⟨b', rfl, hb⟩ := hwb.split_of_notMem htick
  exact ⟨a', b', rfl, ha, hb⟩

/-- A part behind **without a backtick** stays. -/
theorem split_of_notMem_right (h : Rewrites path converter (a ++ b) t) (hb : '`' ∉ b) :
    ∃ a', t = a' ++ b ∧ Rewrites path converter a a' := by
  obtain ⟨a', b', rfl, ha, hbb⟩ := h.split fun f x z _ hx _ _ hne hz =>
    hb (hz.subset (backtick_mem_of_suffix ⟨x, hx.symm⟩ hne))
  exact ⟨a', by rw [hbb.eq_of_notMem hb], ha⟩

end Rewrites

end BundlePatch
