import BundlePatch.Proofs.Rewriting

/-!
# Proofs/Pass — one pass over a text, from left to right

`Edit.Pass` is the **substitution** that a patch carries out: read from left to right, each template
of the path module becomes a call, and everything else stays.  It is determined by the text
(`Pass.unique`), the plan lists its edits (`Pass.exists_planFrom`), and carrying these out gives its
result (`Turns.compose`).  So composing the plan for a function **never fails** (`compose_plan`).

`Edit.Turns` keeps of a pass only **which ranges are replaced by what**.
-/

namespace BundlePatch

open Pattern

namespace Edit

variable {path converter : Text} {pos : Int} {last? : Option Char} {s t u : Text}
  {edits : List Edit}

/-! ## One edit after the other -/

/-- What stands in a function **in the range** of an edit. -/
def standing (routine : Routine) (e : Edit) : Text :=
  routine.code.slice (e.start - routine.start) (e.stop - routine.start)

/-- An edit goes through if it **starts behind the cursor** and its old text stands there. -/
theorem splice_cons_eq_ok_iff {routine : Routine} {cursor : Int} {e : Edit} :
    splice routine cursor (e :: edits) = .ok t ↔
      cursor ≤ e.start - routine.start ∧ standing routine e = e.old ∧
        ∃ rest, splice routine (e.stop - routine.start) edits = .ok rest ∧
          t = routine.code.slice cursor (e.start - routine.start) ++ (e.new ++ rest) := by
  rw [splice]
  split
  · next h =>
    simp only [reduceCtorEq, false_iff]
    rintro ⟨hcursor, hstanding, -⟩
    exact h.elim (fun hlt => by omega) fun hne => hne hstanding
  · next h =>
    rw [not_or, not_not] at h
    rw [and_iff_right (by omega), standing, and_iff_right h.2]
    cases splice routine (e.stop - routine.start) edits with
    | error why => simp [Except.map]
    | ok rest => simp [Except.map, eq_comm]

/-! ## Ranges replaced -/

/-- A text at a position **turns into** another by edits of ranges from left to right: between the
ranges both agree. -/
inductive Turns : (pos : Int) → List Edit → Text → Text → Prop
  | done {pos : Int} {s : Text} : Turns pos [] s s
  | edit {pos : Int} {e : Edit} {edits : List Edit} {gap s t : Text} :
      e.start = pos + gap.length → e.stop = e.start + e.old.length → Turns e.stop edits s t →
      Turns pos (e :: edits) (gap ++ (e.old ++ s)) (gap ++ (e.new ++ t))

/-- **How much longer** a text gets: the sum of what each edit adds. -/
def growth : List Edit → Int
  | [] => 0
  | e :: edits => (e.new.length : Int) - e.old.length + growth edits

theorem growth_append (before after : List Edit) :
    growth (before ++ after) = growth before + growth after := by
  induction before with
  | nil => simp [growth]
  | cons d before ih =>
    rw [List.cons_append, growth, growth, ih]
    omega

namespace Turns

/-- More text **in front**. -/
theorem prepend (h : Turns pos edits s t) (u : Text) :
    Turns (pos - u.length) edits (u ++ s) (u ++ t) := by
  cases h with
  | done => exact done
  | @edit _ _ _ gap _ _ hstart hstop hrest =>
    have hgap : ((u ++ gap).length : Int) = u.length + gap.length := by simp
    rw [← List.append_assoc u gap, ← List.append_assoc u gap]
    exact edit (by omega) hstop hrest

/-- More text **behind**. -/
theorem append (h : Turns pos edits s t) (u : Text) : Turns pos edits (s ++ u) (t ++ u) := by
  induction h with
  | done => exact done
  | edit hstart hstop _ ih =>
    simp only [List.append_assoc]
    exact edit hstart hstop ih

/-- The length changes by what **each edit** adds. -/
theorem length_eq (h : Turns pos edits s t) : (t.length : Int) = s.length + growth edits := by
  induction h with
  | done => simp [growth]
  | edit _ _ _ ih =>
    simp only [List.length_append, growth]
    omega

theorem le_start (h : Turns pos edits s t) : ∀ e ∈ edits, pos ≤ e.start := by
  induction h with
  | done => simp
  | edit hstart hstop _ ih =>
    intro e he
    rcases List.mem_cons.1 he with rfl | he
    · omega
    · have := ih e he
      omega

/-- The ranges lie **one behind the other**. -/
theorem pairwise (h : Turns pos edits s t) : edits.Pairwise fun a b => a.stop ≤ b.start := by
  induction h with
  | done => exact List.Pairwise.nil
  | edit _ _ hrest ih => exact List.pairwise_cons.2 ⟨hrest.le_start, ih⟩

/-- Each range is in the text and **holds the old text** of its edit. -/
theorem range (h : Turns pos edits s t) : ∀ e ∈ edits, e.stop = e.start + e.old.length ∧
    ∃ x y, s = x ++ (e.old ++ y) ∧ e.start = pos + x.length := by
  induction h with
  | done => simp
  | @edit pos e edits gap s t hstart hstop _ ih =>
    intro d hd
    rcases List.mem_cons.1 hd with rfl | hd
    · exact ⟨hstop, gap, s, rfl, hstart⟩
    · obtain ⟨hd, x, y, hs, hx⟩ := ih d hd
      refine ⟨hd, gap ++ (e.old ++ x), y, by simp [hs], ?_⟩
      simp only [List.length_append]
      omega

/-- The result **has the new text** of each edit. -/
theorem infix_new (h : Turns pos edits s t) : ∀ e ∈ edits, e.new <:+: t := by
  induction h with
  | done => simp
  | @edit _ e edits gap s t _ _ _ ih =>
    intro d hd
    rcases List.mem_cons.1 hd with rfl | hd
    · exact ⟨gap, t, List.append_assoc ..⟩
    · exact (ih d hd).trans ⟨gap ++ e.new, [], by simp⟩

/-- In the text itself, **the old text is the part** in the range. -/
theorem slice_eq (h : Turns 0 edits s t) : ∀ e ∈ edits, s.slice e.start e.stop = e.old := by
  intro e he
  obtain ⟨hstop, x, y, rfl, hstart⟩ := h.range e he
  rw [Int.zero_add] at hstart
  rw [hstop, hstart, ← Int.natCast_add]
  exact Text.slice_middle x e.old y

/-- **Splicing the edits in** gives the text that they turn the function into. -/
theorem splice {routine : Routine} {done : Text} (h : Turns pos edits s t)
    (hcode : routine.code = done ++ s) (hpos : pos = routine.start + done.length) :
    Edit.splice routine done.length edits = .ok t := by
  induction h generalizing done with
  | done =>
    rw [Edit.splice, hcode, Text.sliceFrom_of_le (by simp), List.drop_left]
  | @edit pos e edits gap s t hstart hstop _ ih =>
    have hfirst : e.start - routine.start = ((done.length + gap.length : Nat) : Int) := by omega
    have hlast : e.stop - routine.start =
        ((done.length + gap.length + e.old.length : Nat) : Int) := by omega
    have hgap : routine.code.slice done.length (done.length + gap.length : Nat) = gap := by
      rw [hcode, Text.slice_middle]
    have hold : routine.code.slice (done.length + gap.length : Nat)
        (done.length + gap.length + e.old.length : Nat) = e.old := by
      rw [hcode, ← List.append_assoc, ← List.length_append, Text.slice_middle]
    have hrest := @ih (done ++ (gap ++ e.old)) (by rw [hcode]; simp)
      (by simp only [List.length_append]; omega)
    simp only [List.length_append, ← Nat.add_assoc] at hrest
    rw [splice_cons_eq_ok_iff, standing, hfirst, hlast, hgap]
    exact ⟨by omega, hold, t, hrest, rfl⟩

/-- The edits are in order already, so **composing** them gives that text. -/
theorem compose {routine : Routine} (h : Turns routine.start edits routine.code t) :
    Edit.compose routine edits = .ok t := by
  have hsorted : edits.Pairwise fun a b => startsBy a b = true := by
    refine h.pairwise.imp_of_mem fun {a b} ha _ hab => ?_
    have := (h.range a ha).1
    rw [startsBy, decide_eq_true_eq]
    omega
  rw [Edit.compose, List.mergeSort_of_pairwise hsorted]
  exact @splice _ _ _ _ routine [] h rfl (by simp)

end Turns

/-! ## The substitution -/

/-- The edit of a template at a position behind the character `last?`. -/
def ofTemplate (path converter : Text) (pos : Int) (last? : Option Char) (file : Text) : Edit where
  start := pos
  stop := pos + (templateText path file).length
  old := templateText path file
  new := separated last? (call converter path file)
  file := file

/-- **One pass** over a text at a position, behind the character `last?`: a template of the path
module becomes a call, a character at which none begins stays. -/
inductive Pass (path converter : Text) :
    (pos : Int) → (last? : Option Char) → Text → List Edit → Text → Prop
  | done {pos : Int} {last? : Option Char} : Pass path converter pos last? [] [] []
  | keep {pos : Int} {last? : Option Char} {c : Char} {s t : Text} {edits : List Edit} :
      ¬ (template path).Begins (c :: s) → Pass path converter (pos + 1) (some c) s edits t →
      Pass path converter pos last? (c :: s) edits (c :: t)
  | swap {pos : Int} {last? : Option Char} {file s t : Text} {edits : List Edit} : IsName file →
      Pass path converter (pos + (templateText path file).length) (some '`') s edits t →
      Pass path converter pos last? (templateText path file ++ s)
        (ofTemplate path converter pos last? file :: edits)
        (separated last? (call converter path file) ++ t)

namespace Pass

theorem not_begins_nil : ¬ (template path).Begins [] := by
  rintro ⟨t, ht, hpre⟩
  obtain ⟨f, -, rfl⟩ := spells_template_iff.1 ht
  have hnil := List.prefix_nil.1 hpre
  cases hnil

/-- A pass **turns** the text into its result. -/
theorem turns (h : Pass path converter pos last? s edits t) : Turns pos edits s t := by
  induction h with
  | done => exact .done
  | @keep pos _ c _ _ _ _ _ ih =>
    have hc := ih.prepend [c]
    simpa using hc
  | @swap pos last? file s t edits _ _ ih =>
    have hgap : (ofTemplate path converter pos last? file).start = pos + ([] : Text).length := by
      simp [ofTemplate]
    exact Turns.edit hgap rfl ih

theorem add_length_cons (pos : Int) (c : Char) (s : Text) :
    pos + ((c :: s).length : Nat) = pos + 1 + s.length := by
  simp only [List.length_cons]
  omega

theorem add_length_append (pos : Int) (u s : Text) :
    pos + ((u ++ s).length : Nat) = pos + u.length + s.length := by
  simp only [List.length_append]
  omega

/-- The last character **up to** a text, behind a character more. -/
theorem getLast?_cons_or (c : Char) (u : Text) (last? : Option Char) :
    (c :: u).getLast?.or last? = u.getLast?.or (some c) := by
  rw [List.getLast?_cons]
  cases u.getLast? <;> rfl

/-- Where no template begins **everything stays**. -/
theorem of_clear (hclear : Clear (template path) u s)
    (h : Pass path converter (pos + u.length) (u.getLast?.or last?) s edits t) :
    Pass path converter pos last? (u ++ s) edits (u ++ t) := by
  induction u generalizing pos last? with
  | nil => simpa using h
  | cons c u ih =>
    refine keep hclear.1 (ih hclear.2 ?_)
    rw [← add_length_cons, ← getLast?_cons_or c u last?]
    exact h

/-- The plan is **that of a pass**. -/
theorem exists_planFrom (path converter s : Text) (pos : Int) (last? : Option Char) :
    ∃ t, Pass path converter pos last? s
      (planFrom path converter pos last? (scan (template path) s).1) t := by
  have hp := open_template path
  refine scan_induction (motive := fun s segs _ => ∀ pos last?, ∃ t,
    Pass path converter pos last? s (planFrom path converter pos last? segs) t) hp
    (fun h => not_begins_nil ⟨[], h, List.prefix_refl _⟩) (fun s h pos last? => ?_)
    (fun s hit segs tail h ih pos last? => ?_) s pos last?
  · rw [search?_eq_none_iff_forall hp] at h
    have hclear : Clear (template path) s [] := clear_of_forall_suffix fun u hu _ => by
      rintro ⟨t, ht, hpre⟩
      rw [List.append_nil] at hpre
      exact h t ht (hpre.isInfix.trans hu.isInfix)
    have hpass := of_clear hclear (@done path converter (pos + s.length) (s.getLast?.or last?))
    rw [List.append_nil] at hpass
    exact ⟨s, hpass⟩
  · obtain ⟨hs, -, hfits, hclear⟩ := search?_spec hp h
    obtain ⟨f, hf, hparts⟩ := fits_template_iff.1 hfits
    have htext : hit.text = templateText path f := by rw [Hit.text, hparts, flatten_template]
    obtain ⟨t, ht⟩ := ih (pos + hit.before.length + (templateText path f).length) (some '`')
    rw [htext] at hs hclear
    have hpass := of_clear hclear (@swap path converter (pos + hit.before.length)
      (hit.before.getLast?.or last?) f hit.after t _ hf ht)
    have hplan : planFrom path converter pos last? (⟨hit.before, hit.parts⟩ :: segs) =
        ofTemplate path converter (pos + hit.before.length) (hit.before.getLast?.or last?) f ::
          planFrom path converter (pos + hit.before.length + (templateText path f).length)
            (some '`') segs := by
      have hlast := getLast?_templateText path f
      have hseg : (⟨hit.before, hit.parts⟩ : Segment).text = templateText path f := htext
      have hfile : (⟨hit.before, hit.parts⟩ : Segment).part 3 = f := by
        rw [Segment.part, hparts]
        rfl
      simp only [planFrom, ofTemplate, hseg, hfile, hlast]
    rw [hs, hplan]
    exact ⟨_, hpass⟩

/-- A pass is **some rewriting**. -/
theorem rewrites (h : Pass path converter pos last? s edits t) : Rewrites path converter s t := by
  induction h with
  | done => exact .nil
  | keep _ _ ih => exact .keep ih
  | swap hf _ ih => exact .swap hf (isReplacement_separated _) ih

/-- The text decides **what the pass does**. -/
theorem unique {edits' : List Edit} {t' : Text} (h : Pass path converter pos last? s edits t)
    (h' : Pass path converter pos last? s edits' t') : edits = edits' ∧ t = t' := by
  have hbegins : ∀ {f s : Text}, IsName f → (template path).Begins (templateText path f ++ s) :=
    fun hf => ⟨_, spells_template_iff.2 ⟨_, hf, rfl⟩, List.prefix_append _ _⟩
  induction h generalizing edits' t' with
  | done =>
    generalize hs : ([] : Text) = s' at h'
    cases h' with
    | done => exact ⟨rfl, rfl⟩
    | keep => cases hs
    | swap hf _ => exact absurd (hs ▸ hbegins hf) not_begins_nil
  | @keep pos last? c s t edits hnot h ih =>
    generalize hs : c :: s = s' at h'
    cases h' with
    | done => cases hs
    | keep _ h' =>
      obtain ⟨rfl, rfl⟩ := List.cons.inj hs
      obtain ⟨rfl, rfl⟩ := ih h'
      exact ⟨rfl, rfl⟩
    | swap hf _ => exact absurd (hs ▸ hbegins hf) hnot
  | @swap pos last? f s t edits hf h ih =>
    generalize hs : templateText path f ++ s = s' at h'
    cases h' with
    | done => cases hs
    | keep hnot _ => exact absurd (hs ▸ hbegins hf) hnot
    | swap hf' h' =>
      obtain ⟨rfl, rfl⟩ := templateText_cancel hf.isArgument.2 hf'.isArgument.2 hs
      obtain ⟨rfl, rfl⟩ := ih h'
      exact ⟨rfl, rfl⟩

/-- Each edit takes a **template of the path module** and puts a call there. -/
theorem mem_edits (h : Pass path converter pos last? s edits t) : ∀ e ∈ edits,
    IsName e.file ∧ e.old = templateText path e.file ∧
      IsReplacement path converter e.file e.new := by
  induction h with
  | done => simp
  | keep _ _ ih => exact ih
  | swap hf _ ih =>
    intro e he
    rcases List.mem_cons.1 he with rfl | he
    · exact ⟨hf, rfl, isReplacement_separated _⟩
    · exact ih e he

/-- No range is **empty**. -/
theorem start_lt_stop (h : Pass path converter pos last? s edits t) :
    ∀ d ∈ edits, d.start < d.stop := by
  intro d hd
  obtain ⟨hstop, -⟩ := h.turns.range d hd
  obtain ⟨-, hold, -⟩ := h.mem_edits d hd
  have hpos := length_templateText_pos path d.file
  rw [← hold] at hpos
  omega

/-- There is an edit exactly when **a template of the path module** stands in the text. -/
theorem edits_ne_nil_iff (h : Pass path converter pos last? s edits t) :
    edits ≠ [] ↔ ∃ file, IsName file ∧ templateText path file <:+: s := by
  induction h with
  | done => simp [templateText]
  | @keep pos last? c s t edits hnot h ih =>
    rw [ih]
    constructor
    · rintro ⟨f, hf, hin⟩
      exact ⟨f, hf, hin.trans (List.suffix_cons c s).isInfix⟩
    · rintro ⟨f, hf, hin⟩
      rcases List.infix_cons_iff.1 hin with hpre | hin'
      · exact absurd ⟨_, spells_template_iff.2 ⟨f, hf, rfl⟩, hpre⟩ hnot
      · exact ⟨f, hf, hin'⟩
  | @swap pos last? f s t edits hf _ _ =>
    simp only [ne_eq, reduceCtorEq, not_false_eq_true, true_iff]
    exact ⟨f, hf, (List.prefix_append _ s).isInfix⟩

/-- Each edit takes away **two backticks**. -/
theorem count_backtick (h : Pass path converter pos last? s edits t) (hp : IsName path)
    (hc : IsName converter) : s.count '`' = t.count '`' + 2 * edits.length := by
  have hcount : ∀ {f : Text}, IsName f → (templateText path f).count '`' = 2 := fun {f} hf => by
    have hbare : (templateText [] []).count '`' = 2 := by decide
    rw [count_templateText, hbare, List.count_eq_zero_of_not_mem (hp.notMem (by decide)),
      List.count_eq_zero_of_not_mem (hf.notMem (by decide))]
  induction h with
  | done => rfl
  | @keep pos last? c s t edits _ _ ih =>
    rw [List.count_cons, List.count_cons, ih]
    omega
  | @swap pos last? f s t edits hf _ ih =>
    have hnew : (separated last? (call converter path f)).count '`' = 0 :=
      List.count_eq_zero_of_not_mem
        ((isReplacement_separated last?).notMem hp hc hf (by decide) (by decide))
    rw [List.count_append, List.count_append, hcount hf, hnew, ih, List.length_cons]
    omega

/-- A template that is left **stood there before**, and was none that the pass replaces. -/
theorem infix_of_infix_right {name argument : Text} (h : Pass path converter pos last? s edits t)
    (hp : IsName path) (hc : IsName converter) (hn : IsName name) (ha : IsArgument argument)
    (hin : templateText name argument <:+: t) :
    templateText name argument <:+: s ∧ ¬ (name = path ∧ IsName argument) := by
  have hcount : (templateText name argument).count ')' ≤ 1 := by
    have hbare : (templateText [] []).count ')' = 1 := by decide
    rw [count_templateText, hbare, List.count_eq_zero_of_not_mem (hn.notMem (by decide)),
      List.count_eq_zero_of_not_mem ha.2]
  have hlast : ∀ c ∈ (templateText name argument).getLast?, c = '}' ∨ c = '`' := by
    simp [getLast?_templateText]
  induction h with
  | done => simp [templateText] at hin
  | @keep pos last? c s t edits hnot h ih =>
    rcases List.infix_cons_iff.1 hin with hpre | hin'
    · have hpre' := (Rewrites.keep h.rewrites).prefix_of_prefix_right hp hc hpre hcount hlast
      refine ⟨hpre'.isInfix, ?_⟩
      rintro ⟨rfl, hf⟩
      exact hnot ⟨_, spells_template_iff.2 ⟨_, hf, rfl⟩, hpre'⟩
    · obtain ⟨hs, hne⟩ := ih hin'
      exact ⟨hs.trans (List.suffix_cons c s).isInfix, hne⟩
  | @swap pos last? f s t edits hf h ih =>
    have htick : '`' ∉ separated last? (call converter path f) :=
      (isReplacement_separated last?).notMem hp hc hf (by decide) (by decide)
    have hrest : templateText name argument <:+: t := by
      rcases List.infix_append_iff.1 hin with hnew | ht | ⟨x, y, hxy, hx, hy⟩
      · exact absurd (hnew.subset List.mem_cons_self) htick
      · exact ht
      · cases x with
        | nil => exact hxy ▸ hy.isInfix
        | cons d x =>
          obtain ⟨rfl, -⟩ := List.cons.inj hxy
          exact absurd (hx.subset List.mem_cons_self) htick
    obtain ⟨hs, hne⟩ := ih hrest
    exact ⟨hs.trans (List.suffix_append _ s).isInfix, hne⟩

end Pass

/-! ## The plan -/

section Plan

variable {aliases : Aliases}

/-- The plan for a function is that of a pass **over its text**. -/
theorem exists_pass_plan (hpath : aliases.named? .path = some path)
    (hconverter : aliases.named? .converter = some converter) (routine : Routine) :
    ∃ code, Pass path converter routine.start none routine.code (plan routine aliases) code := by
  rw [plan, hpath, hconverter]
  exact Pass.exists_planFrom path converter routine.code routine.start none

/-- **Composing the plan never fails**: its result is that of the one pass that there is, and no
template of the path module is left in it if both names are names. -/
theorem compose_plan (hpath : aliases.path? = some path) (hne : path ≠ [])
    (hconverter : aliases.converter? = some converter) (hne' : converter ≠ [])
    (routine : Routine) : ∃ code, compose routine (plan routine aliases) = .ok code ∧
      Pass path converter routine.start none routine.code (plan routine aliases) code ∧
      (∀ edits t, Pass path converter routine.start none routine.code edits t →
        edits = plan routine aliases ∧ t = code) ∧
      (IsName path → IsName converter → ∀ file, IsName file →
        ¬ templateText path file <:+: code) := by
  have hnamed : aliases.named? .path = some path := by
    simp [Aliases.named?, Aliases.get?, hpath, hne]
  have hnamed' : aliases.named? .converter = some converter := by
    simp [Aliases.named?, Aliases.get?, hconverter, hne']
  obtain ⟨code, hpass⟩ := exists_pass_plan hnamed hnamed' routine
  refine ⟨code, hpass.turns.compose, hpass, fun edits t h => h.unique hpass, ?_⟩
  intro hp hc file hfile hin
  exact (hpass.infix_of_infix_right hp hc hp hfile.isArgument hin).2 ⟨rfl, hfile⟩

/-- A function with two templates that **share a backtick**: only the first is replaced. -/
def sampleShared : Routine where
  name := ['F']
  start := -5
  stop := 40
  bodyStart := 0
  code := templateText "$p".toList ['x'] ++ (templateText "$p".toList ['y']).tail

def sampleNames : Aliases where
  path? := some "$p".toList
  converter? := some "$q".toList

theorem compose_plan_sample :
    compose sampleShared (plan sampleShared sampleNames) =
      .ok (call "$q".toList "$p".toList ['x'] ++ (templateText "$p".toList ['y']).tail) ∧
    ∀ file, IsName file → ¬ templateText "$p".toList file <:+:
      call "$q".toList "$p".toList ['x'] ++ (templateText "$p".toList ['y']).tail := by
  have hresult : compose sampleShared (plan sampleShared sampleNames) =
      .ok (call "$q".toList "$p".toList ['x'] ++ (templateText "$p".toList ['y']).tail) := by
    decide +kernel
  obtain ⟨code, hcompose, -, -, hclear⟩ :=
    @compose_plan "$p".toList "$q".toList sampleNames rfl (by decide) rfl (by decide) sampleShared
  obtain rfl := Except.ok.inj (hcompose.symm.trans hresult)
  exact ⟨hresult, hclear ⟨by decide, by decide⟩ ⟨by decide, by decide⟩⟩

end Plan

end Edit

end BundlePatch
