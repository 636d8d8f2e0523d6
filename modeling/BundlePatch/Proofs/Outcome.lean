import BundlePatch.Patch
import BundlePatch.Proofs.Enclosure
import BundlePatch.Proofs.LocalNames
import BundlePatch.Proofs.Pass

/-!
# Proofs/Outcome — how a patch ends

A patch of a source that is laid out around its **first anchor** always ends, in one of five ways
(`Patch.Settles`), and no other source is patched (`Patch.ofSource_eq_ok_iff`).  Only one of the
ways changes the text; it is a pass over the text of the function.
-/

namespace BundlePatch

open Pattern Address

variable {path converter source : Text} {l : Layout} {r r' : Patch.Outcome} {context : Int}

/-! ## The first anchor -/

namespace Layout

/-- What stands before the function, **by position**. -/
theorem sliceTo_start (l : Layout) : l.source.sliceTo l.routine.start = l.lead := by
  show l.source.sliceTo ((l.lead.length : Nat) : Int) = l.lead
  rw [Text.sliceTo_of_le (by simp [source]), source, List.take_left]

/-- What stands behind a part of the function that starts it, **by position**. -/
theorem sliceFrom_code {l : Layout} {u v : Text} (h : l.code = u ++ v) :
    l.source.sliceFrom ((l.lead.length : Int) + (u.length : Nat)) = v ++ l.trail := by
  have hsource : l.source = (l.lead ++ u) ++ (v ++ l.trail) := by
    simp [source, h]
  rw [← Int.natCast_add, ← List.length_append, hsource, Text.sliceFrom_of_le (by simp),
    List.drop_left]

/-- What stands behind the function, **by position**. -/
theorem sliceFrom_stop (l : Layout) : l.source.sliceFrom l.routine.stop = l.trail :=
  sliceFrom_code (List.append_nil l.code).symm

/-- No anchor starts **before the one** laid out. -/
def First (l : Layout) : Prop :=
  Clear (Anchor.pattern Anchor.fields) l.front (l.anchor ++ l.rear)

/-- The number of places at which **an anchor starts**. -/
def anchors (l : Layout) : Nat := beginnings (Anchor.pattern Anchor.fields) l.source []

theorem survey_source (h : l.Sound) (hfirst : l.First) :
    Anchor.survey Anchor.fields l.source = .ok (l.mark, l.anchors) :=
  Anchor.survey_eq_ok_iff.2 ⟨l.front, l.anchor, l.rear, l.source_eq, h.anchor, hfirst,
    by rw [mark, length_front], rfl⟩

/-- A source with a function around its first anchor **is laid out so**. -/
theorem exists_of_survey {anchor : Anchor} {total : Nat} {f : Routine}
    (hsurvey : Anchor.survey Anchor.fields source = .ok (anchor, total))
    (hf : Routine.enclosing source anchor {} = .ok f) :
    ∃ l : Layout, l.Sound ∧ l.First ∧ l.source = source ∧ l.mark = anchor ∧ l.anchors = total ∧
      l.routine = f := by
  obtain ⟨x, t, y, rfl, ht, hclear, rfl, rfl⟩ := Anchor.survey_eq_ok_iff.1 hsurvey
  obtain ⟨l, hl, hsource, rfl, rfl, rfl⟩ := exists_layout ht hf
  have hrear : l.rear = y := by
    rw [source_eq] at hsource
    exact List.append_cancel_left (List.append_cancel_left hsource)
  refine ⟨l, hl, ?_, hsource, ?_, by rw [anchors, hsource], rfl⟩
  · rw [First, hrear]
    exact hclear
  · rw [mark, ← length_front]
    rfl

end Layout

/-! ## The names -/

namespace Aliases

theorem named?_path_of_firstTemplate (h : FirstTemplate l.code path) :
    (ofRoutine source l.routine).named? .path = some path := by
  have hpath : (ofRoutine source l.routine).get? .path = some path := path?_of_firstTemplate h
  simp [named?, hpath, h.isName.1]

theorem named?_converter (source : Text) (f : Routine) :
    (ofRoutine source f).named? .converter = UrlImport.converter? source := by
  have hget : (ofRoutine source f).get? .converter = UrlImport.converter? source := rfl
  rw [named?, hget]
  cases hc : UrlImport.converter? source with
  | none => rfl
  | some c => simp [(UrlImport.isName_of_converter? hc).1]

theorem missingRoles_eq_nil_iff {a : Aliases} :
    a.missingRoles = [] ↔ (a.named? .path).isSome ∧ (a.named? .converter).isSome := by
  simp [missingRoles, Role.required, ← Option.isSome_iff_ne_none]

end Aliases

/-! ## The five ways -/

namespace Patch

/-- **How a patch ends** for a source that is laid out so. -/
inductive Settles (l : Layout) : Outcome → Prop
  /-- There are calls and no template. -/
  | target : shape l.code = .target → Settles l ⟨l.source, .alreadyPatched, []⟩
  /-- There are neither. -/
  | unrecognized : shape l.code = .unrecognized → Settles l ⟨l.source, .unrecognized, []⟩
  /-- No import names the converter. -/
  | missing {path : Text} : FirstTemplate l.code path → UrlImport.converter? l.source = none →
      Settles l ⟨l.source, .missingAliases, []⟩
  /-- No template of the path module has a name as its argument. -/
  | noOccurrences {path converter : Text} : FirstTemplate l.code path →
      UrlImport.converter? l.source = some converter →
      (∀ file, IsName file → ¬ Edit.templateText path file <:+: l.code) →
      Settles l ⟨l.source, .noOccurrences, []⟩
  /-- The templates become calls. -/
  | patched {path converter code : Text} {edits : List Edit} : FirstTemplate l.code path →
      UrlImport.converter? l.source = some converter →
      Edit.Pass path converter l.lead.length none l.code edits code → edits ≠ [] →
      Settles l ⟨l.lead ++ (code ++ l.trail), .patched, edits⟩

/-- With templates and both names, a patch is **one pass over the function**, if that finds any. -/
theorem exists_pass_apply {f : Routine} {aliases : Aliases}
    (hshape : aliases.shape = .legacy) (hpath : aliases.named? .path = some path)
    (hconverter : aliases.named? .converter = some converter) (source : Text)
    (report : Edit → List Notice) :
    ∃ code, Edit.Pass path converter f.start none f.code (Edit.plan f aliases) code ∧
      (apply source f aliases report).result =
        .ok (if Edit.plan f aliases = [] then ⟨source, .noOccurrences, []⟩
          else ⟨source.sliceTo f.start ++ (code ++ source.sliceFrom f.stop), .patched,
            Edit.plan f aliases⟩) := by
  obtain ⟨code, hpass⟩ := Edit.exists_pass_plan hpath hconverter f
  have hroles : aliases.missingRoles = [] :=
    Aliases.missingRoles_eq_nil_iff.2 (by simp [hpath, hconverter])
  have hcompose := hpass.turns.compose
  refine ⟨code, hpass, ?_⟩
  rw [apply, hshape]
  simp only [if_neg (not_not.2 hroles)]
  cases hedits : Edit.plan f aliases with
  | nil => rfl
  | cons e edits =>
    rw [hedits] at hcompose
    simp only [Spoken.result_bind, Spoken.result_say, Spoken.result_silent, Spoken.result_pure,
      hcompose, Except.bind, if_neg (List.cons_ne_nil e edits)]

/-- A patch of a function **always ends**. -/
theorem exists_apply (l : Layout) (report : Edit → List Notice) :
    ∃ r, (apply l.source l.routine (Aliases.ofRoutine l.source l.routine) report).result = .ok r ∧
      Settles l r := by
  have hshape : (Aliases.ofRoutine l.source l.routine).shape = shape l.code := rfl
  cases hcode : shape l.code with
  | target => exact ⟨_, by rw [apply, hshape, hcode]; rfl, .target hcode⟩
  | unrecognized => exact ⟨_, by rw [apply, hshape, hcode]; rfl, .unrecognized hcode⟩
  | legacy =>
    obtain ⟨path, hpath⟩ := shape_eq_legacy_iff.1 hcode
    have hnamed := @Aliases.named?_path_of_firstTemplate _ l.source l hpath
    have hconverter := Aliases.named?_converter l.source l.routine
    cases hc : UrlImport.converter? l.source with
    | none =>
      have hmissing : (Aliases.ofRoutine l.source l.routine).missingRoles ≠ [] := fun h => by
        simpa [hconverter, hc] using (Aliases.missingRoles_eq_nil_iff.1 h).2
      refine ⟨_, ?_, .missing hpath hc⟩
      rw [apply, hshape, hcode]
      simp only [if_pos hmissing]
      rfl
    | some converter =>
      obtain ⟨code, hpass, happly⟩ := exists_pass_apply (hshape.trans hcode) hnamed
        (hconverter.trans hc) l.source report
      refine ⟨_, happly, ?_⟩
      split
      · next hedits =>
        refine .noOccurrences hpath hc fun file hfile hin => ?_
        exact hpass.edits_ne_nil_iff.2 ⟨file, hfile, hin⟩ hedits
      · next hedits =>
        rw [Layout.sliceTo_start, Layout.sliceFrom_stop]
        exact .patched hpath hc hpass hedits

/-- …and **in one way only**. -/
theorem Settles.unique (h : Settles l r) (h' : Settles l r') : r = r' := by
  cases h with
  | target hs | unrecognized hs =>
    cases h' with
    | target hs' | unrecognized hs' => first | rfl | (rw [hs] at hs'; cases hs')
    | missing hp | noOccurrences hp | patched hp => rw [hp.shape_eq] at hs; cases hs
  | missing hp hc =>
    cases h' with
    | target hs | unrecognized hs => rw [hp.shape_eq] at hs; cases hs
    | missing => rfl
    | noOccurrences _ hc' | patched _ hc' => rw [hc] at hc'; cases hc'
  | noOccurrences hp hc hnone =>
    cases h' with
    | target hs | unrecognized hs => rw [hp.shape_eq] at hs; cases hs
    | missing _ hc' => rw [hc] at hc'; cases hc'
    | noOccurrences => rfl
    | patched hp' _ hpass hne =>
      obtain rfl := hp.unique hp'
      obtain ⟨file, hfile, hin⟩ := hpass.edits_ne_nil_iff.1 hne
      exact absurd hin (hnone file hfile)
  | patched hp hc hpass hne =>
    cases h' with
    | target hs | unrecognized hs => rw [hp.shape_eq] at hs; cases hs
    | missing _ hc' => rw [hc] at hc'; cases hc'
    | noOccurrences hp' _ hnone =>
      obtain rfl := hp.unique hp'
      obtain ⟨file, hfile, hin⟩ := hpass.edits_ne_nil_iff.1 hne
      exact absurd hin (hnone file hfile)
    | patched hp' hc' hpass' _ =>
      obtain rfl := hp.unique hp'
      obtain rfl := Option.some.inj (hc.symm.trans hc')
      obtain ⟨rfl, rfl⟩ := hpass.unique hpass'
      rfl

/-- Without a patch **nothing changes**. -/
theorem Settles.content_eq (h : Settles l r) (hr : r.status ≠ .patched) : r.content = l.source := by
  cases h with
  | patched => exact absurd rfl hr
  | _ => rfl

theorem Settles.status_eq_alreadyPatched_iff (h : Settles l r) :
    r.status = .alreadyPatched ↔ shape l.code = .target := by
  cases h with
  | target hs | unrecognized hs => simp [hs]
  | missing hp | noOccurrences hp | patched hp => simp [hp.shape_eq]

/-- There is something for a patch to do where **a template of the first module** has a name as its
argument. -/
theorem Settles.status_eq_patched_iff (h : Settles l r) : r.status = .patched ↔
    (UrlImport.converter? l.source).isSome ∧
      ∃ q v, FirstTemplate l.code q ∧ IsName v ∧ Edit.templateText q v <:+: l.code := by
  cases h with
  | target hs | unrecognized hs =>
    simp only [reduceCtorEq, false_iff, not_and]
    rintro - ⟨q, -, hq, -⟩
    rw [hq.shape_eq] at hs
    cases hs
  | missing hp hc => simp [hc]
  | noOccurrences hp hc hnone =>
    simp only [reduceCtorEq, false_iff, not_and]
    rintro - ⟨q, v, hq, hv, hin⟩
    obtain rfl := hp.unique hq
    exact hnone v hv hin
  | patched hp hc hpass hne =>
    obtain ⟨v, hv, hin⟩ := hpass.edits_ne_nil_iff.1 hne
    simp only [hc, Option.isSome_some, true_and, true_iff]
    exact ⟨_, v, hp, hv, hin⟩

/-- A patch takes away **two backticks for each replacement**. -/
theorem Settles.count_backtick (h : Settles l r) :
    l.source.count '`' = r.content.count '`' + 2 * r.applied := by
  cases h with
  | target | unrecognized | missing | noOccurrences => simp [Outcome.applied]
  | patched hp hc hpass _ =>
    have hcount := hpass.count_backtick hp.isName (UrlImport.isName_of_converter? hc)
    simp only [Outcome.applied, if_true, Layout.source, List.count_append]
    omega

theorem Settles.applied_pos (h : Settles l r) (hr : r.status = .patched) : 0 < r.applied := by
  cases h with
  | target | unrecognized | missing | noOccurrences => cases hr
  | patched _ _ _ hne =>
    rw [Outcome.applied, if_pos rfl]
    exact List.length_pos_iff.2 hne

theorem Settles.changed_iff (h : Settles l r) : r.changed = true ↔ r.status = .patched := by
  rw [Outcome.changed, decide_eq_true_iff]
  refine ⟨fun hpos => by_contra fun hr => ?_, h.applied_pos⟩
  rw [Outcome.applied, if_neg hr] at hpos
  exact Nat.lt_irrefl 0 hpos

/-- A patch that has something to do **changes the content**: it takes backticks away. -/
theorem Settles.content_ne_iff (h : Settles l r) : r.content ≠ l.source ↔ r.status = .patched := by
  constructor
  · exact fun hne => by_contra fun hr => hne (h.content_eq hr)
  · intro hr heq
    have hcount := h.count_backtick
    have hpos := h.applied_pos hr
    rw [heq] at hcount
    omega

/-- A patch **goes in three steps**: the anchor, the function around it, and its text. -/
theorem result_ofSource (source : Text) (context : Int) : (ofSource source context).result =
    Anchor.survey Anchor.fields source >>= fun found =>
      Routine.enclosing source found.1 {} >>= fun f =>
        (apply source f (Aliases.ofRoutine source f) fun e =>
          (e.preview source context).notices).result := by
  simp only [ofSource, Spoken.result_bind, Spoken.result_say, Spoken.result_silent,
    Spoken.result_pure]
  cases Anchor.survey Anchor.fields source with
  | error why => rfl
  | ok found =>
    simp only [bind, Except.bind]
    cases Routine.enclosing source found.1 {} with
    | error why => rfl
    | ok f =>
      dsimp only
      cases (apply source f (Aliases.ofRoutine source f) fun e =>
        (e.preview source context).notices).result with
      | error why => rfl
      | ok r => rfl

/-- A source that is laid out around its first anchor **always gives an outcome**. -/
theorem exists_ofSource (h : l.Sound) (hfirst : l.First) (context : Int) :
    ∃ r, (ofSource l.source context).result = .ok r ∧ Settles l r := by
  obtain ⟨r, happly, hr⟩ := exists_apply l fun e => (e.preview l.source context).notices
  rw [result_ofSource]
  exact ⟨r, bind_eq_ok_iff.2 ⟨_, Layout.survey_source h hfirst,
    bind_eq_ok_iff.2 ⟨_, Layout.enclosing_source h, happly⟩⟩, hr⟩

/-- An outcome, **with the function** that it is about. -/
theorem exists_settles {anchor : Anchor} {total : Nat} {f : Routine}
    (h : (ofSource source context).result = .ok r)
    (hsurvey : Anchor.survey Anchor.fields source = .ok (anchor, total))
    (hf : Routine.enclosing source anchor {} = .ok f) :
    ∃ l : Layout, l.Sound ∧ l.First ∧ l.source = source ∧ l.anchors = total ∧ l.routine = f ∧
      Settles l r := by
  obtain ⟨l, hl, hfirst, rfl, -, htotal, hroutine⟩ := Layout.exists_of_survey hsurvey hf
  obtain ⟨r', hr', hsettles⟩ := exists_ofSource hl hfirst context
  obtain rfl := Except.ok.inj (h.symm.trans hr')
  exact ⟨l, hl, hfirst, rfl, htotal, hroutine, hsettles⟩

/-- **The sources that give an outcome**, and which. -/
theorem ofSource_eq_ok_iff : (ofSource source context).result = .ok r ↔
    ∃ l : Layout, l.Sound ∧ l.First ∧ l.source = source ∧ Settles l r := by
  constructor
  · intro h
    have hsteps := h
    rw [result_ofSource] at hsteps
    obtain ⟨⟨anchor, total⟩, hsurvey, hrest⟩ := bind_eq_ok_iff.1 hsteps
    obtain ⟨f, hf, -⟩ := bind_eq_ok_iff.1 hrest
    obtain ⟨l, hl, hfirst, hsource, -, -, hsettles⟩ := exists_settles h hsurvey hf
    exact ⟨l, hl, hfirst, hsource, hsettles⟩
  · rintro ⟨l, hl, hfirst, rfl, hsettles⟩
    obtain ⟨r', hr', hsettles'⟩ := exists_ofSource hl hfirst context
    rw [hr', hsettles.unique hsettles']

theorem changed_eq_true_iff (h : (ofSource source context).result = .ok r) :
    r.changed = true ↔ r.status = .patched := by
  obtain ⟨l, -, -, -, hsettles⟩ := ofSource_eq_ok_iff.1 h
  exact hsettles.changed_iff

/-- A text that is not patched **is the source**. -/
theorem content_of_not_patched (h : (ofSource source context).result = .ok r)
    (hr : r.status ≠ .patched) : r.content = source := by
  obtain ⟨l, -, -, rfl, hsettles⟩ := ofSource_eq_ok_iff.1 h
  exact hsettles.content_eq hr

/-- The context is only **shown**: the outcome does not depend on it. -/
theorem ofSource_of_context (h : (ofSource source context).result = .ok r) (context' : Int) :
    (ofSource source context').result = .ok r :=
  ofSource_eq_ok_iff.2 (ofSource_eq_ok_iff.1 h)

end Patch

end BundlePatch
