import BundlePatch.Proofs.Extent

/-!
# Proofs/Again — a patched source, patched again

A pass leaves the layout of a source as it was, but for the two texts around the anchor
(`Layout.Rewritten`): the function that is found in the content is **the same function with its new
text** (`Patch.ofSource_again`).  What a second patch does there depends on the templates that are
left, and these name other modules (`Patch.ofSource_twice`).
-/

namespace BundlePatch

open Pattern Address Edit

variable {path converter code source : Text} {l l' : Layout} {edits : List Edit}
  {r : Patch.Outcome} {context : Int}

/-! ## The layout after a pass -/

namespace Layout

/-- The same layout, with **the texts around the anchor rewritten**. -/
structure Rewritten (path converter : Text) (l l' : Layout) : Prop where
  lead : l'.lead = l.lead
  name : l'.name = l.name
  head : Rewrites path converter l.head l'.head
  anchor : l'.anchor = l.anchor
  tail : Rewrites path converter l.tail l'.tail
  trail : l'.trail = l.trail

namespace Rewritten

/-- What stands before the anchor **is rewritten**… -/
theorem front (h : Rewritten path converter l l') : Rewrites path converter l.front l'.front := by
  rw [Layout.front, Layout.front, h.lead, h.name]
  exact (Rewrites.refl _).append ((Rewrites.refl _).append h.head.keep)

/-- …and what stands behind it. -/
theorem rear (h : Rewritten path converter l l') : Rewrites path converter l.rear l'.rear := by
  rw [Layout.rear, Layout.rear, h.trail]
  exact h.tail.append (Rewrites.refl _)

theorem behind (h : Rewritten path converter l l') :
    Rewrites path converter (l.anchor ++ l.rear) (l'.anchor ++ l'.rear) := by
  rw [h.anchor]
  exact (Rewrites.refl _).append h.rear

theorem sound (h : Rewritten path converter l l') (hp : IsName path) (hc : IsName converter)
    (hl : l.Sound) : l'.Sound where
  name := h.name ▸ hl.name
  short := h.name ▸ hl.short
  head := h.head.nested hp hc hl.head
  anchor := h.anchor ▸ hl.anchor
  tail := h.tail.nested hp hc hl.tail

theorem first (h : Rewritten path converter l l') (hp : IsName path) (hc : IsName converter)
    (hfirst : l.First) : l'.First := by
  have hopen := Anchor.open_pattern Anchor.fields
  rw [First, ← beginnings_eq_zero_iff hopen] at hfirst ⊢
  rw [← h.front.beginnings_eq h.behind hp hc, hfirst]

/-- There are **as many anchors** as before. -/
theorem anchors_eq (h : Rewritten path converter l l') (hp : IsName path) (hc : IsName converter) :
    l'.anchors = l.anchors := by
  have hsource : Rewrites path converter l.source l'.source := by
    rw [source_eq, source_eq]
    exact h.front.append h.behind
  exact (hsource.beginnings_eq Rewrites.nil hp hc).symm

end Rewritten

/-- The text of a function is rewritten **around its anchor**. -/
theorem exists_rewritten (hl : l.Sound) (hp : IsName path)
    (h : Rewrites path converter l.code code) :
    ∃ l', Rewritten path converter l l' ∧ l'.code = code := by
  have hwords := @Header.notMem_words l.name hl.name '`' (by decide) (by decide)
  have hcode : l.code =
      (Header.words l.name ++ ['{']) ++ (l.head ++ (l.anchor ++ (l.tail ++ ['}']))) := by
    simp [Layout.code, inner]
  rw [hcode] at h
  obtain ⟨b, rfl, hb⟩ := h.split_of_notMem (by simp [hwords])
  obtain ⟨head, b, rfl, hhead, hb⟩ := hb.split_anchor hp hl.anchor
  obtain ⟨tail, rfl, htail⟩ := hb.split_of_notMem_right (by decide)
  refine ⟨{ l with head := head, tail := tail }, ⟨rfl, rfl, hhead, rfl, htail, rfl⟩, ?_⟩
  simp [Layout.code, inner]

end Layout

/-! ## The function after a patch -/

namespace Patch

/-- The content of a patched source **is laid out alike**. -/
theorem exists_rewritten (hl : l.Sound) (hfirst : l.First) (hp : IsName path)
    (hc : IsName converter) (h : Pass path converter l.lead.length none l.code edits code) :
    ∃ l' : Layout, l'.Sound ∧ l'.First ∧ l'.source = l.lead ++ (code ++ l.trail) ∧
      l'.code = code ∧ l'.anchors = l.anchors ∧ l'.name = l.name ∧ l'.lead = l.lead := by
  obtain ⟨l', hl', rfl⟩ := Layout.exists_rewritten hl hp h.rewrites
  refine ⟨l', hl'.sound hp hc hl, hl'.first hp hc hfirst, ?_, rfl, hl'.anchors_eq hp hc, hl'.name,
    hl'.lead⟩
  rw [Layout.source, hl'.lead, hl'.trail]

/-- A pass that changes something **leaves a call**. -/
theorem exists_target (hp : IsName path) (hc : IsName converter)
    (h : Pass path converter l.lead.length none l.code edits code) (hne : edits ≠ []) :
    ∃ t, target.Spells t ∧ t <:+: code := by
  obtain ⟨e, edits, rfl⟩ := List.exists_cons_of_ne_nil hne
  obtain ⟨hfile, -, hnew⟩ := h.mem_edits e List.mem_cons_self
  have hin := h.turns.infix_new e List.mem_cons_self
  refine ⟨_, spells_target_call hc hp hfile, List.IsInfix.trans ?_ hin⟩
  rcases hnew with hnew | hnew
  · rw [hnew]
  · rw [hnew]
    exact (List.suffix_cons _ _).isInfix

/-- Where **all templates are of one module** and have names as arguments, a pass leaves none: one
that is left stood there before, and was none of the replaced ones. -/
theorem not_spells_of_forall (hp : IsName path) (hc : IsName converter)
    (h : Pass path converter l.lead.length none l.code edits code)
    (hall : ∀ t, legacy.Spells t → t <:+: l.code → ∃ v, IsName v ∧ t = templateText path v) :
    ∀ t, legacy.Spells t → ¬ t <:+: code := by
  intro t ht hin
  obtain ⟨n, a, hn, ha, rfl⟩ := spells_legacy_iff.1 ht
  obtain ⟨hbefore, hnot⟩ := h.infix_of_infix_right hp hc hn ha hin
  obtain ⟨v, hv, heq⟩ := hall _ ht hbefore
  have hsplit : templateText n a ++ [] = templateText path v ++ [] := by rw [heq]
  obtain ⟨rfl, rfl, -⟩ := templateText_unique hn hp ha.2 hv.isArgument.2 hsplit
  exact hnot ⟨rfl, hv⟩

/-- Where there is a call, there is nothing to do exactly when **no template** is there. -/
theorem alreadyPatched_iff_of_target (h : Settles l r)
    (htarget : ∃ t, target.Spells t ∧ t <:+: l.code) :
    r.status = .alreadyPatched ↔ ∀ t, legacy.Spells t → ¬ t <:+: l.code := by
  rw [h.status_eq_alreadyPatched_iff, shape_eq_target_iff, not_exists_firstTemplate_iff]
  exact and_iff_left htarget

/-- **What a patch leaves**: the content has as many anchors, the function around the first has the
composed text, and a second patch finds nothing to do exactly when no template is left. -/
theorem ofSource_again {anchor : Anchor} {total : Nat} {f : Routine}
    (h : (ofSource source context).result = .ok r) (hr : r.status = .patched)
    (hsurvey : Anchor.survey Anchor.fields source = .ok (anchor, total))
    (hf : Routine.enclosing source anchor {} = .ok f) (hpath : path? f.code = some path) :
    ∃ anchor' f', Anchor.survey Anchor.fields r.content = .ok (anchor', total) ∧
      Routine.enclosing r.content anchor' {} = .ok f' ∧
      f'.name = f.name ∧ f'.start = f.start ∧ f'.bodyStart = f.bodyStart ∧
      f'.stop = f.stop + growth r.edits ∧
      compose f r.edits = .ok f'.code ∧
      ∀ context', ∃ r', (ofSource r.content context').result = .ok r' ∧
        (r'.status = .alreadyPatched ↔ ∀ t, legacy.Spells t → ¬ t <:+: f'.code) ∧
        ((∀ t, legacy.Spells t → t <:+: f.code → ∃ v, IsName v ∧ t = templateText path v) →
          r'.status = .alreadyPatched) := by
  obtain ⟨l, hl, hfirst, rfl, rfl, rfl, hsettles⟩ := exists_settles h hsurvey hf
  cases hsettles with
  | target | unrecognized | missing | noOccurrences => cases hr
  | @patched p converter code edits hp hc hpass hne =>
    obtain rfl : p = path := Option.some.inj ((path?_of_firstTemplate hp).symm.trans hpath)
    have hconverter := UrlImport.isName_of_converter? hc
    obtain ⟨l', hl', hfirst', hsource, rfl, hanchors, hname, hlead⟩ :=
      exists_rewritten hl hfirst hp.isName hconverter hpass
    have hlength := hpass.turns.length_eq
    rw [← hsource, ← hanchors]
    refine ⟨l'.mark, l'.routine, Layout.survey_source hl' hfirst', Layout.enclosing_source hl',
      hname, ?_, ?_, ?_, hpass.turns.compose, fun context' => ?_⟩
    · simp only [Layout.routine, hlead]
    · simp only [Layout.routine, Layout.bodyStart, hlead, hname]
    · simp only [Layout.routine, hlead]
      omega
    · obtain ⟨r', hr', hsettles'⟩ := exists_ofSource hl' hfirst' context'
      have hstatus := alreadyPatched_iff_of_target hsettles'
        (exists_target hp.isName hconverter hpass hne)
      exact ⟨r', hr', hstatus, fun hall =>
        hstatus.2 (not_spells_of_forall hp.isName hconverter hpass hall)⟩

/-- The function of the sample, where it stands. -/
def sampleRoutine : Routine :=
  ⟨['F'], 36, 272, 48, sampleCode (templateText ['p'] ['x']) (templateText ['k'] ['x'])⟩

theorem survey_sampleSource :
    Anchor.survey Anchor.fields sampleSource = .ok (.ofText 109 sampleAnchor, 1) := by
  decide +kernel

theorem enclosing_sampleSource :
    Routine.enclosing sampleSource (.ofText 109 sampleAnchor) {} = .ok sampleRoutine := by
  decide +kernel

theorem path?_sampleRoutine : path? sampleRoutine.code = some ['p'] := by decide +kernel

theorem ofSource_again_sample : ∃ anchor f,
    Anchor.survey Anchor.fields sampleOutcome.content = .ok (anchor, 1) ∧
      Routine.enclosing sampleOutcome.content anchor {} = .ok f ∧ f.bodyStart = 48 ∧
      compose sampleRoutine sampleOutcome.edits = .ok f.code := by
  obtain ⟨anchor, f, hsurvey, hf, -, -, hbody, -, hcompose, -⟩ :=
    ofSource_again ofSource_sampleSource rfl survey_sampleSource enclosing_sampleSource
      path?_sampleRoutine
  exact ⟨anchor, f, hsurvey, hf, hbody, hcompose⟩

/-- A second patch **starts from a layout** as well.  When the first changed something, what is left
stood there before and names another module. -/
theorem Settles.exists_next (h : Settles l r) (hl : l.Sound) (hfirst : l.First) :
    ∃ l' : Layout, l'.Sound ∧ l'.First ∧ l'.source = r.content ∧
      (r.status ≠ .patched → l' = l) ∧
      (r.status = .patched → ∀ q v, IsName q → IsName v → templateText q v <:+: l'.code →
        templateText q v <:+: l.code ∧ path? l.code ≠ some q) := by
  by_cases hr : r.status = .patched
  · cases h with
    | target | unrecognized | missing | noOccurrences => cases hr
    | @patched p c code edits hp hc hpass hne =>
      have hconverter := UrlImport.isName_of_converter? hc
      obtain ⟨l', hl', hfirst', hsource, rfl, -⟩ :=
        exists_rewritten hl hfirst hp.isName hconverter hpass
      refine ⟨l', hl', hfirst', hsource, fun hnot => absurd rfl hnot, fun _ q v hq hv hin => ?_⟩
      obtain ⟨hbefore, hnot⟩ := hpass.infix_of_infix_right hp.isName hconverter hq hv.isArgument hin
      refine ⟨hbefore, fun hpath => hnot ⟨?_, hv⟩⟩
      exact Option.some.inj (hpath.symm.trans (path?_of_firstTemplate hp))
  · exact ⟨l, hl, hfirst, (h.content_eq hr).symm, fun _ => rfl, fun hpatched => absurd hpatched hr⟩

/-- **A second patch** always ends as well.  It changes the content exactly when the first did and a
template of the module that is now the first has a name as its argument; that module is another one
than before. -/
theorem ofSource_twice {anchor : Anchor} {total : Nat} {f : Routine}
    (h : (ofSource source context).result = .ok r)
    (hsurvey : Anchor.survey Anchor.fields source = .ok (anchor, total))
    (hf : Routine.enclosing source anchor {} = .ok f) (context' : Int) :
    ∃ anchor' total' f' r', Anchor.survey Anchor.fields r.content = .ok (anchor', total') ∧
      Routine.enclosing r.content anchor' {} = .ok f' ∧
      (ofSource r.content context').result = .ok r' ∧
      (r'.content ≠ r.content ↔ r.status = .patched ∧
        (UrlImport.converter? r.content).isSome ∧
        ∃ q v, FirstTemplate f'.code q ∧ IsName v ∧ templateText q v <:+: f'.code) ∧
      (r'.content ≠ r.content → path? f'.code ≠ path? f.code) ∧
      ((∀ n a, IsName n → IsArgument a → templateText n a <:+: f.code → path? f.code = some n) →
        r'.content = r.content) := by
  obtain ⟨l, hl, hfirst, rfl, -, rfl, hsettles⟩ := exists_settles h hsurvey hf
  obtain ⟨l', hl', hfirst', hsource, hsame, hleft⟩ := hsettles.exists_next hl hfirst
  obtain ⟨r', hr', hsettles'⟩ := exists_ofSource hl' hfirst' context'
  rw [← hsource]
  have hagain : r'.content ≠ l'.source ↔ r.status = .patched ∧
      (UrlImport.converter? l'.source).isSome ∧
      ∃ q v, FirstTemplate l'.code q ∧ IsName v ∧ templateText q v <:+: l'.code := by
    rw [hsettles'.content_ne_iff, hsettles'.status_eq_patched_iff, iff_and_self]
    refine fun hdo => by_contra fun hr => ?_
    obtain rfl := hsame hr
    exact hr (hsettles.status_eq_patched_iff.2 hdo)
  refine ⟨l'.mark, l'.anchors, l'.routine, r', Layout.survey_source hl' hfirst',
    Layout.enclosing_source hl', hr', hagain, fun hne => ?_, fun hone => by_contra fun hne => ?_⟩
  · obtain ⟨hr, -, q, v, hq, hv, hin⟩ := hagain.1 hne
    intro hpath
    exact (hleft hr q v hq.isName hv hin).2 (hpath.symm.trans (path?_of_firstTemplate hq))
  · obtain ⟨hr, -, q, v, hq, hv, hin⟩ := hagain.1 hne
    obtain ⟨hbefore, hother⟩ := hleft hr q v hq.isName hv hin
    exact hother (hone q v hq.isName hv.isArgument hbefore)

/-- What becomes of the sample **the second time**: now the other module counts. -/
def sampleNext : Outcome where
  content := sample (' ' :: call ['q'] ['p'] ['x']) (call ['q'] ['k'] ['x'])
  status := .patched
  edits := [⟨81, 105, templateText ['k'] ['x'], call ['q'] ['k'] ['x'], ['x']⟩]

theorem ofSource_sampleOutcome : (ofSource sampleOutcome.content 0).result = .ok sampleNext := by
  decide +kernel

theorem content_sampleNext : sampleNext.content ≠ sampleOutcome.content := by decide +kernel

theorem ofSource_twice_sample : ∃ anchor total f,
    Anchor.survey Anchor.fields sampleOutcome.content = .ok (anchor, total) ∧
      Routine.enclosing sampleOutcome.content anchor {} = .ok f ∧ path? f.code ≠ some ['p'] := by
  obtain ⟨anchor, total, f, r, hsurvey, hf, hr, -, hother, -⟩ :=
    ofSource_twice ofSource_sampleSource survey_sampleSource enclosing_sampleSource 0
  obtain rfl := Except.ok.inj (hr.symm.trans ofSource_sampleOutcome)
  exact ⟨anchor, total, f, hsurvey, hf, path?_sampleRoutine ▸ hother content_sampleNext⟩

/-- **One patch is not enough** for templates of two modules. -/
theorem not_ofSource_idempotent : ¬ ∀ (source : Text) (context : Int) (r : Outcome),
    (ofSource source context).result = .ok r →
      ∃ r', (ofSource r.content context).result = .ok r' ∧ r'.content = r.content := by
  intro h
  obtain ⟨r, hr, hcontent⟩ := h sampleSource 0 sampleOutcome ofSource_sampleSource
  obtain rfl := Except.ok.inj (hr.symm.trans ofSource_sampleOutcome)
  exact content_sampleNext hcontent

end Patch

end BundlePatch
