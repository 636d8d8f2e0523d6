import BundlePatch.Proofs.Again

/-!
# Proofs/Surroundings — the same function in a longer source

A patch looks at a source through **three windows**: the first anchor, the function around it and
the import of the converter.  So a source in a longer one is patched as it is by itself, with its
positions moved along (`Patch.ofSource_within`), as long as its anchor stays the first one and the
converter keeps its name.  What else comes before and behind may be anything, unmatched braces and
more templates included.
-/

namespace BundlePatch

variable {path converter source s t w u : Text} {pos : Int} {last? : Option Char} {l : Layout}
  {edits : List Edit} {r : Patch.Outcome} {anchor anchor' : Anchor} {context : Int}

/-! ## Positions moved along -/

namespace Edit

/-- The same edit, **further on**. -/
def shift (k : Int) (e : Edit) : Edit := { e with start := e.start + k, stop := e.stop + k }

theorem shift_ofTemplate (k : Int) (file : Text) :
    (ofTemplate path converter pos last? file).shift k =
      ofTemplate path converter (pos + k) last? file := by
  simp only [shift, ofTemplate, mk.injEq, and_true, true_and]
  omega

/-- A pass does the same **at any position**. -/
theorem Pass.shift (h : Pass path converter pos last? s edits t) (k : Int) :
    Pass path converter (pos + k) last? s (edits.map (Edit.shift k)) t := by
  induction h with
  | done => exact done
  | keep hnot _ ih =>
    rw [Int.add_right_comm] at ih
    exact keep hnot ih
  | swap hfile _ ih =>
    rw [Int.add_right_comm] at ih
    rw [List.map_cons, shift_ofTemplate]
    exact swap hfile ih

end Edit

/-! ## The function in its surroundings -/

namespace Layout

/-- The same function **in a longer source**. -/
def within (w u : Text) (l : Layout) : Layout :=
  { l with lead := w ++ l.lead, trail := l.trail ++ u }

theorem source_within : (l.within w u).source = w ++ (l.source ++ u) := by
  simp [within, source, code, inner]

theorem front_within : (l.within w u).front = w ++ l.front := by
  simp [within, front]

theorem Sound.within (h : l.Sound) : (l.within w u).Sound :=
  ⟨h.name, h.short, h.head, h.anchor, h.tail⟩

/-- Its anchor is still **the first one** when the first one starts there. -/
theorem first_within (hanchor : Anchor.locate Anchor.fields (l.within w u).source = .ok anchor)
    (hstart : anchor.start = (l.within w u).front.length) : (l.within w u).First := by
  obtain ⟨x, t, y, hsource, -, hclear, rfl⟩ := Anchor.locate_eq_ok_iff.1 hanchor
  rw [source_eq] at hsource
  obtain ⟨hx, hrest⟩ := List.append_inj hsource (Int.ofNat.inj hstart).symm
  rwa [First, hx, hrest]

end Layout

/-! ## The patch in its surroundings -/

namespace Patch

/-- The same outcome, **in a longer source**. -/
def Outcome.within (w u : Text) (r : Outcome) : Outcome where
  content := w ++ (r.content ++ u)
  status := r.status
  edits := r.edits.map (Edit.shift w.length)

/-- A patch **ends the same way** where the converter has the same name. -/
theorem Settles.within (h : Settles l r) (hconverter :
    UrlImport.converter? (l.within w u).source = UrlImport.converter? l.source) :
    Settles (l.within w u) (r.within w u) := by
  have hsource := @Layout.source_within w u l
  cases h with
  | target hs =>
    rw [Outcome.within, ← hsource]
    exact .target hs
  | unrecognized hs =>
    rw [Outcome.within, ← hsource]
    exact .unrecognized hs
  | missing hp hc =>
    rw [Outcome.within, ← hsource]
    exact .missing hp (hconverter.trans hc)
  | noOccurrences hp hc hnone =>
    rw [Outcome.within, ← hsource]
    exact .noOccurrences hp (hconverter.trans hc) hnone
  | @patched path converter code edits hp hc hpass hne =>
    have hlead : (l.lead.length : Int) + w.length = (l.within w u).lead.length := by
      simp only [Layout.within, List.length_append]
      omega
    have hcontent : w ++ (l.lead ++ (code ++ l.trail) ++ u) =
        (l.within w u).lead ++ (code ++ (l.within w u).trail) := by simp [Layout.within]
    have hshifted := hpass.shift w.length
    rw [hlead] at hshifted
    rw [Outcome.within, hcontent]
    exact .patched hp (hconverter.trans hc) hshifted (by simpa using hne)

/-- **A patch does not depend on what surrounds the function**, but for where the first anchor is
and what the converter is called. -/
theorem ofSource_within (h : (ofSource source context).result = .ok r)
    (hanchor : Anchor.locate Anchor.fields source = .ok anchor)
    (hanchor' : Anchor.locate Anchor.fields (w ++ (source ++ u)) = .ok anchor')
    (hstart : anchor'.start = w.length + anchor.start)
    (hconverter : UrlImport.converter? (w ++ (source ++ u)) = UrlImport.converter? source)
    (context' : Int) :
    (ofSource (w ++ (source ++ u)) context').result =
      .ok ⟨w ++ (r.content ++ u), r.status, r.edits.map (Edit.shift w.length)⟩ := by
  obtain ⟨l, hl, hfirst, rfl, hsettles⟩ := ofSource_eq_ok_iff.1 h
  obtain ⟨hmark, -⟩ := Anchor.survey_eq_ok_iff_locate.1 (Layout.survey_source hl hfirst)
  obtain rfl := Except.ok.inj (hanchor.symm.trans hmark)
  rw [← Layout.source_within] at hanchor' hconverter ⊢
  have hfront : anchor'.start = (l.within w u).front.length := by
    rw [hstart, Layout.mark, ← Layout.length_front, Layout.front_within, List.length_append]
    exact (Int.natCast_add ..).symm
  exact ofSource_eq_ok_iff.2
    ⟨l.within w u, hl.within, Layout.first_within hanchor' hfront, rfl, hsettles.within hconverter⟩

/-- The sample between **braces that do not match**. -/
theorem ofSource_within_sample :
    (ofSource ("\x7d(".toList ++ (sampleSource ++ ")\x7b".toList)) 5).result =
      .ok ⟨"\x7d(".toList ++ (sampleOutcome.content ++ ")\x7b".toList), .patched,
        [⟨59, 83, Edit.templateText ['p'] ['x'], ' ' :: Edit.call ['q'] ['p'] ['x'], ['x']⟩]⟩ :=
  ofSource_within ofSource_sampleSource
    (Anchor.survey_eq_ok_iff_locate.1 survey_sampleSource).1
    (by decide +kernel : _ = Except.ok (Anchor.ofText 111 sampleAnchor))
    (by decide) (by decide +kernel) 5

end Patch

end BundlePatch
