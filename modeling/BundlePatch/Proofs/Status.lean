import BundlePatch.Proofs.Extent
import BundlePatch.Proofs.Innermost

/-!
# Proofs/Status — what decides how a patch ends

A patch fails in **four ways**, all of them before the text of a function is read
(`Patch.ofSource_error`).  Otherwise its status is decided by three facts about the source: which of
the two shapes occur in the function, whether an import names the converter, and whether a template
of the first module has a name as its argument (`Patch.StatusLaw`).
-/

namespace BundlePatch

open Pattern Address

variable {source : Text} {l : Layout} {r : Patch.Outcome} {context : Int} {why : Fault}

/-- A text of the language **stands in** a text. -/
def Pattern.Occurs (p : Pattern) (s : Text) : Prop := ∃ t, p.Spells t ∧ t <:+: s

namespace Address

/-- The legacy shape occurs when there is **a first template**. -/
theorem occurs_legacy_iff {code : Text} : legacy.Occurs code ↔ ∃ path, FirstTemplate code path := by
  rw [← not_iff_not, not_exists_firstTemplate_iff, Pattern.Occurs, not_exists]
  exact forall_congr' fun t => not_and

theorem FirstTemplate.occurs {code path : Text} (h : FirstTemplate code path) :
    legacy.Occurs code :=
  occurs_legacy_iff.2 ⟨path, h⟩

theorem shape_eq_target_iff_occurs {code : Text} :
    shape code = .target ↔ ¬ legacy.Occurs code ∧ target.Occurs code := by
  rw [occurs_legacy_iff, shape_eq_target_iff, Pattern.Occurs]

theorem shape_eq_unrecognized_iff {code : Text} :
    shape code = .unrecognized ↔ ¬ legacy.Occurs code ∧ ¬ target.Occurs code := by
  have hlegacy := @shape_eq_legacy_iff code
  have htarget := @shape_eq_target_iff_occurs code
  rw [← occurs_legacy_iff] at hlegacy
  cases hshape : shape code with
  | legacy => simp [hlegacy.1 hshape]
  | target => simp [(htarget.1 hshape).2]
  | unrecognized =>
    rw [hshape] at hlegacy htarget
    have hnot : ¬ legacy.Occurs code := fun h => nomatch hlegacy.2 h
    exact iff_of_true rfl ⟨hnot, fun h => nomatch htarget.2 ⟨hnot, h⟩⟩

end Address

namespace Patch

/-! ## The status -/

/-- Some template of **the first module** has a name as its argument. -/
def Replaceable (code : Text) : Prop :=
  ∃ path file, FirstTemplate code path ∧ IsName file ∧ Edit.templateText path file <:+: code

/-- **What decides the status** of a patch of a function with this text. -/
structure StatusLaw (source code : Text) (r : Outcome) : Prop where
  alreadyPatched : r.status = .alreadyPatched ↔ ¬ legacy.Occurs code ∧ target.Occurs code
  unrecognized : r.status = .unrecognized ↔ ¬ legacy.Occurs code ∧ ¬ target.Occurs code
  missingAliases : r.status = .missingAliases ↔
    legacy.Occurs code ∧ UrlImport.converter? source = none
  patched : r.status = .patched ↔
    legacy.Occurs code ∧ UrlImport.converter? source ≠ none ∧ Replaceable code
  noOccurrences : r.status = .noOccurrences ↔
    legacy.Occurs code ∧ UrlImport.converter? source ≠ none ∧ ¬ Replaceable code
  changed : r.changed = true ↔ r.content ≠ source

theorem replaceable_iff_of_firstTemplate {code path : Text} (h : FirstTemplate code path) :
    Replaceable code ↔ ∃ file, IsName file ∧ Edit.templateText path file <:+: code := by
  constructor
  · rintro ⟨path', file, hpath, hfile, hin⟩
    obtain rfl := h.unique hpath
    exact ⟨file, hfile, hin⟩
  · rintro ⟨file, hfile, hin⟩
    exact ⟨path, file, h, hfile, hin⟩

/-- Each way in which a patch ends **has its status**. -/
theorem Settles.statusLaw (h : Settles l r) : StatusLaw l.source l.code r := by
  have hcontent := h.changed_iff.trans h.content_ne_iff.symm
  cases h with
  | target hs =>
    obtain ⟨hlegacy, htarget⟩ := shape_eq_target_iff_occurs.1 hs
    exact ⟨by simp [hlegacy, htarget], by simp [htarget], by simp [hlegacy], by simp [hlegacy],
      by simp [hlegacy], hcontent⟩
  | unrecognized hs =>
    obtain ⟨hlegacy, htarget⟩ := shape_eq_unrecognized_iff.1 hs
    exact ⟨by simp [htarget], by simp [hlegacy, htarget], by simp [hlegacy], by simp [hlegacy],
      by simp [hlegacy], hcontent⟩
  | missing hp hc =>
    have hlegacy := hp.occurs
    exact ⟨by simp [hlegacy], by simp [hlegacy], by simp [hlegacy, hc], by simp [hc], by simp [hc],
      hcontent⟩
  | noOccurrences hp hc hnone =>
    have hlegacy := hp.occurs
    have hleft : ¬ Replaceable l.code := fun h =>
      have ⟨file, hfile, hin⟩ := (replaceable_iff_of_firstTemplate hp).1 h
      hnone file hfile hin
    exact ⟨by simp [hlegacy], by simp [hlegacy], by simp [hc], by simp [hleft],
      by simp [hlegacy, hc, hleft], hcontent⟩
  | patched hp hc hpass hne =>
    have hlegacy := hp.occurs
    have hleft : Replaceable l.code :=
      (replaceable_iff_of_firstTemplate hp).2 (hpass.edits_ne_nil_iff.1 hne)
    exact ⟨by simp [hlegacy], by simp [hlegacy], by simp [hc], by simp [hlegacy, hc, hleft],
      by simp [hleft], hcontent⟩

/-! ## The faults -/

/-- A patch fails where **one of the two searches** does. -/
theorem ofSource_error (h : (ofSource source context).result = .error why) :
    Anchor.survey Anchor.fields source = .error why ∨ ∃ anchor total,
      Anchor.survey Anchor.fields source = .ok (anchor, total) ∧
        Routine.enclosing source anchor {} = .error why := by
  have hsteps := h
  rw [result_ofSource, bind_eq_error_iff] at hsteps
  obtain hsurvey | ⟨⟨anchor, total⟩, hsurvey, hrest⟩ := hsteps
  · exact .inl hsurvey
  · obtain hf | ⟨f, hf, -⟩ := bind_eq_error_iff.1 hrest
    · exact .inr ⟨anchor, total, hsurvey, hf⟩
    · obtain ⟨l, hl, hfirst, rfl, -⟩ := Layout.exists_of_survey hsurvey hf
      obtain ⟨r, hr, -⟩ := exists_ofSource hl hfirst context
      rw [hr] at h
      cases h

/-- **How a patch ends, for every source.**  It fails only where there is no anchor or no function
around it; otherwise the law decides its status, and it counts as changed exactly when its content
is not the source. -/
theorem ofSource_status (source : Text) (context : Int) :
    (∀ why, (ofSource source context).result = .error why →
      why = .anchorMissing ∨ why = .closingMissing ∨ why = .openingMissing ∨
        why = .headerMissing) ∧
    ∀ r, (ofSource source context).result = .ok r → ∃ anchor total f,
      Anchor.survey Anchor.fields source = .ok (anchor, total) ∧
        Routine.enclosing source anchor {} = .ok f ∧ StatusLaw source f.code r := by
  refine ⟨fun why hwhy => ?_, fun r hr => ?_⟩
  · rcases ofSource_error hwhy with hsurvey | ⟨anchor, total, hsurvey, henclosing⟩
    · exact .inl (Anchor.survey_error hsurvey)
    · obtain ⟨x, t, y, rfl, ht, -, rfl, -⟩ := Anchor.survey_eq_ok_iff.1 hsurvey
      rcases Routine.enclosing_error ht henclosing with ⟨rfl, -⟩ | ⟨rfl | rfl, -⟩ <;> simp
  · obtain ⟨l, hl, hfirst, rfl, hsettles⟩ := ofSource_eq_ok_iff.1 hr
    exact ⟨l.mark, l.anchors, l.routine, Layout.survey_source hl hfirst, Layout.enclosing_source hl,
      hsettles.statusLaw⟩

theorem ofSource_status_sample :
    (ofSource sampleSource 0).result = .ok sampleOutcome ∧
      ∃ f : Routine, StatusLaw sampleSource f.code sampleOutcome := by
  obtain ⟨-, -, f, -, -, hlaw⟩ := (ofSource_status sampleSource 0).2 _ ofSource_sampleSource
  exact ⟨ofSource_sampleSource, f, hlaw⟩

end Patch

end BundlePatch
