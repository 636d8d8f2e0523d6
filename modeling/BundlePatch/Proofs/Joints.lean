import BundlePatch.Proofs.Extent

/-!
# Proofs/Joints — what stands right before and behind a call

A patch looks at the character before a template, and sets the call apart from a name by a space.
It does not look behind the template, and before it looks at the source, not at what comes there
instead.  So a call **runs together** with a name right behind its template and with the call for a
template right beside its own, and with nothing else (`Patch.ofSource_joints`).
-/

namespace BundlePatch

open Pattern

namespace Edit

variable {path converter s t : Text} {pos : Int} {last? : Option Char} {e : Edit}
  {edits before after : List Edit}

/-! ## The space in front -/

/-- What **sets a call apart** from the character before it. -/
def gap (last? : Option Char) : Text := if last?.any isIdentifier then [' '] else []

theorem separated_eq_append (last? : Option Char) (call : Text) :
    separated last? call = gap last? ++ call := by
  rw [separated, gap]
  split <;> rfl

/-- The call **does not follow a character of a name**. -/
theorem any_getLast?_gap (last? : Option Char) :
    ((gap last?).getLast?.or last?).any isIdentifier = false := by
  rw [gap]
  split
  next => rfl
  next h => exact Bool.eq_false_iff.2 h

/-! ## The ends of a pass -/

namespace Pass

/-- A pass around one of its edits: **a pass before it and a pass behind it**. -/
theorem exists_cut (h : Pass path converter pos last? s (before ++ e :: after) t) :
    ∃ u v u' v', s = u ++ (templateText path e.file ++ v) ∧ t = u' ++ (e.new ++ v') ∧
      e = ofTemplate path converter (pos + u.length) (u.getLast?.or last?) e.file ∧
      Pass path converter pos last? u before u' ∧
      Pass path converter e.stop (some '`') v after v' := by
  generalize hedits : before ++ e :: after = edits at h
  induction h generalizing before with
  | done => simp at hedits
  | @keep pos last? c s t edits hnot h ih =>
    obtain ⟨u, v, u', v', rfl, rfl, he, hbefore, hafter⟩ := ih hedits
    refine ⟨c :: u, v, c :: u', v', rfl, rfl, ?_, keep ?_ hbefore, hafter⟩
    · rw [add_length_cons, getLast?_cons_or]
      exact he
    · rintro ⟨w, hw, hpre⟩
      exact hnot ⟨w, hw, hpre.trans (List.prefix_append (c :: u) _)⟩
  | @swap pos last? file s t edits hfile h ih =>
    cases before with
    | nil =>
      obtain ⟨rfl, rfl⟩ := List.cons.inj hedits
      exact ⟨[], s, [], t, rfl, rfl, by simp [ofTemplate], done, h⟩
    | cons d before =>
      obtain ⟨rfl, hrest⟩ := List.cons.inj hedits
      obtain ⟨u, v, u', v', rfl, rfl, he, hbefore, hafter⟩ := ih hrest
      refine ⟨templateText path file ++ u, v, _ ++ u', v', (List.append_assoc ..).symm,
        (List.append_assoc ..).symm, ?_, swap hfile hbefore, hafter⟩
      rw [add_length_append, List.getLast?_append, getLast?_templateText, Option.or_assoc]
      exact he

theorem eq_nil_of_nil (h : Pass path converter pos last? [] edits t) : edits = [] ∧ t = [] := by
  generalize hs : ([] : Text) = s at h
  cases h with
  | done => exact ⟨rfl, rfl⟩
  | keep => cases hs
  | swap => cases hs

/-- The end of a text at which **no range stops** stays. -/
theorem getLast?_eq (h : Pass path converter pos last? s edits t)
    (hne : ∀ d ∈ edits, d.stop ≠ pos + s.length) : t.getLast? = s.getLast? := by
  induction h with
  | done => rfl
  | @keep pos last? c s t edits _ _ ih =>
    rw [List.getLast?_cons, List.getLast?_cons, ih (add_length_cons pos c s ▸ hne)]
  | @swap pos last? file s t edits _ _ ih =>
    rw [add_length_append] at hne
    have hs : s ≠ [] := fun hs => hne _ List.mem_cons_self (by simp [ofTemplate, hs])
    have hlast := ih fun d hd => hne d (List.mem_cons_of_mem _ hd)
    obtain ⟨c, hc⟩ := Option.isSome_iff_exists.1 (List.getLast?_isSome.2 hs)
    rw [List.getLast?_append, List.getLast?_append, hlast, hc]
    rfl

/-- The end of a text at which **a range stops**: a call for a template. -/
theorem getLast?_of_stop (h : Pass path converter pos last? s edits t) {d : Edit}
    (hd : d ∈ edits) (hstop : d.stop = pos + s.length) :
    s.getLast? = some '`' ∧ t.getLast? = some 'f' := by
  obtain ⟨before, after, rfl⟩ := List.append_of_mem hd
  obtain ⟨u, v, u', v', rfl, rfl, he, -, hafter⟩ := h.exists_cut
  have hv : v = [] := by
    rw [he] at hstop
    simp only [ofTemplate, List.length_append] at hstop
    exact List.length_eq_zero_iff.1 (by omega)
  obtain rfl := hv
  obtain ⟨-, rfl⟩ := hafter.eq_nil_of_nil
  have hnew : d.new = gap (u.getLast?.or last?) ++ Edit.call converter path d.file :=
    (congrArg Edit.new he).trans (separated_eq_append _ _)
  constructor
  · rw [List.append_nil, List.getLast?_append, getLast?_templateText, Option.some_or]
  · rw [List.append_nil, hnew, List.getLast?_append, List.getLast?_append, getLast?_call]
    rfl

/-- The start of a text at which **no range starts** stays. -/
theorem head?_eq (h : Pass path converter pos last? s edits t)
    (hne : ∀ d ∈ edits, d.start ≠ pos) : t.head? = s.head? := by
  cases h with
  | done => rfl
  | keep => rfl
  | swap => exact absurd rfl (hne _ List.mem_cons_self)

/-- The start of a text at which **a range starts**, right behind a template: a call. -/
theorem any_head?_of_start (h : Pass path converter pos (some '`') s edits t)
    (hc : IsName converter) {d : Edit} (hd : d ∈ edits) (hstart : d.start = pos) :
    t.head?.any isIdentifier = true := by
  cases h with
  | done => cases hd
  | keep _ h =>
    have := h.turns.le_start d hd
    omega
  | @swap _ _ file s t edits hf _ =>
    obtain ⟨c, rest, rfl⟩ := List.exists_cons_of_ne_nil hc.1
    exact hc.2 c List.mem_cons_self

/-- Only an edit **before** one stops where that one starts. -/
theorem exists_stop_eq_iff (h : Pass path converter pos last? s (before ++ e :: after) t) :
    (∃ d ∈ before ++ e :: after, d.stop = e.start) ↔ ∃ d ∈ before, d.stop = e.start := by
  have hproper := h.start_lt_stop
  have hafter := (List.pairwise_cons.1 (List.pairwise_append.1 h.turns.pairwise).2.1).1
  constructor
  · intro ⟨d, hd, hstop⟩
    have hlt := hproper d hd
    have hlt' := hproper e (List.mem_append_right before List.mem_cons_self)
    obtain hd | hd := List.mem_append.1 hd
    · exact ⟨d, hd, hstop⟩
    · obtain rfl | hd := List.mem_cons.1 hd
      · omega
      · have := hafter d hd
        omega
  · intro ⟨d, hd, hstop⟩
    exact ⟨d, List.mem_append_left _ hd, hstop⟩

/-- Only an edit **behind** one starts where that one stops. -/
theorem exists_start_eq_iff (h : Pass path converter pos last? s (before ++ e :: after) t) :
    (∃ d ∈ before ++ e :: after, d.start = e.stop) ↔ ∃ d ∈ after, d.start = e.stop := by
  have hproper := h.start_lt_stop
  have hbefore := (List.pairwise_append.1 h.turns.pairwise).2.2
  constructor
  · intro ⟨d, hd, hstart⟩
    have hlt := hproper d hd
    have hlt' := hproper e (List.mem_append_right before List.mem_cons_self)
    obtain hd | hd := List.mem_append.1 hd
    · have := hbefore d hd e List.mem_cons_self
      omega
    · obtain rfl | hd := List.mem_cons.1 hd
      · omega
      · exact ⟨d, hd, hstart⟩
  · intro ⟨d, hd, hstart⟩
    exact ⟨d, List.mem_append_right _ (List.mem_cons_of_mem e hd), hstart⟩

/-- In front of a call there is a character of a name **only if a range stops there**: it is the end
of the call that came for another template. -/
theorem any_getLast?_iff (h : Pass path converter pos last? s edits t) (hs : s ≠ [])
    (lead : Text) : (lead ++ (t ++ gap (s.getLast?.or last?))).getLast?.any isIdentifier = true ↔
      ∃ d ∈ edits, d.stop = pos + s.length := by
  rw [List.getLast?_append, List.getLast?_append]
  by_cases hstop : ∃ d ∈ edits, d.stop = pos + s.length
  · obtain ⟨d, hd, hdstop⟩ := hstop
    obtain ⟨hlast, hlast'⟩ := h.getLast?_of_stop hd hdstop
    rw [hlast, hlast']
    exact iff_of_true rfl ⟨d, hd, hdstop⟩
  · obtain ⟨c, hc⟩ := Option.isSome_iff_exists.1 (List.getLast?_isSome.2 hs)
    have hlast := h.getLast?_eq fun d hd hdstop => hstop ⟨d, hd, hdstop⟩
    rw [hlast, hc, Option.some_or, Option.or_assoc, Option.some_or, any_getLast?_gap]
    exact iff_of_false Bool.false_ne_true hstop

/-- Behind a call there is a character of a name if **a range starts there**, or if there was one. -/
theorem any_head?_iff (h : Pass path converter pos (some '`') s edits t) (hc : IsName converter)
    (trail : Text) : (t ++ trail).head?.any isIdentifier = true ↔
      (∃ d ∈ edits, d.start = pos) ∨ (s ++ trail).head?.any isIdentifier = true := by
  by_cases hstart : ∃ d ∈ edits, d.start = pos
  · obtain ⟨d, hd, hdstart⟩ := hstart
    have hany := h.any_head?_of_start hc hd hdstart
    obtain ⟨c, hhead⟩ : ∃ c, t.head? = some c := by
      cases ht : t.head? with
      | none => simp [ht] at hany
      | some c => exact ⟨c, rfl⟩
    rw [hhead] at hany
    rw [List.head?_append, hhead, Option.some_or]
    exact iff_of_true hany (.inl ⟨d, hd, hdstart⟩)
  · rw [List.head?_append, List.head?_append,
      h.head?_eq fun d hd hdstart => hstart ⟨d, hd, hdstart⟩]
    exact (or_iff_right hstart).symm

end Pass

end Edit

/-! ## The joints of a call -/

namespace Patch

variable {source path converter code : Text} {context : Int} {r : Outcome} {l : Layout}
  {before after : List Edit} {e : Edit}

/-- A call **stands in the content** of an outcome, behind `x` and before `y`: it is the end of what
comes for the template, so it ends where the range does, moved by what the edits add. -/
structure Stands (path converter : Text) (r : Outcome) (before : List Edit) (e : Edit) (x y : Text) :
    Prop where
  new : Edit.call converter path e.file <:+ e.new
  content : r.content = x ++ (Edit.call converter path e.file ++ y)
  place : ((x ++ Edit.call converter path e.file).length : Int) =
    e.stop + Edit.growth (before ++ [e])

/-- The **joints of a call**: what a character of a name stands beside it for. -/
structure Joints (source path converter : Text) (r : Outcome) (before : List Edit) (e : Edit)
    (x y : Text) : Prop extends Stands path converter r before e x y where
  /-- In front, there is the call for a template right there. -/
  front : x.getLast?.any isIdentifier = true ↔ ∃ d ∈ r.edits, d.stop = e.start
  /-- Behind, there is one, or the source has a name there. -/
  back : y.head?.any isIdentifier = true ↔ (∃ d ∈ r.edits, d.start = e.stop) ∨
    (source.sliceFrom e.stop).head?.any isIdentifier = true

theorem exists_joints (hl : l.Sound) (hc : IsName converter)
    (h : Edit.Pass path converter l.lead.length none l.code (before ++ e :: after) code) :
    ∃ x y, Joints l.source path converter
      ⟨l.lead ++ (code ++ l.trail), .patched, before ++ e :: after⟩ before e x y := by
  have hsound := h.sound hl e (List.mem_append_right before List.mem_cons_self)
  have hstops := h.exists_stop_eq_iff
  have hstarts := h.exists_start_eq_iff
  obtain ⟨u, v, u', v', hcode, rfl, he, hbefore, hafter⟩ := h.exists_cut
  have hstart : e.start = l.lead.length + u.length := congrArg Edit.start he
  have hstop : e.stop = l.lead.length + u.length + (Edit.templateText path e.file).length :=
    congrArg Edit.stop he
  have hnew : e.new = Edit.gap (u.getLast?.or none) ++ Edit.call converter path e.file :=
    (congrArg Edit.new he).trans (Edit.separated_eq_append _ _)
  have hu : u ≠ [] := by
    rintro rfl
    have hlower := hsound.lower
    simp only [Layout.routine, Layout.bodyStart, List.length_nil] at hlower hstart
    omega
  refine ⟨l.lead ++ (u' ++ Edit.gap (u.getLast?.or none)), v' ++ l.trail, ?_, ?_, ?_⟩
  · constructor
    case new => exact ⟨_, hnew.symm⟩
    case content => simp [hnew]
    case place =>
      have hlength := hbefore.turns.length_eq
      have hcall := congrArg List.length hnew
      rw [List.length_append] at hcall
      rw [Edit.growth_append, Edit.growth, Edit.growth, hsound.old, hstop]
      simp only [List.length_append]
      omega
  · rw [hstops, hstart]
    exact hbefore.any_getLast?_iff hu l.lead
  · have htail : l.source.sliceFrom e.stop = v ++ l.trail := by
      rw [hstop, ← Edit.Pass.add_length_append]
      exact Layout.sliceFrom_code (by rw [hcode, List.append_assoc])
    rw [hstarts, htail]
    exact hafter.any_head?_iff hc l.trail

/-- **Every call of a patch stands apart** from what is before and behind it, but for the call that
comes for a template right beside its own, and for a name right behind that. -/
theorem ofSource_joints (h : (ofSource source context).result = .ok r) (hr : r.status = .patched) :
    ∃ anchor total f path converter,
      Anchor.survey Anchor.fields source = .ok (anchor, total) ∧
      Routine.enclosing source anchor {} = .ok f ∧ Address.path? f.code = some path ∧
      UrlImport.converter? source = some converter ∧
      ∀ before e after, r.edits = before ++ e :: after →
        ∃ x y, Joints source path converter r before e x y := by
  obtain ⟨l, hl, hfirst, rfl, hsettles⟩ := ofSource_eq_ok_iff.1 h
  cases hsettles with
  | target | unrecognized | missing | noOccurrences => cases hr
  | patched hpath hconverter hpass hne =>
    refine ⟨l.mark, l.anchors, l.routine, _, _, Layout.survey_source hl hfirst,
      Layout.enclosing_source hl, Address.path?_of_firstTemplate hpath, hconverter, ?_⟩
    intro before e after hedits
    dsimp only at hedits
    obtain rfl := hedits
    exact exists_joints hl (UrlImport.isName_of_converter? hconverter) hpass

/-- A template **right before a keyword**. -/
def fusedSource : Text :=
  sample (Edit.templateText ['p'] ['x'] ++ "in m".toList) (Edit.templateText ['k'] ['x'])

/-- The call is set apart from the keyword in front, and **runs together** with the one behind. -/
def fusedOutcome : Outcome where
  content := sample (' ' :: Edit.call ['q'] ['p'] ['x'] ++ "in m".toList)
    (Edit.templateText ['k'] ['x'])
  status := .patched
  edits := [⟨57, 81, Edit.templateText ['p'] ['x'], ' ' :: Edit.call ['q'] ['p'] ['x'], ['x']⟩]

theorem ofSource_fusedSource : (ofSource fusedSource 0).result = .ok fusedOutcome := by
  decide +kernel

/-- Its function **says `p`** for the module of paths. -/
theorem exists_path_fusedSource : ∃ anchor total f,
    Anchor.survey Anchor.fields fusedSource = .ok (anchor, total) ∧
    Routine.enclosing fusedSource anchor {} = .ok f ∧ Address.path? f.code = some ['p'] := by
  have hsteps : (do
      let found ← Anchor.survey Anchor.fields fusedSource
      let f ← Routine.enclosing fusedSource found.1 {}
      return Address.path? f.code) = .ok (some ['p']) := by decide +kernel
  obtain ⟨⟨anchor, total⟩, hsurvey, hsteps⟩ := bind_eq_ok_iff.1 hsteps
  obtain ⟨f, hf, hpath⟩ := bind_eq_ok_iff.1 hsteps
  exact ⟨anchor, total, f, hsurvey, hf, Except.ok.inj hpath⟩

theorem converter?_fusedSource : UrlImport.converter? fusedSource = some ['q'] := by
  decide +kernel

theorem ofSource_joints_sample : ∃ before e x y,
    Stands ['p'] ['q'] fusedOutcome before e x y ∧ e ∈ fusedOutcome.edits ∧
      x.getLast?.any isIdentifier = false ∧ y.head?.any isIdentifier = true := by
  obtain ⟨anchor, total, f, path, converter, hsurvey, hf, hpath, hconverter, hjoints⟩ :=
    ofSource_joints ofSource_fusedSource rfl
  obtain ⟨anchor', total', f', hsurvey', hf', hpath'⟩ := exists_path_fusedSource
  obtain ⟨rfl, rfl⟩ := Prod.mk.inj (Except.ok.inj (hsurvey.symm.trans hsurvey'))
  obtain rfl := Except.ok.inj (hf.symm.trans hf')
  obtain rfl := Option.some.inj (hpath.symm.trans hpath')
  obtain rfl := Option.some.inj (hconverter.symm.trans converter?_fusedSource)
  obtain ⟨x, y, hstands, hfront, hback⟩ := hjoints [] _ [] rfl
  refine ⟨_, _, x, y, hstands, List.mem_cons_self, ?_, hback.2 (.inr (by decide +kernel))⟩
  rw [← Bool.not_eq_true, hfront]
  decide +kernel

/-- A call can run together with **a keyword**. -/
theorem not_ofSource_apart : ¬ ∀ (source : Text) (context : Int) (r : Outcome),
    (ofSource source context).result = .ok r → r.status = .patched →
    ∀ anchor total f path converter,
      Anchor.survey Anchor.fields source = .ok (anchor, total) →
      Routine.enclosing source anchor {} = .ok f → Address.path? f.code = some path →
      UrlImport.converter? source = some converter →
      ∀ before e after x y, r.edits = before ++ e :: after →
        Stands path converter r before e x y →
        x.getLast?.any isIdentifier = false ∧ y.head?.any isIdentifier = false := by
  intro h
  have hstands : Stands ['p'] ['q'] fusedOutcome []
      ⟨57, 81, Edit.templateText ['p'] ['x'], ' ' :: Edit.call ['q'] ['p'] ['x'], ['x']⟩
      (fusedOutcome.content.take 58) (fusedOutcome.content.drop 78) :=
    ⟨List.suffix_cons _ _, by decide +kernel, by decide +kernel⟩
  obtain ⟨anchor, total, f, hsurvey, hf, hpath⟩ := exists_path_fusedSource
  obtain ⟨-, hback⟩ := h fusedSource 0 fusedOutcome ofSource_fusedSource rfl anchor total f _ _
    hsurvey hf hpath converter?_fusedSource _ _ _ _ _ rfl hstands
  have hname : (fusedOutcome.content.drop 78).head?.any isIdentifier = true := by decide +kernel
  rw [hname] at hback
  cases hback

end Patch

end BundlePatch
