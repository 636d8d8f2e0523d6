import BundlePatch.Proofs.Outcome

/-!
# Proofs/Extent — what a patch changes

A patch that changes anything puts calls for templates **inside the body of one function**
(`Edit.Sound`), in ranges that lie apart, and leaves the rest of the source as it was
(`Patch.Surgical`).
-/

namespace BundlePatch

open Pattern

variable {path converter code source : Text} {l : Layout} {edits : List Edit} {r : Patch.Outcome}
  {context : Int}

/-! ## Edits -/

/-- An edit that puts **a call for a template in the body** of a function of a source. -/
structure Edit.Sound (source : Text) (f : Routine) (path converter : Text) (e : Edit) : Prop where
  /-- The range starts behind the opening brace. -/
  lower : f.bodyStart < e.start
  /-- The range is not empty. -/
  proper : e.start < e.stop
  /-- The range stops before the closing brace. -/
  upper : e.stop < f.stop
  /-- The old text is what stands in the range. -/
  stands : source.slice e.start e.stop = e.old
  file : IsName e.file
  old : e.old = templateText path e.file
  new : IsReplacement path converter e.file e.new

namespace Edit

namespace Pass

/-- A pass over the text of a function is one **over the source**. -/
theorem turns_source (h : Pass path converter l.lead.length none l.code edits code) :
    Turns 0 edits l.source (l.lead ++ (code ++ l.trail)) := by
  have hturns := (h.turns.append l.trail).prepend l.lead
  rwa [Int.sub_self] at hturns

/-- A template of a function stands **between the braces**: neither the header nor the closing brace
has a backtick. -/
theorem sound (hl : l.Sound) (h : Pass path converter l.lead.length none l.code edits code) :
    ∀ e ∈ edits, e.Sound l.source l.routine path converter := by
  intro e he
  obtain ⟨hfile, hold, hnew⟩ := h.mem_edits e he
  obtain ⟨hstop, x, y, hcode, hstart⟩ := h.turns.range e he
  have hlength := congrArg List.length hcode
  simp only [List.length_append] at hlength
  have hlower : (Header.words l.name ++ ['{']).length ≤ x.length := by
    have hheader : Header.words l.name ++ ['{'] <+: x ++ (e.old ++ y) := by
      rw [← hcode]
      exact ⟨l.inner ++ ['}'], by simp [Layout.code]⟩
    rw [hold, templateText] at hheader
    refine (Text.prefix_of_notMem hheader ?_).length_le
    have hwords := @Header.notMem_words l.name hl.name '`' (by decide) (by decide)
    simp [hwords]
  have hupper : y ≠ [] := by
    rintro rfl
    obtain ⟨w, hw, -⟩ := templateText_eq_append path e.file
    have hend : (Header.words l.name ++ '{' :: l.inner) ++ ['}'] = (x ++ w) ++ ['`'] := by
      rw [List.append_nil, hold, hw] at hcode
      simpa [Layout.code] using hcode
    exact absurd (List.append_inj' hend rfl).2 (by decide)
  have hy := List.length_pos_iff.2 hupper
  rw [List.length_append, List.length_singleton] at hlower
  refine ⟨?_, h.start_lt_stop e he, ?_, h.turns_source.slice_eq e he, hfile, hold, hnew⟩
  · simp only [Layout.routine, Layout.bodyStart]
    omega
  · simp only [Layout.routine]
    omega

end Pass

end Edit

/-! ## Outcomes -/

namespace Patch

/-- An outcome that **puts calls for templates in the body of a function** and keeps the rest. -/
structure Surgical (source : Text) (f : Routine) (path converter : Text) (r : Outcome) : Prop where
  edits_ne_nil : r.edits ≠ []
  /-- The ranges come in order and lie apart. -/
  apart : r.edits.Pairwise fun a b => a.start < b.start ∧ a.stop ≤ b.start
  sound : ∀ e ∈ r.edits, e.Sound source f path converter
  /-- The content is the source with each range replaced. -/
  turns : Edit.Turns 0 r.edits source r.content
  /-- What stands before and behind the function is kept. -/
  kept : ∃ code, r.content = source.sliceTo f.start ++ (code ++ source.sliceFrom f.stop)

theorem surgical_of_pass (hl : l.Sound) (hne : edits ≠ [])
    (h : Edit.Pass path converter l.lead.length none l.code edits code) :
    Surgical l.source l.routine path converter ⟨l.lead ++ (code ++ l.trail), .patched, edits⟩ where
  edits_ne_nil := hne
  apart := h.turns.pairwise.imp_of_mem fun {a b} ha _ hab => by
    have := (h.sound hl a ha).proper
    exact ⟨by omega, hab⟩
  sound := h.sound hl
  turns := h.turns_source
  kept := ⟨code, by rw [Layout.sliceTo_start, Layout.sliceFrom_stop]⟩

/-- **A patch is surgical**: either nothing changes, or only templates in the body of the function
around the first anchor do. -/
theorem ofSource_surgical (h : (ofSource source context).result = .ok r) :
    (r.status ≠ .patched ∧ r.edits = [] ∧ r.content = source) ∨
      (r.status = .patched ∧ ∃ anchor total f path converter,
        Anchor.survey Anchor.fields source = .ok (anchor, total) ∧
        Routine.enclosing source anchor {} = .ok f ∧ Address.path? f.code = some path ∧
        UrlImport.converter? source = some converter ∧ Surgical source f path converter r) := by
  obtain ⟨l, hl, hfirst, rfl, hsettles⟩ := ofSource_eq_ok_iff.1 h
  cases hsettles with
  | target | unrecognized | missing | noOccurrences => exact Or.inl ⟨by simp, rfl, rfl⟩
  | patched hpath hconverter hpass hne =>
    exact Or.inr ⟨rfl, l.mark, l.anchors, l.routine, _, _, Layout.survey_source hl hfirst,
      Layout.enclosing_source hl, Address.path?_of_firstTemplate hpath, hconverter,
      surgical_of_pass hl hne hpass⟩

/-- An anchor. -/
def sampleAnchor : Text :=
  ("return\x7binitialize:a,shutdown:b,getServerForFile:c,ensureServerStarted:d,sendRequest:e," ++
    "getAllServers:f,openFile:g,changeFile:h,saveFile:i,closeFile:j,isFileOpen:k\x7d").toList

/-- A function that makes **two addresses**, the first behind a keyword. -/
def sampleCode (a b : Text) : Text :=
  "function F()\x7ba=typeof".toList ++
    (a ++ (",b=".toList ++ (b ++ ';' :: (sampleAnchor ++ ['}']))))

/-- A source with that function. -/
def sample (a b : Text) : Text :=
  "import\x7bpathToFileURL as q\x7dfrom\"url\";".toList ++ (sampleCode a b ++ "F()".toList)

/-- Templates of **two modules**. -/
def sampleSource : Text := sample (Edit.templateText ['p'] ['x']) (Edit.templateText ['k'] ['x'])

/-- What becomes of them: the first module counts, and the call is set apart from the keyword. -/
def sampleOutcome : Outcome where
  content := sample (' ' :: Edit.call ['q'] ['p'] ['x']) (Edit.templateText ['k'] ['x'])
  status := .patched
  edits := [⟨57, 81, Edit.templateText ['p'] ['x'], ' ' :: Edit.call ['q'] ['p'] ['x'], ['x']⟩]

theorem ofSource_sampleSource : (ofSource sampleSource 0).result = .ok sampleOutcome := by
  decide +kernel

theorem surgical_sample : (ofSource sampleSource 0).result = .ok sampleOutcome ∧
    ∃ f path converter, Surgical sampleSource f path converter sampleOutcome := by
  refine ⟨ofSource_sampleSource, ?_⟩
  rcases ofSource_surgical ofSource_sampleSource with
    ⟨hne, -⟩ | ⟨-, -, -, f, path, converter, -, -, -, -, hr⟩
  · exact absurd rfl hne
  · exact ⟨f, path, converter, hr⟩

end Patch

end BundlePatch
