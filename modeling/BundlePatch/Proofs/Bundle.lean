import BundlePatch.Proofs.Extent
import BundlePatch.Proofs.Imports

/-!
# Proofs/Bundle — a bundle in its usual form, and what becomes of it

    import{pathToFileURL as C}from"url"; … function F(){ … `file://${P.resolve(V)}` … return{…} … }

A `Bundle` is a source written out so, for any names and any filling.  Where the filling hides no
template and no brace (`Bundle.WellFormed`), **every template becomes a call** and nothing else
changes (`Bundle.ofSource_source`).
-/

namespace BundlePatch

open Pattern Edit

/-- The parts of a source **in its usual form**. -/
structure Bundle where
  /-- The local name of the converter. -/
  converter : Text
  /-- What stands between the import and the function. -/
  lead : Text
  name : Text
  /-- The name of the path module. -/
  path : Text
  /-- The variables that hold the files, each with the text before its template. -/
  parts : List (Text × Text)
  /-- What stands between the last template and the anchor. -/
  last : Text
  anchor : Text
  /-- What stands between the anchor and the closing brace. -/
  tail : Text
  /-- What trails behind the function. -/
  trail : Text

namespace Bundle

/-- The texts with a **template** behind each. -/
def templates (path : Text) : List (Text × Text) → Text
  | [] => []
  | (gap, file) :: parts => gap ++ (templateText path file ++ templates path parts)

/-- The texts with a **call** behind each, set apart by a blank where the character just before the
template belongs to a name.  That character is the last of the text; if there is none it is
`before`, and between two templates a backtick. -/
def calls (path converter : Text) : (before : Char) → List (Text × Text) → Text
  | _, [] => []
  | before, (gap, file) :: parts =>
    let blank := if isIdentifier (gap.getLastD before) then [' '] else []
    gap ++ (blank ++ (call converter path file ++ calls path converter '`' parts))

variable (b : Bundle)

/-- The bundle with a given text at the **start of the function**. -/
def around (inner : Text) : Text :=
  UrlImport.importText b.converter ++ ';' :: (b.lead ++ (Header.words b.name ++
    '{' :: (inner ++ (b.last ++ (b.anchor ++ (b.tail ++ '}' :: b.trail))))))

/-- The **source**, with its templates. -/
def source : Text := b.around (templates b.path b.parts)

/-- The source **with calls** for the templates. -/
def patched : Text := b.around (calls b.path b.converter '{' b.parts)

/-- What stands between the opening brace and the anchor. -/
def head : Text := templates b.path b.parts ++ b.last

/-- The source, **cut around the anchor**. -/
def layout : Layout where
  lead := UrlImport.importText b.converter ++ ';' :: b.lead
  name := b.name
  head := b.head
  anchor := b.anchor
  tail := b.tail
  trail := b.trail

/-- What the filling **must not hide**. -/
structure WellFormed : Prop where
  converter : IsName b.converter
  name : IsName b.name
  short : b.name.length ≤ 89
  path : IsName b.path
  parts : b.parts ≠ []
  files : ∀ part ∈ b.parts, IsName part.2
  /-- No backtick but those of the templates. -/
  gaps : ∀ part ∈ b.parts, '`' ∉ part.1
  last : '`' ∉ b.last
  tail : '`' ∉ b.tail
  /-- No brace without its partner. -/
  head_nested : Nested '{' '}' b.head
  tail_nested : Nested '{' '}' b.tail
  anchor : IsAnchor b.anchor
  /-- No anchor starts before this one. -/
  first : ∀ x t y, b.source = x ++ (t ++ y) → IsAnchor t → b.layout.front.length ≤ x.length

variable {b}

theorem source_layout : b.layout.source = b.source := by
  simp [layout, Layout.source, Layout.code, Layout.inner, source, around, head]

theorem sound_layout (h : b.WellFormed) : b.layout.Sound :=
  ⟨h.name, h.short, h.head_nested, h.anchor, h.tail_nested⟩

theorem first_layout (h : b.WellFormed) : b.layout.First := by
  refine clear_iff_drop.2 fun i hi => ?_
  rintro ⟨t, ht, y, hy⟩
  have hsource : b.source = b.source.take i ++ (t ++ y) := by
    rw [hy, ← Layout.source_eq, source_layout, List.take_append_drop]
  have hle := h.first _ t y hsource ht
  rw [List.length_take] at hle
  omega

/-! ## The pass over a bundle -/

variable {path converter rest : Text} {parts : List (Text × Text)}

theorem separated_getLast? (gap call : Text) (before : Char) :
    separated (gap.getLast?.or (some before)) call =
      (if isIdentifier (gap.getLastD before) then [' '] else []) ++ call := by
  have hlast : gap.getLast?.or (some before) = some (gap.getLastD before) := by
    cases h : gap.getLast? <;> simp [List.getLastD_eq_getLast?, h]
  rw [hlast, separated, Option.any_some]
  cases isIdentifier (gap.getLastD before) <;> rfl

/-- **Every template becomes a call**, where the filling has no backtick. -/
theorem exists_pass (hfiles : ∀ part ∈ parts, IsName part.2) (hgaps : ∀ part ∈ parts, '`' ∉ part.1)
    (hrest : '`' ∉ rest) (pos : Int) (before : Char) :
    ∃ edits, Pass path converter pos (some before) (templates path parts ++ rest) edits
      (calls path converter before parts ++ rest) ∧ edits.map (·.file) = parts.map (·.2) := by
  induction parts generalizing pos before with
  | nil =>
    have hclear : Clear (template path) rest [] :=
      clear_of_notMem (fun _ => exists_cons_of_spells_template) hrest
    have hpass : Pass path converter pos (some before) (rest ++ []) [] (rest ++ []) :=
      Pass.of_clear hclear .done
    rw [List.append_nil] at hpass
    exact ⟨[], hpass, rfl⟩
  | cons part parts ih =>
    obtain ⟨gap, file⟩ := part
    obtain ⟨edits, hpass, hmap⟩ := ih (fun q hq => hfiles q (List.mem_cons_of_mem _ hq))
      (fun q hq => hgaps q (List.mem_cons_of_mem _ hq))
      (pos + gap.length + (templateText path file).length) '`'
    have hfile : IsName file := hfiles _ List.mem_cons_self
    have hclear : Clear (template path) gap
        (templateText path file ++ (templates path parts ++ rest)) :=
      clear_of_notMem (fun _ => exists_cons_of_spells_template) (hgaps _ List.mem_cons_self)
    have hwhole := Pass.of_clear hclear
      (@Pass.swap _ _ _ (gap.getLast?.or (some before)) _ _ _ _ hfile hpass)
    rw [separated_getLast?] at hwhole
    refine ⟨ofTemplate path converter (pos + gap.length) (gap.getLast?.or (some before)) file ::
      edits, ?_, by simp [ofTemplate, hmap]⟩
    simpa [templates, calls] using hwhole

/-- What a patch does to the **function** of a bundle. -/
theorem exists_pass_code (h : b.WellFormed) : ∃ edits,
    Pass b.path b.converter b.layout.lead.length none b.layout.code edits
      (Header.words b.name ++ '{' :: (calls b.path b.converter '{' b.parts ++
        (b.last ++ (b.anchor ++ (b.tail ++ ['}']))))) ∧
      edits.map (·.file) = b.parts.map (·.2) := by
  have htick : '`' ∉ Header.words b.name ++ ['{'] := by
    have hwords := @Header.notMem_words b.name h.name '`' (by decide) (by decide)
    simp [hwords]
  have hanchor : '`' ∉ b.anchor := h.anchor.notMem (by decide) (by decide) (by decide)
  have hrest : '`' ∉ b.last ++ (b.anchor ++ (b.tail ++ ['}'])) := by
    simp [h.last, hanchor, h.tail]
  obtain ⟨edits, hpass, hmap⟩ := @exists_pass b.path b.converter _ _ h.files h.gaps hrest
    (b.layout.lead.length + (Header.words b.name ++ ['{']).length) '{'
  have hlast : (Header.words b.name ++ ['{']).getLast?.or none = some '{' := by simp
  rw [← hlast] at hpass
  have hwhole := Pass.of_clear
    (clear_of_notMem (fun _ => exists_cons_of_spells_template) htick) hpass
  refine ⟨edits, ?_, hmap⟩
  simpa [layout, Layout.code, Layout.inner, head] using hwhole

/-- The first template of a bundle **names its path module**. -/
theorem firstTemplate_layout (h : b.WellFormed) :
    Address.FirstTemplate b.layout.code b.path := by
  obtain ⟨⟨gap, file⟩, parts, hparts⟩ := List.exists_cons_of_ne_nil h.parts
  have hmem : (gap, file) ∈ b.parts := hparts ▸ List.mem_cons_self
  have hfile : IsName file := h.files _ hmem
  have hgap : '`' ∉ gap := h.gaps _ hmem
  refine ⟨Header.words b.name ++ '{' :: gap, file,
    templates b.path parts ++ (b.last ++ (b.anchor ++ (b.tail ++ ['}']))), ?_, h.path,
    hfile.isArgument, clear_of_notMem (fun _ => Address.exists_cons_of_spells_legacy) ?_⟩
  · simp [layout, Layout.code, Layout.inner, head, hparts, templates]
  · have hwords := @Header.notMem_words b.name h.name '`' (by decide) (by decide)
    simp [hwords, hgap]

theorem converter?_source (h : b.WellFormed) :
    UrlImport.converter? b.source = some b.converter :=
  UrlImport.converter?_importText h.converter _

/-- **A well-formed bundle is patched**: every template becomes a call, in order, and nothing else
changes. -/
theorem ofSource_source (h : b.WellFormed) (context : Int) :
    ∃ r, (Patch.ofSource b.source context).result = .ok r ∧ r.status = .patched ∧
      r.applied = b.parts.length ∧ r.edits.map (·.file) = b.parts.map (·.2) ∧
      (r.edits.Pairwise fun e e' => e.stop ≤ e'.start) ∧ r.content = b.patched := by
  obtain ⟨edits, hpass, hmap⟩ := exists_pass_code h
  have hlength : edits.length = b.parts.length := by
    simpa using congrArg List.length hmap
  have hne : edits ≠ [] := by
    rw [← List.length_pos_iff, hlength]
    exact List.length_pos_iff.2 h.parts
  have hsettles := Patch.Settles.patched (firstTemplate_layout h)
    (source_layout ▸ converter?_source h) hpass hne
  refine ⟨_, Patch.ofSource_eq_ok_iff.2 ⟨b.layout, sound_layout h, first_layout h, source_layout,
    hsettles⟩, rfl, ?_, hmap, hpass.turns.pairwise, ?_⟩
  · simp [Patch.Outcome.applied, hlength]
  · simp [patched, around, layout]

/-- A bundle with **two templates**, the first behind a keyword. -/
def sample : Bundle where
  converter := ['q']
  lead := []
  name := ['F']
  path := ['p']
  parts := [("a=typeof".toList, ['x']), (",b=".toList, ['y'])]
  last := [';']
  anchor := Patch.sampleAnchor
  tail := []
  trail := "F()".toList

theorem wellFormed_sample : sample.WellFormed := by
  have hsurvey : Anchor.survey Anchor.fields sample.source =
      .ok (.ofText 109 Patch.sampleAnchor, 1) := by decide +kernel
  have hfront : sample.layout.front.length = 109 := by decide +kernel
  obtain ⟨hanchor, hfirst⟩ := Anchor.spec_of_survey hsurvey
  exact
    { converter := by decide
      name := by decide
      short := by decide
      path := by decide
      parts := by decide
      files := by decide
      gaps := by decide
      last := by decide
      tail := by decide
      head_nested := (nested_iff_climb (by decide)).2 (by decide)
      tail_nested := (nested_iff_climb (by decide)).2 (by decide)
      anchor := hanchor
      first := fun x t y hs ht => by
        have := hfirst x t y hs ht
        simp only [Anchor.ofText] at this
        omega }

theorem ofSource_source_sample : sample.WellFormed ∧ ∃ r,
    (Patch.ofSource sample.source 80).result = .ok r ∧ r.applied = 2 ∧
      r.edits.map (·.file) = [['x'], ['y']] ∧ r.content = sample.patched := by
  obtain ⟨r, hr, -, happlied, hfiles, -, hcontent⟩ := ofSource_source wellFormed_sample 80
  exact ⟨wellFormed_sample, r, hr, happlied, hfiles, hcontent⟩

end Bundle

end BundlePatch
