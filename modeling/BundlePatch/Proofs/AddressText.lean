import BundlePatch.Edit
import BundlePatch.Proofs.Language
import BundlePatch.Proofs.Names

/-!
# Proofs/AddressText — the templates and the calls, as texts

`Edit.templateText name argument` is a template written out.  The legacy shape spells exactly the
templates of **any name and argument**, the pattern of one name exactly its templates of **a name**
(`spells_legacy_iff`, `spells_template_iff`), and a template says which they are
(`templateText_unique`).  A template starts and ends with a backtick and holds one pair of braces;
the call that replaces it holds neither.
-/

namespace BundlePatch

open Pattern

variable {name name' argument argument' converter path file t u v rest : Text}
  {parts : List Text}

/-- What stands **between the parentheses** of a call: anything up to the closing one. -/
def IsArgument (a : Text) : Prop := a ≠ [] ∧ ')' ∉ a

theorem IsName.isArgument (h : IsName name) : IsArgument name :=
  ⟨h.1, h.notMem (by decide)⟩

namespace Edit

/-! ## Templates -/

/-- The **template** of a name and an argument, written out. -/
def templateText (name argument : Text) : Text :=
  '`' :: ("file://$\x7b".toList ++ (name ++ (".resolve(".toList ++ (argument ++ ")\x7d`".toList))))

theorem flatten_template :
    ["`file://$\x7b".toList, name, ".resolve(".toList, argument, ")\x7d`".toList].flatten =
      templateText name argument := by
  have hopening : "`file://$\x7b".toList = '`' :: "file://$\x7b".toList := by decide
  simp [templateText, hopening]

theorem fits_template_iff : Fits (template path) parts rest ↔
    ∃ file, IsName file ∧
      parts = ["`file://$\x7b".toList, path, ".resolve(".toList, file, ")\x7d`".toList] := by
  constructor
  · rintro ⟨_, _, rfl, rfl, _, _, rfl, rfl, _, _, rfl, rfl, f, _, rfl, hf, _, _, rfl, rfl, rfl⟩
    exact ⟨f, hf, rfl⟩
  · rintro ⟨f, hf, rfl⟩
    exact ⟨_, _, rfl, rfl, _, _, rfl, rfl, _, _, rfl, rfl, _, _, rfl, hf, _, _, rfl, rfl, rfl⟩

theorem open_template (path : Text) : (template path).Open := by
  simp [template, Pattern.Open]

/-- The pattern of a name spells **the templates of that name**, with a name as argument. -/
theorem spells_template_iff :
    (template path).Spells t ↔ ∃ file, IsName file ∧ t = templateText path file := by
  constructor
  · rintro ⟨parts, rfl, hfits⟩
    obtain ⟨f, hf, rfl⟩ := fits_template_iff.1 hfits
    exact ⟨f, hf, flatten_template⟩
  · rintro ⟨f, hf, rfl⟩
    exact ⟨_, flatten_template.symm, fits_template_iff.2 ⟨f, hf, rfl⟩⟩

theorem exists_cons_of_spells_template (h : (template path).Spells t) : ∃ u, t = '`' :: u := by
  obtain ⟨file, -, rfl⟩ := spells_template_iff.1 h
  exact ⟨_, rfl⟩

/-- A template of a given name says **which argument** it has. -/
theorem templateText_cancel (ha : ')' ∉ argument) (ha' : ')' ∉ argument')
    (h : templateText name argument ++ u = templateText name argument' ++ v) :
    argument = argument' ∧ u = v := by
  have hclose : ")\x7d`".toList = ')' :: "\x7d`".toList := by decide
  simp only [templateText, List.cons_append, List.append_assoc, List.cons.injEq, true_and,
    List.append_cancel_left_eq, hclose] at h
  obtain ⟨hargument, hend⟩ := Text.cut_unique ha ha' h
  exact ⟨hargument, List.append_cancel_left hend⟩

/-- A template says **which name and argument** it is made of. -/
theorem templateText_unique (hn : IsName name) (hn' : IsName name') (ha : ')' ∉ argument)
    (ha' : ')' ∉ argument')
    (h : templateText name argument ++ u = templateText name' argument' ++ v) :
    name = name' ∧ argument = argument' ∧ u = v := by
  have hdot : ".resolve(".toList = '.' :: "resolve(".toList := by decide
  have hsplit := h
  simp only [templateText, List.cons_append, List.append_assoc, List.cons.injEq, true_and,
    List.append_cancel_left_eq, hdot] at hsplit
  obtain ⟨rfl, -⟩ := Text.cut_unique (hn.notMem (by decide)) (hn'.notMem (by decide)) hsplit
  exact ⟨rfl, templateText_cancel ha ha' h⟩

theorem length_templateText_pos (name argument : Text) : 0 < (templateText name argument).length :=
  List.length_pos_iff.2 (List.cons_ne_nil _ _)

theorem templateText_eq_append (name argument : Text) :
    ∃ w, templateText name argument = w ++ ['`'] ∧ w ≠ [] := by
  have hclose : ")\x7d`".toList = ")\x7d".toList ++ ['`'] := by decide
  refine ⟨'`' :: ("file://$\x7b".toList ++
    (name ++ (".resolve(".toList ++ (argument ++ ")\x7d".toList)))), ?_, List.cons_ne_nil _ _⟩
  simp [templateText, hclose]

theorem getLast?_templateText (name argument : Text) :
    (templateText name argument).getLast? = some '`' := by
  obtain ⟨w, hw, -⟩ := templateText_eq_append name argument
  rw [hw, List.getLast?_concat]

/-- Every end of a template **has its last backtick**. -/
theorem backtick_mem_of_suffix (hv : v <:+ templateText name argument) (hne : v ≠ []) :
    '`' ∈ v := by
  obtain ⟨w, hw, -⟩ := templateText_eq_append name argument
  rw [hw, List.suffix_concat_iff] at hv
  obtain ⟨u, rfl, -⟩ := hv.resolve_left hne
  simp

/-- Each character occurs in a template as often as **in its two parts and around them**. -/
theorem count_templateText (c : Char) (name argument : Text) :
    (templateText name argument).count c =
      (templateText [] []).count c + name.count c + argument.count c := by
  simp only [templateText, List.count_cons, List.count_append, List.count_nil]
  omega

/-- A character that a template takes **only from its name and argument**. -/
theorem notMem_templateText {c : Char} (hn : c ∉ name) (ha : c ∉ argument)
    (h : c ∉ templateText [] []) : c ∉ templateText name argument := by
  rw [← List.count_eq_zero] at hn ha h ⊢
  rw [count_templateText, hn, ha, h]

/-! ## Calls -/

theorem call_eq (converter path file : Text) : call converter path file =
    converter ++ ('(' :: (path ++ (".resolve(".toList ++ (file ++ ")).href".toList)))) := by
  unfold call
  simp only [List.append_assoc, List.cons_append]

theorem getLast?_call (converter path file : Text) :
    (call converter path file).getLast? = some 'f' := by
  have hclose : ")).href".toList = ")).hre".toList ++ ['f'] := by decide
  rw [call, hclose, ← List.append_assoc, List.getLast?_concat]

/-- Each character occurs in a call as often as **in its three names and around them**. -/
theorem count_call (c : Char) (converter path file : Text) :
    (call converter path file).count c =
      (call [] [] []).count c + converter.count c + path.count c + file.count c := by
  simp only [call_eq, List.count_cons, List.count_append, List.count_nil]
  omega

/-- A character that a call takes **only from its names**. -/
theorem notMem_call {c : Char} (hc : c ∉ converter) (hp : c ∉ path) (hf : c ∉ file)
    (h : c ∉ call [] [] []) : c ∉ call converter path file := by
  rw [← List.count_eq_zero] at hc hp hf h ⊢
  rw [count_call, hc, hp, hf, h]

end Edit

namespace Address

/-! ## Shapes -/

theorem fits_legacy_iff : Fits legacy parts rest ↔
    ∃ name argument, IsName name ∧ IsArgument argument ∧
      parts = ["`file://$\x7b".toList, name, ".resolve(".toList, argument, ")\x7d`".toList] := by
  have harg : ∀ a : Text, (a ≠ [] ∧ ∀ c ∈ a, isArgument c = true) ↔ IsArgument a := fun a => by
    simp only [IsArgument, isArgument, bne_iff_ne]
    exact and_congr_right fun _ => ⟨fun h hm => h _ hm rfl, fun h c hc => fun he => h (he ▸ hc)⟩
  constructor
  · rintro ⟨_, _, rfl, rfl, n, _, rfl, hn, _, _, rfl, rfl, a, _, rfl, ha, _, _, rfl, rfl, rfl⟩
    exact ⟨n, a, hn, (harg a).1 ha, rfl⟩
  · rintro ⟨n, a, hn, ha, rfl⟩
    exact ⟨_, _, rfl, rfl, _, _, rfl, hn, _, _, rfl, rfl, _, _, rfl, (harg a).2 ha, _, _, rfl, rfl,
      rfl⟩

theorem open_legacy : legacy.Open := by
  simp [legacy, Pattern.Open]

/-- The legacy shape spells **the templates**. -/
theorem spells_legacy_iff : legacy.Spells t ↔
    ∃ name argument, IsName name ∧ IsArgument argument ∧ t = Edit.templateText name argument := by
  constructor
  · rintro ⟨parts, rfl, hfits⟩
    obtain ⟨n, a, hn, ha, rfl⟩ := fits_legacy_iff.1 hfits
    exact ⟨n, a, hn, ha, Edit.flatten_template⟩
  · rintro ⟨n, a, hn, ha, rfl⟩
    exact ⟨_, Edit.flatten_template.symm, fits_legacy_iff.2 ⟨n, a, hn, ha, rfl⟩⟩

theorem exists_cons_of_spells_legacy (h : legacy.Spells t) : ∃ u, t = '`' :: u := by
  obtain ⟨name, argument, -, -, rfl⟩ := spells_legacy_iff.1 h
  exact ⟨_, rfl⟩

theorem open_target : target.Open := by
  simp [target, Pattern.Open]

/-- The target shape spells **a call** for every three names. -/
theorem spells_target_call (hc : IsName converter) (hp : IsName path) (hf : IsName file) :
    target.Spells (Edit.call converter path file) := by
  have harg : ∀ c ∈ file, isArgument c = true := fun c hm => by
    rw [isArgument, bne_iff_ne]
    rintro rfl
    exact hf.isArgument.2 hm
  refine ⟨[converter, ['('], path, ".resolve(".toList, file, ")).href".toList], ?_, ?_⟩
  · rw [Edit.call_eq]
    simp
  · exact ⟨_, _, rfl, hc, _, _, rfl, rfl, _, _, rfl, hp, _, _, rfl, rfl, _, _, rfl, ⟨hf.1, harg⟩,
      _, _, rfl, rfl, rfl⟩

end Address

end BundlePatch
