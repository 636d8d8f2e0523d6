import BundlePatch.Proofs.AddressText

/-!
# Proofs/LocalNames — where the names come from

The path module is named by the **first template** of a function, when it has one
(`Address.path?_of_firstTemplate`); the shape is legacy exactly then (`shape_eq_legacy_iff`).

The converter is named by an import, each part of which gives **one name** or none
(`UrlImport.binding?_eq_some_iff`).
-/

namespace BundlePatch

open Pattern Edit

variable {code name argument source : Text}

/-! ## The path module -/

namespace Address

/-- The template at which **no other one starts earlier**, and the name in it. -/
def FirstTemplate (code name : Text) : Prop :=
  ∃ x argument y, code = x ++ (templateText name argument ++ y) ∧ IsName name ∧
    IsArgument argument ∧ Clear legacy x (templateText name argument ++ y)

theorem FirstTemplate.isName (h : FirstTemplate code name) : IsName name := by
  obtain ⟨_, _, _, _, hn, _⟩ := h
  exact hn

theorem firstTemplate_of_search? {hit : Hit} (h : search? legacy code = some hit) :
    FirstTemplate code (hit.part 1) := by
  obtain ⟨hs, -, hfits, hclear⟩ := search?_spec open_legacy h
  obtain ⟨n, a, hn, ha, hparts⟩ := fits_legacy_iff.1 hfits
  have htext : hit.text = templateText n a := by rw [Hit.text, hparts, flatten_template]
  have hpart : hit.part 1 = n := by rw [Hit.part, hparts]; rfl
  rw [htext] at hs hclear
  rw [hpart]
  exact ⟨_, a, _, hs, hn, ha, hclear⟩

/-- There is a first template when **there is one at all**. -/
theorem exists_firstTemplate_iff : (∃ name, FirstTemplate code name) ↔
    ∃ name argument, IsName name ∧ IsArgument argument ∧ templateText name argument <:+: code := by
  constructor
  · rintro ⟨n, x, a, y, rfl, hn, ha, -⟩
    exact ⟨n, a, hn, ha, x, y, List.append_assoc ..⟩
  · rintro ⟨n, a, hn, ha, hin⟩
    obtain ⟨hit, hhit⟩ := Option.isSome_iff_exists.1 ((search?_isSome_iff_exists open_legacy).2
      ⟨_, spells_legacy_iff.2 ⟨n, a, hn, ha, rfl⟩, hin⟩)
    exact ⟨_, firstTemplate_of_search? hhit⟩

/-- There is none when the legacy shape **spells no part** of the text. -/
theorem not_exists_firstTemplate_iff :
    (¬ ∃ name, FirstTemplate code name) ↔ ∀ t, legacy.Spells t → ¬ t <:+: code := by
  rw [exists_firstTemplate_iff]
  constructor
  · rintro h t ht hin
    obtain ⟨n, a, hn, ha, rfl⟩ := spells_legacy_iff.1 ht
    exact h ⟨n, a, hn, ha, hin⟩
  · rintro h ⟨n, a, hn, ha, hin⟩
    exact h _ (spells_legacy_iff.2 ⟨n, a, hn, ha, rfl⟩) hin

/-- The first template **names the path module**. -/
theorem path?_of_firstTemplate (h : FirstTemplate code name) : path? code = some name := by
  obtain ⟨x, a, y, rfl, hn, ha, hclear⟩ := h
  obtain ⟨hit, hhit, hbefore, hrest⟩ := search?_eq_some_of_clear open_legacy
    (spells_legacy_iff.2 ⟨name, a, hn, ha, rfl⟩) hclear
  obtain ⟨-, -, hfits, -⟩ := search?_spec open_legacy hhit
  obtain ⟨n, b, hn', hb, hparts⟩ := fits_legacy_iff.1 hfits
  have htext : hit.text = templateText n b := by rw [Hit.text, hparts, flatten_template]
  rw [htext] at hrest
  obtain ⟨rfl, -⟩ := templateText_unique hn' hn hb.2 ha.2 hrest
  rw [path?, hhit]
  simp [Hit.part, hparts]

theorem shape_eq_legacy_iff : shape code = .legacy ↔ ∃ name, FirstTemplate code name := by
  rw [shape]
  constructor
  · intro h
    split at h
    · next hsome =>
      obtain ⟨hit, hhit⟩ := Option.isSome_iff_exists.1 hsome
      exact ⟨_, firstTemplate_of_search? hhit⟩
    · split at h <;> cases h
  · intro h
    obtain ⟨n, a, hn, ha, hin⟩ := exists_firstTemplate_iff.1 h
    rw [if_pos ((search?_isSome_iff_exists open_legacy).2
      ⟨_, spells_legacy_iff.2 ⟨n, a, hn, ha, rfl⟩, hin⟩)]

theorem FirstTemplate.shape_eq (h : FirstTemplate code name) : shape code = .legacy :=
  shape_eq_legacy_iff.2 ⟨name, h⟩

/-- There is **only one** first template. -/
theorem FirstTemplate.unique {name' : Text} (h : FirstTemplate code name)
    (h' : FirstTemplate code name') : name = name' :=
  Option.some.inj ((path?_of_firstTemplate h).symm.trans (path?_of_firstTemplate h'))

theorem shape_eq_target_iff : shape code = .target ↔
    (¬ ∃ name, FirstTemplate code name) ∧ ∃ t, target.Spells t ∧ t <:+: code := by
  rw [← shape_eq_legacy_iff, ← search?_isSome_iff_exists open_target, shape]
  split_ifs <;> simp [*]

end Address

/-! ## The converter -/

namespace UrlImport

/-- **Blanks**, at least one. -/
def IsGap (b : Text) : Prop := b ≠ [] ∧ ∀ c ∈ b, isBlank c = true

/-- A part of an import that **gives a name a local name**. -/
inductive Binds : (part name localName : Text) → Prop
  /-- As it is. -/
  | plain {n : Text} : IsName n → Binds n n n
  /-- By another one. -/
  | renamed {n b b' l : Text} : IsName n → IsGap b → IsGap b' → IsName l →
      Binds (n ++ (b ++ ("as".toList ++ (b' ++ l)))) n l

theorem head?_of_isGap {b u : Text} (hb : IsGap b) :
    ∀ c ∈ (b ++ u).head?, isIdentifier c = false := by
  obtain ⟨c, b, rfl⟩ := List.exists_cons_of_ne_nil hb.1
  simpa using isIdentifier_of_isBlank (hb.2 c List.mem_cons_self)

theorem head?_of_isName {n u : Text} (hn : IsName n) :
    ∀ c ∈ (n ++ u).head?, isBlank c = false := by
  obtain ⟨c, n, rfl⟩ := List.exists_cons_of_ne_nil hn.1
  simpa using isBlank_of_isIdentifier (hn.2 c List.mem_cons_self)

/-- A part gives **one local name**. -/
theorem Binds.unique {part n l n' l' : Text} (h : Binds part n l) (h' : Binds part n' l') :
    n = n' ∧ l = l' := by
  -- a name has no blank
  have hblank : ∀ {m n b u : Text}, IsName m → IsGap b → m ≠ n ++ (b ++ u) := by
    rintro m n b u hm hb rfl
    obtain ⟨c, b, rfl⟩ := List.exists_cons_of_ne_nil hb.1
    exact hm.notMem (isIdentifier_of_isBlank (hb.2 c List.mem_cons_self)) (by simp)
  generalize hpart : part = part' at h'
  cases h with
  | plain hn =>
    cases h' with
    | plain => exact ⟨hpart, hpart⟩
    | renamed _ hb _ _ => exact absurd hpart (hblank hn hb)
  | @renamed _ b _ _ hn hb hb₂ hl =>
    cases h' with
    | plain hn' => exact absurd hpart.symm (hblank hn' hb)
    | @renamed _ b' _ _ hn' hb' hb₂' hl' =>
      have has : ∀ u : Text, ∀ c ∈ ("as".toList ++ u).head?, isBlank c = false := fun u c hc => by
        have has : "as".toList = ['a', 's'] := by decide
        obtain rfl : 'a' = c := by simpa [has] using hc
        decide
      have hend : ∀ {n : Text}, IsName n → ∀ c ∈ n.head?, isBlank c = false := fun hn => by
        simpa using head?_of_isName (u := []) hn
      obtain ⟨rfl, hgap⟩ :=
        Text.run_unique hn.2 hn'.2 (head?_of_isGap hb) (head?_of_isGap hb') hpart
      obtain ⟨rfl, hword⟩ := Text.run_unique hb.2 hb'.2 (has _) (has _) hgap
      obtain ⟨-, hlocal⟩ := Text.run_unique hb₂.2 hb₂'.2 (hend hl) (hend hl')
        (List.append_cancel_left hword)
      exact ⟨rfl, hlocal⟩

theorem fits_renamed_iff {parts : List Text} {rest : Text} : Fits renamed parts rest ↔
    ∃ n b b' l, parts = [n, b, "as".toList, b', l, []] ∧ IsName n ∧ IsGap b ∧ IsGap b' ∧ IsName l ∧
      rest = [] := by
  constructor
  · rintro ⟨n, _, rfl, hn, b, _, rfl, hb, _, _, rfl, rfl, b', _, rfl, hb', l, _, rfl, hl, _, _, rfl,
      ⟨rfl, hrest⟩, rfl⟩
    exact ⟨n, b, b', l, rfl, hn, hb, hb', hl, by simpa using hrest⟩
  · rintro ⟨n, b, b', l, rfl, hn, hb, hb', hl, rfl⟩
    exact ⟨_, _, rfl, hn, _, _, rfl, hb, _, _, rfl, rfl, _, _, rfl, hb', _, _, rfl, hl, _, _, rfl,
      ⟨rfl, rfl⟩, rfl⟩

theorem fits_plain_iff {parts : List Text} {rest : Text} : Fits plain parts rest ↔
    ∃ n, parts = [n, []] ∧ IsName n ∧ rest = [] := by
  constructor
  · rintro ⟨n, _, rfl, hn, _, _, rfl, ⟨rfl, hrest⟩, rfl⟩
    exact ⟨n, rfl, hn, by simpa using hrest⟩
  · rintro ⟨n, rfl, hn, rfl⟩
    exact ⟨_, _, rfl, hn, _, _, rfl, ⟨rfl, rfl⟩, rfl⟩

theorem binds_of_binding? {part n l : Text} (h : binding? part = some (n, l)) :
    Binds part.trim n l := by
  rw [binding?] at h
  cases hrenamed : match? renamed part.trim with
  | some found =>
    obtain ⟨parts, rest⟩ := found
    rw [hrenamed] at h
    obtain ⟨hpart, hfits⟩ := fits_of_match? hrenamed
    obtain ⟨n, b, b', l, rfl, hn, hb, hb', hl, rfl⟩ := fits_renamed_iff.1 hfits
    obtain ⟨rfl, rfl⟩ := Prod.mk.inj (Option.some.inj h)
    rw [hpart]
    simpa using Binds.renamed hn hb hb' hl
  | none =>
    rw [hrenamed] at h
    cases hplain : match? plain part.trim with
    | none => rw [hplain] at h; cases h
    | some found =>
      obtain ⟨parts, rest⟩ := found
      rw [hplain] at h
      obtain ⟨hpart, hfits⟩ := fits_of_match? hplain
      obtain ⟨n, rfl, hn, rfl⟩ := fits_plain_iff.1 hfits
      obtain ⟨rfl, rfl⟩ := Prod.mk.inj (Option.some.inj h)
      rw [hpart]
      simpa using Binds.plain hn

/-- What a part **gives**, without the blanks around it. -/
theorem binding?_eq_some_iff {part n l : Text} :
    binding? part = some (n, l) ↔ Binds part.trim n l := by
  refine ⟨binds_of_binding?, fun h => ?_⟩
  have hsome : (binding? part).isSome := by
    rw [binding?]
    cases hrenamed : match? renamed part.trim with
    | some found => rfl
    | none =>
      generalize part.trim = s at h hrenamed
      cases h with
      | plain hn =>
        have hplain := match?_isSome_of_fits (fits_plain_iff.2 ⟨n, rfl, hn, rfl⟩)
        obtain ⟨found, hfound⟩ := Option.isSome_iff_exists.1 hplain
        simp only [List.flatten_cons, List.flatten_nil, List.append_nil] at hfound
        rw [hfound]
        rfl
      | renamed hn hb hb' hl =>
        have hfits := match?_isSome_of_fits
          (fits_renamed_iff.2 ⟨_, _, _, _, rfl, hn, hb, hb', hl, rfl⟩)
        simp only [List.flatten_cons, List.flatten_nil, List.append_nil, hrenamed,
          Option.isSome_none, Bool.false_eq_true] at hfits
  obtain ⟨⟨n', l'⟩, hbinding⟩ := Option.isSome_iff_exists.1 hsome
  obtain ⟨rfl, rfl⟩ := h.unique (binds_of_binding? hbinding)
  exact hbinding

theorem Binds.isName {part n l : Text} (h : Binds part n l) : IsName l := by
  cases h with
  | plain hn => exact hn
  | renamed _ _ _ hl => exact hl

/-- Between the braces, **one part gives the converter** this local name. -/
def Names (body l : Text) : Prop :=
  ∃ part ∈ body.pieces ',', Binds part.trim Role.converter.name.toList l

theorem names_of_converterIn? {body l : Text} (h : converterIn? body = some l) : Names body l := by
  obtain ⟨part, hmem, hpart⟩ := List.exists_of_findSome?_eq_some h
  split at hpart
  · next name localName hbinding =>
    split at hpart
    · next hname =>
      obtain rfl := Option.some.inj hpart
      exact ⟨part, hmem, hname ▸ binds_of_binding? hbinding⟩
    · cases hpart
  · cases hpart

theorem converterIn?_eq_none_iff {body : Text} : converterIn? body = none ↔ ∀ l, ¬ Names body l := by
  constructor
  · rintro h l ⟨part, hmem, hbinds⟩
    have hpart := List.findSome?_eq_none_iff.1 h part hmem
    rw [binding?_eq_some_iff.2 hbinds] at hpart
    simp at hpart
  · intro h
    cases hl : converterIn? body with
    | none => rfl
    | some l => exact absurd (names_of_converterIn? hl) (h l)

/-- What an import gives for the converter **is a name**. -/
theorem isName_of_converter? {converter : Text} (h : converter? source = some converter) :
    IsName converter := by
  obtain ⟨seg, -, hseg⟩ := List.exists_of_findSome?_eq_some h
  obtain ⟨part, -, hbinds⟩ := names_of_converterIn? hseg
  exact hbinds.isName

theorem open_pattern : pattern.Open := by
  simp [pattern, Pattern.Open]

/-- The **parts of an import**: what stands between the braces is one of them. -/
theorem fits_pattern_iff {parts : List Text} {rest : Text} : Fits pattern parts rest ↔
    ∃ b body b' b'' mark node mark', parts = ["import".toList, b, ['{'], body, ['}'], b',
        "from".toList, b'', [mark], node, "url".toList, [mark']] ∧
      (∀ c ∈ b, isBlank c = true) ∧ '}' ∉ body ∧ (∀ c ∈ b', isBlank c = true) ∧
      (∀ c ∈ b'', isBlank c = true) ∧ isQuote mark = true ∧
      (node = "node:".toList ∨ node = []) ∧ isQuote mark' = true := by
  have hbody : ∀ s : Text, (∀ c ∈ s, (c != '}') = true) ↔ '}' ∉ s := fun s => by
    simp only [bne_iff_ne]
    exact ⟨fun h hm => h _ hm rfl, fun h c hc he => h (he ▸ hc)⟩
  constructor
  · rintro ⟨_, _, rfl, rfl, b, _, rfl, hb, _, _, rfl, rfl, s, _, rfl, hs, _, _, rfl, rfl, b', _,
      rfl, hb', _, _, rfl, rfl, b'', _, rfl, hb'', _, _, rfl, ⟨m, rfl, hm⟩, node, _, rfl, hnode, _,
      _, rfl, rfl, _, _, rfl, ⟨m', rfl, hm'⟩, rfl⟩
    exact ⟨b, s, b', b'', m, node, m', rfl, hb, (hbody s).1 hs, hb', hb'', hm, hnode, hm'⟩
  · rintro ⟨b, s, b', b'', m, node, m', rfl, hb, hs, hb', hb'', hm, hnode, hm'⟩
    exact ⟨_, _, rfl, rfl, _, _, rfl, hb, _, _, rfl, rfl, _, _, rfl, (hbody s).2 hs, _, _, rfl, rfl,
      _, _, rfl, hb', _, _, rfl, rfl, _, _, rfl, hb'', _, _, rfl, ⟨m, rfl, hm⟩, _, _, rfl, hnode, _,
      _, rfl, rfl, _, _, rfl, ⟨m', rfl, hm'⟩, rfl⟩

/-- The part of an import that **renames the converter**. -/
def renamedPart (converter : Text) : Text :=
  Role.converter.name.toList ++ ([' '] ++ ("as".toList ++ ([' '] ++ converter)))

/-- The import of **just the converter**. -/
def importText (converter : Text) : Text :=
  "import\x7bpathToFileURL as ".toList ++ (converter ++ "\x7dfrom\"url\"".toList)

theorem importText_eq (converter : Text) : importText converter =
    "import".toList ++ ('{' :: (renamedPart converter ++ '}' :: "from\"url\"".toList)) := by
  have hopening : "import\x7bpathToFileURL as ".toList = "import".toList ++
      '{' :: (Role.converter.name.toList ++ ([' '] ++ ("as".toList ++ [' ']))) := by decide
  have hclosing : "\x7dfrom\"url\"".toList = '}' :: "from\"url\"".toList := by decide
  unfold importText renamedPart
  rw [hopening, hclosing]
  simp only [List.append_assoc, List.cons_append]

theorem notMem_renamedPart {converter : Text} (hc : IsName converter) {c : Char}
    (hi : isIdentifier c = false) (hpart : c ∉ renamedPart []) : c ∉ renamedPart converter := by
  simp only [renamedPart, List.mem_append, List.append_nil, not_or] at hpart ⊢
  exact ⟨hpart.1, hpart.2.1, hpart.2.2.1, hpart.2.2.2, hc.notMem hi⟩

theorem converterIn?_renamedPart {converter : Text} (hc : IsName converter) :
    converterIn? (renamedPart converter) = some converter := by
  have hname : IsName Role.converter.name.toList := by decide
  have hgap : IsGap [' '] := ⟨by simp, by decide⟩
  have htrim : (renamedPart converter).trim = renamedPart converter := by
    obtain ⟨init, d, rfl⟩ := (List.eq_nil_or_concat' converter).resolve_left hc.1
    refine Text.trim_eq_self (head?_of_isName hname) fun c hlast => ?_
    simp only [renamedPart, ← List.append_assoc, List.getLast?_concat, Option.mem_def,
      Option.some.injEq] at hlast
    subst hlast
    exact isBlank_of_isIdentifier (hc.2 d (List.mem_append_right init List.mem_cons_self))
  have hbinding :
      binding? (renamedPart converter) = some (Role.converter.name.toList, converter) := by
    rw [binding?_eq_some_iff, htrim]
    exact .renamed hname hgap hgap hc
  have hcomma : ',' ∉ renamedPart converter := notMem_renamedPart hc (by decide) (by decide)
  simp only [converterIn?, Text.pieces_of_notMem hcomma, List.findSome?_cons, hbinding, if_true]

end UrlImport

end BundlePatch
