import BundlePatch.Proofs.Again

/-!
# Proofs/AnyScanner — a function found with any scanner

Where a scanner says that the body starts and ends is **not trusted**.  The header is looked for in
front of the one position, and the other is checked against the anchor, so whatever they are, what
is found starts with a header before the anchor, ends behind it, and holds as many closing as
opening braces (`Routine.Guarded`).

A patch of it cannot fail either, and touches nothing outside: this holds of **any** function and
any names (`Patch.apply_frame`), since the plan is read off the very text that it is spliced into.
-/

namespace BundlePatch

open Pattern

variable {source x y x' y' n t w : Text} {anchor : Anchor} {f : Routine}

/-! ## The header, wherever the body starts -/

/-- A window into a text in which **anything is seen** starts inside the text. -/
theorem Text.exists_cut_of_window {s v : Text} {i k : Nat} (h : (s.drop i).take k = v)
    (hne : v ≠ []) : ∃ u w, s = u ++ (v ++ w) ∧ u.length = i := by
  subst h
  have hi : i ≤ s.length := by
    by_contra hlt
    rw [List.drop_eq_nil_of_le (by omega), List.take_nil] at hne
    exact hne rfl
  refine ⟨s.take i, (s.drop i).drop k, ?_, List.length_take_of_le hi⟩
  rw [List.take_append_drop, List.take_append_drop]

namespace Header

/-- The header found **stands in the source**, also for a body that starts outside the source. -/
theorem exists_cut_of_before {b : Int} {header : Header} (h : before source b = .ok header) :
    ∃ x y, source = x ++ (words header.name ++ y) ∧ IsName header.name ∧
      header.start = x.length := by
  rw [before] at h
  split at h
  · cases h
  · dsimp only at h
    split at h
    · cases h
    · next hit hfound =>
      obtain rfl := Except.ok.inj h
      obtain ⟨n, hstretch, hn, rfl, -⟩ := of_search?_eq_some hfound
      obtain ⟨u, w, hs, hu⟩ := Text.exists_cut_of_window hstretch (by simp [words])
      refine ⟨u ++ hit.before, w, by rw [hs]; simp, hn, ?_⟩
      dsimp only
      rw [List.length_append, hu, Hit.start]
      omega

/-- An end of a header **closes a parenthesis**. -/
theorem paren_mem_of_suffix (hw : w <:+ words n) (hne : w ≠ []) : ')' ∈ w := by
  have hcut : words n = (keyword ++ (n ++ ['('])) ++ [')'] := by simp [words]
  rw [hcut, List.suffix_concat_iff] at hw
  obtain ⟨u, rfl, -⟩ := hw.resolve_left hne
  simp

/-- A header that starts before an anchor **ends before it**: no header has a brace in it, and no
anchor a parenthesis. -/
theorem prefix_of_lt_anchor (hn : IsName n) (ht : IsAnchor t)
    (h : x ++ (words n ++ y) = x' ++ (t ++ y')) (hlt : x.length < x'.length) :
    x ++ words n <+: x' := by
  have hnot : ')' ∉ t := ht.notMem (by decide) (by decide) (by decide)
  obtain ⟨z, rfl, hz⟩ | ⟨z, rfl, -⟩ := List.append_eq_append_iff.1 h
  · obtain ⟨v, rfl, -⟩ | ⟨w, hw, hrest⟩ := List.append_eq_append_iff.1 hz
    · exact ⟨v, List.append_assoc ..⟩
    · -- what of the header is not before the anchor is the start of the anchor, or all of it
      by_cases hne : w = []
      · rw [hw, hne, List.append_nil]
      · have hparen := paren_mem_of_suffix ⟨z, hw.symm⟩ hne
        obtain hpre | ⟨v, rfl, -⟩ := Text.prefix_append_cases ⟨y, hrest.symm⟩
        · exact absurd (hpre.subset hparen) hnot
        · obtain ⟨u, rfl, -⟩ := ht.eq_append
          have hbrace : '}' ∉ words n := notMem_words hn (by decide) (by decide)
          exact absurd (by rw [hw]; simp) hbrace
  · rw [List.length_append] at hlt
    omega

end Header

/-! ## The function -/

namespace Routine

/-- What the header and the checks **vouch for**. -/
structure Guarded (source : Text) (anchor : Anchor) (f : Routine) : Prop where
  nonneg : 0 ≤ f.start
  start_lt : f.start < anchor.start
  anchor_lt : anchor.start < anchor.stop
  stop_le : anchor.stop ≤ f.stop
  code : f.code = source.slice f.start f.stop
  name : IsName f.name
  header : Header.words f.name <+: f.code
  balanced : f.code.count '{' = f.code.count '}'

theorem Guarded.start_le_stop (h : Guarded source anchor f) : f.start ≤ f.stop := by
  have := h.start_lt
  have := h.anchor_lt
  have := h.stop_le
  omega

/-- A word is in front of a part **that starts with it** and is long enough. -/
theorem prefix_slice {j : Int} (hj : ((x ++ w).length : Int) ≤ j) :
    w <+: (x ++ (w ++ y)).slice x.length j := by
  have hle : x.length ≤ (x ++ (w ++ y)).length := by simp
  have hstop := Text.clip_le_clip (n := (x ++ (w ++ y)).length) (Int.natCast_nonneg _) hj
  rw [Text.clip_of_le (by simp), List.length_append] at hstop
  rw [Text.slice, Text.clip_of_le hle, List.drop_left]
  exact List.prefix_take_iff.2 ⟨List.prefix_append w y, by omega⟩

/-- **A function that is found with any scanner** for braces is what the checks vouch for. -/
theorem guarded_of_enclosing {sc : Scanner} (hopening : sc.opening = ['{'])
    (hclosing : sc.closing = ['}']) (h : Anchor.locate Anchor.fields source = .ok anchor)
    (hf : enclosing source anchor sc = .ok f) : Guarded source anchor f := by
  obtain ⟨x', t, y', rfl, ht, -, rfl⟩ := Anchor.locate_eq_ok_iff.1 h
  obtain ⟨close, start, header, -, -, hheader, ⟨hlt, hle⟩, hbalance, rfl⟩ :=
    enclosing_eq_ok_iff.1 hf
  obtain ⟨x, y, hcut, hname, hstart⟩ := Header.exists_cut_of_before hheader
  have hpos := List.length_pos_iff.2 ht.ne_nil
  simp only [Anchor.ofText] at hlt hle
  have hbefore := Header.prefix_of_lt_anchor hname ht hcut.symm (by omega)
  constructor
  case nonneg | start_lt | anchor_lt | stop_le => simp only [Anchor.ofText]; omega
  case code => rfl
  case name => exact hname
  case header =>
    dsimp only
    rw [hcut, hstart]
    have := hbefore.length_le
    exact prefix_slice (by omega)
  case balanced =>
    rw [Scanner.balance, hopening, hclosing, balance, occurrences_singleton,
      occurrences_singleton] at hbalance
    dsimp only
    omega

end Routine

/-! ## The patch -/

namespace Patch

/-- **A patch of any function** with any names gives an outcome, and in it what stands before and
behind the function is kept. -/
theorem apply_frame (source : Text) (f : Routine) (aliases : Aliases)
    (report : Edit → List Notice) : ∃ r, (apply source f aliases report).result = .ok r ∧
      (r.content = source ∨
        ∃ code, r.content = source.sliceTo f.start ++ (code ++ source.sliceFrom f.stop)) := by
  cases hshape : aliases.shape with
  | target | unrecognized => exact ⟨_, by rw [apply, hshape]; rfl, .inl rfl⟩
  | legacy =>
    by_cases hroles : aliases.missingRoles = []
    · obtain ⟨hpath, hconverter⟩ := Aliases.missingRoles_eq_nil_iff.1 hroles
      obtain ⟨path, hpath⟩ := Option.isSome_iff_exists.1 hpath
      obtain ⟨converter, hconverter⟩ := Option.isSome_iff_exists.1 hconverter
      obtain ⟨code, -, happly⟩ := exists_pass_apply hshape hpath hconverter source report
      refine ⟨_, happly, ?_⟩
      split
      · exact .inl rfl
      · exact .inr ⟨code, rfl⟩
    · refine ⟨⟨source, .missingAliases, []⟩, ?_, .inl rfl⟩
      rw [apply, hshape]
      simp only [if_pos hroles]
      rfl

end Patch

/-- **Whatever a scanner for braces answers**, a function that is found with it is what the checks
vouch for, and a patch of it gives an outcome that keeps what stands before and behind it. -/
theorem Routine.enclosing_guarded {sc : Scanner} (hopening : sc.opening = ['{'])
    (hclosing : sc.closing = ['}']) (h : Anchor.locate Anchor.fields source = .ok anchor)
    (hf : enclosing source anchor sc = .ok f) : Guarded source anchor f ∧
      ∀ report, ∃ r code,
        (Patch.apply source f (Aliases.ofRoutine source f) report).result = .ok r ∧
          r.content = source.sliceTo f.start ++ (code ++ source.sliceFrom f.stop) := by
  have hguarded := guarded_of_enclosing hopening hclosing h hf
  refine ⟨hguarded, fun report => ?_⟩
  obtain ⟨r, hr, hcontent | ⟨code, hcontent⟩⟩ :=
    Patch.apply_frame source f (Aliases.ofRoutine source f) report
  · have hle := Text.clip_le_clip (n := source.length) hguarded.nonneg hguarded.start_le_stop
    refine ⟨r, f.code, hr, ?_⟩
    rw [hcontent, hguarded.code, Text.sliceTo_append_slice_append_sliceFrom hle]
  · exact ⟨r, code, hr, hcontent⟩

/-- The sample, as it is found with a closing brace **far behind the end** of the source. -/
def Patch.sampleBeyond : Routine :=
  { sampleRoutine with stop := 5001, code := sampleRoutine.code ++ "F()".toList }

theorem Routine.enclosing_guarded_sample :
    enclosing Patch.sampleSource (.ofText 109 Patch.sampleAnchor)
      { closingAt? := some 5000, openingAt? := some 48 } = .ok Patch.sampleBeyond ∧
    Guarded Patch.sampleSource (.ofText 109 Patch.sampleAnchor) Patch.sampleBeyond ∧
    ∃ r code, (Patch.apply Patch.sampleSource Patch.sampleBeyond
        (Aliases.ofRoutine Patch.sampleSource Patch.sampleBeyond) fun _ => []).result = .ok r ∧
      r.content = Patch.sampleSource.sliceTo 36 ++ code := by
  have hfound : enclosing Patch.sampleSource (.ofText 109 Patch.sampleAnchor)
      { closingAt? := some 5000, openingAt? := some 48 } = .ok Patch.sampleBeyond := by
    decide +kernel
  have hlocate := (Anchor.survey_eq_ok_iff_locate.1 Patch.survey_sampleSource).1
  obtain ⟨hguarded, hpatch⟩ := enclosing_guarded rfl rfl hlocate hfound
  obtain ⟨r, code, hr, hcontent⟩ := hpatch fun _ => []
  have hbehind : Patch.sampleSource.sliceFrom Patch.sampleBeyond.stop = [] := by decide +kernel
  rw [hbehind, List.append_nil] at hcontent
  exact ⟨hfound, hguarded, r, code, hr, hcontent⟩

end BundlePatch
