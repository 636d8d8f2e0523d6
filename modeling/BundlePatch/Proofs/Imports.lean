import BundlePatch.Proofs.AnchorGrammar
import BundlePatch.Proofs.LocalNames

/-!
# Proofs/Imports — which imports are seen, and which of them names the converter

Between the braces of an import anything may stand but a closing brace.  So a front `import {` that
is left open, say in a string, **runs on to the next closing brace** and takes in the import that
ends there.  An import is seen when none is left open before it (`Seen`), and the imports that are
seen are just those that the scan of a source meets (`Seen.exists_mem`, `seen_of_scan_eq`).

* `converter_sound` — the local name found is given by an import, and no import that stands alone
  and ends before that one gives any.
* `converter_complete` — a local name is found exactly when an import that is seen gives one, and
  always when an import gives one behind a comma; an import with just one part may go unseen
  (`not_converter_complete`).
-/

namespace BundlePatch

open Pattern

namespace UrlImport

variable {source x t body body' u v o part l : Text} {hit : Hit}

/-! ## The grammar -/

/-- The **front** of an import, up to its opening brace. -/
def IsFront (t : Text) : Prop := ∃ b, IsBlanks b ∧ t = "import".toList ++ (b ++ ['{'])

/-- The **rear** of an import, from its closing brace on.  The module stands between quotation marks
of either kind, with or without the prefix of what is built in. -/
def IsRear (t : Text) : Prop :=
  ∃ b b' mark node mark', IsBlanks b ∧ IsBlanks b' ∧ isQuote mark = true ∧
    (node = "node:".toList ∨ node = []) ∧ isQuote mark' = true ∧
    t = '}' :: (b ++ ("from".toList ++ (b' ++ mark :: (node ++ ("url".toList ++ [mark'])))))

/-- An **import of the `url` module** with this text between its braces. -/
def IsImport (body t : Text) : Prop :=
  ∃ front rear, IsFront front ∧ '}' ∉ body ∧ IsRear rear ∧ t = front ++ (body ++ rear)

theorem isImport_of_fits {parts : List Text} (h : Fits pattern parts []) :
    IsImport (parts.getD bodyIndex []) parts.flatten := by
  obtain ⟨b, body, b', b'', mark, node, mark', rfl, hb, hbody, hb', hb'', hmark, hnode, hmark'⟩ :=
    fits_pattern_iff.1 h
  exact ⟨_, _, ⟨b, hb, rfl⟩, hbody, ⟨b', b'', mark, node, mark', hb', hb'', hmark, hnode, hmark',
    rfl⟩, by simp [bodyIndex]⟩

theorem IsImport.spells (h : IsImport body t) : pattern.Spells t := by
  obtain ⟨_, _, ⟨b, hb, rfl⟩, hbody,
    ⟨b', b'', mark, node, mark', hb', hb'', hmark, hnode, hmark', rfl⟩, rfl⟩ := h
  exact ⟨_, by simp, fits_pattern_iff.2
    ⟨b, body, b', b'', mark, node, mark', rfl, hb, hbody, hb', hb'', hmark, hnode, hmark'⟩⟩

/-- An import of **just the converter**. -/
theorem isImport_importText {converter : Text} (hc : IsName converter) :
    IsImport (renamedPart converter) (importText converter) := by
  have hfront : IsFront ("import".toList ++ ['{']) := ⟨[], by simp [IsBlanks], rfl⟩
  have hrear : IsRear ('}' :: "from\"url\"".toList) :=
    ⟨[], [], '"', [], '"', by simp [IsBlanks], by simp [IsBlanks], by decide, .inr rfl, by decide,
      by decide⟩
  have hbrace := notMem_renamedPart hc (c := '}') (by decide) (by decide)
  exact ⟨_, _, hfront, hbrace, hrear, by rw [importText_eq]; simp⟩

/-! ## Where an import can start

An import starts with the letter `i`, and the front and the rear of another one hold no second one:
it starts between the braces, or outside. -/

theorem IsFront.eq_cons (h : IsFront o) : ∃ r, o = 'i' :: r ∧ 'i' ∉ r := by
  obtain ⟨b, hb, rfl⟩ := h
  have hb' : 'i' ∉ b := fun hm => absurd (hb _ hm) (by decide)
  have hword : "import".toList = 'i' :: "mport".toList := by decide
  refine ⟨"mport".toList ++ (b ++ ['{']), by rw [hword]; rfl, ?_⟩
  simp only [List.mem_append, not_or]
  exact ⟨by decide, hb', by decide⟩

theorem IsFront.notMem (h : IsFront o) : '}' ∉ o := by
  obtain ⟨b, hb, rfl⟩ := h
  have hb' : '}' ∉ b := fun hm => absurd (hb _ hm) (by decide)
  simp only [List.mem_append, not_or]
  exact ⟨by decide, hb', by decide⟩

/-- A front ends at the **first opening brace**. -/
theorem IsFront.cut_unique {o' : Text} (h : IsFront o) (h' : IsFront o') (heq : o ++ u = o' ++ v) :
    u = v := by
  obtain ⟨b, hb, rfl⟩ := h
  obtain ⟨b', hb', rfl⟩ := h'
  have hno : ∀ {b}, IsBlanks b → '{' ∉ b := fun hb hm => absurd (hb _ hm) (by decide)
  simp only [List.append_assoc, List.append_cancel_left_eq] at heq
  exact (Text.cut_unique (hno hb) (hno hb') heq).2

theorem IsRear.eq_cons (h : IsRear o) : ∃ r, o = '}' :: r ∧ 'i' ∉ r := by
  obtain ⟨b, b', mark, node, mark', hb, hb', hmark, hnode, hmark', rfl⟩ := h
  have hblank : ∀ {b}, IsBlanks b → 'i' ∉ b := fun hb hm => absurd (hb _ hm) (by decide)
  have hquote : ∀ {c}, isQuote c = true → 'i' ≠ c := by
    rintro c hc rfl
    exact absurd hc (by decide)
  have hnode' : 'i' ∉ node := by obtain rfl | rfl := hnode <;> decide
  refine ⟨_, rfl, ?_⟩
  simp only [List.mem_append, List.mem_cons, not_or]
  exact ⟨hblank hb, by decide, hblank hb', hquote hmark, hnode', by decide, hquote hmark', by simp⟩

namespace IsImport

/-- At one place **one text** stands between the braces. -/
theorem body_unique {t' : Text} (h : IsImport body t) (h' : IsImport body' t')
    (heq : t ++ u = t' ++ v) : body = body' := by
  obtain ⟨front, rear, hfront, hbody, hrear, rfl⟩ := h
  obtain ⟨front', rear', hfront', hbody', hrear', rfl⟩ := h'
  obtain ⟨r, rfl, -⟩ := hrear.eq_cons
  obtain ⟨r', rfl, -⟩ := hrear'.eq_cons
  simp only [List.append_assoc] at heq
  exact (Text.cut_unique hbody hbody' (hfront.cut_unique hfront' heq)).1

theorem eq_cons (h : IsImport body t) : ∃ r, t = 'i' :: r := by
  obtain ⟨front, rear, hfront, -, -, rfl⟩ := h
  obtain ⟨r, rfl, -⟩ := hfront.eq_cons
  exact ⟨_, rfl⟩

/-- A front **takes an import in** when no brace is closed between them. -/
theorem widen (h : IsImport body t) (ho : IsFront o) (hv : '}' ∉ v) :
    ∃ w, IsImport (w ++ body) (o ++ (v ++ t)) := by
  obtain ⟨front, rear, hfront, hbody, hrear, rfl⟩ := h
  refine ⟨v ++ front, o, rear, ho, ?_, hrear, by simp⟩
  simp only [List.mem_append, not_or]
  exact ⟨⟨hv, hfront.notMem⟩, hbody⟩

/-- Inside an import, another one can start **only between the braces**. -/
theorem exists_front {z r : Text} (h : IsImport body t) (ht : t = z ++ 'i' :: r) (hz : z ≠ []) :
    ∃ o v, IsFront o ∧ '}' ∉ v ∧ z = o ++ v := by
  obtain ⟨front, rear, hfront, hbody, hrear, rfl⟩ := h
  obtain ⟨q, hq, hiq⟩ := hrear.eq_cons
  have hrear' : 'i' ∉ rear := by simp [hq, hiq]
  obtain ⟨p, rfl, hp⟩ := hfront.eq_cons
  obtain ⟨d, z, rfl⟩ := List.exists_cons_of_ne_nil hz
  obtain ⟨rfl, hrest⟩ := List.cons.inj ht
  -- the letter stands behind the front and before the rear, which do not hold it
  obtain ⟨v, rfl, hv⟩ := Text.exists_of_notMem_left hrest hp
  obtain ⟨y, rfl, -⟩ := Text.exists_of_notMem_right hv.symm hrear'
  exact ⟨_, v, hfront, fun hm => hbody (List.mem_append_left _ hm), rfl⟩

end IsImport

/-! ## Imports that are seen -/

/-- **No import is left open** in a text: behind every front in it a brace is closed. -/
def NoneOpen (x : Text) : Prop := ∀ u o v, IsFront o → x = u ++ (o ++ v) → '}' ∈ v

/-- An import with this text between its braces **stands** in a source behind `x`. -/
def Stands (source x t body : Text) : Prop := IsImport body t ∧ x ++ t <+: source

/-- An import stands in a source behind `x` and is **seen** there. -/
def Seen (source x body : Text) : Prop := NoneOpen x ∧ ∃ t, Stands source x t body

theorem NoneOpen.of_append (h : NoneOpen (u ++ x)) : NoneOpen x := by
  intro w o v ho hx
  exact h (u ++ w) o v ho (by rw [hx, List.append_assoc])

/-- An import **closes** whatever is open before it. -/
theorem NoneOpen.append (h : NoneOpen x) (ht : IsImport body t) (u : Text) :
    NoneOpen (u ++ (t ++ x)) := by
  intro w o v ho hx
  obtain ⟨front, rear, -, -, hrear, rfl⟩ := ht
  obtain ⟨q, rfl, hq⟩ := hrear.eq_cons
  by_contra hv
  -- an open front would stand behind the closing brace, and so behind the rear
  have hov : '}' ∉ o ++ v := by simp [ho.notMem, hv]
  have hsplit : (u ++ (front ++ body)) ++ '}' :: (q ++ x) = w ++ (o ++ v) := by simpa using hx
  obtain ⟨y, rfl, hy⟩ := Text.exists_of_notMem_right hsplit hov
  obtain ⟨p, rfl, -⟩ := ho.eq_cons
  obtain ⟨y', rfl, rfl⟩ := Text.exists_of_notMem_left hy hq
  exact hv (h y' _ v ho rfl)

/-- An import that is not seen is **taken in by an earlier one**. -/
theorem Stands.widen (h : Stands source x t body) (hopen : ¬ NoneOpen x) :
    ∃ u v w, u.length < x.length ∧ x = u ++ v ∧ Stands source u (v ++ t) (w ++ body) := by
  simp only [NoneOpen, not_forall] at hopen
  obtain ⟨u, o, v, ho, rfl, hv⟩ := hopen
  obtain ⟨ht, y, hy⟩ := h
  obtain ⟨w, hw⟩ := ht.widen ho hv
  refine ⟨u, o ++ v, w, ?_, rfl, ?_, y, ?_⟩
  · obtain ⟨p, rfl, -⟩ := ho.eq_cons
    simp
  · rwa [List.append_assoc]
  · simpa using hy

/-! ## The scan meets the imports that are seen -/

/-- Before the first import found, **none is left open**: it would have been found first. -/
theorem seen_of_search? (h : search? pattern source = some hit) :
    Seen source hit.before (hit.part bodyIndex) := by
  obtain ⟨hs, -, hfits, hclear⟩ := search?_spec open_pattern h
  have hstands : Stands source hit.before hit.text (hit.part bodyIndex) :=
    ⟨isImport_of_fits hfits, hit.after, by rw [hs, List.append_assoc]⟩
  refine ⟨?_, hit.text, hstands⟩
  by_contra hopen
  obtain ⟨u, v, w, hlt, -, himport, y, hy⟩ := hstands.widen hopen
  have hle := hclear.length_le himport.spells (x := u) (y := y)
    (by rw [← hs, ← hy, List.append_assoc])
  omega

theorem seen_of_seen_after (h : search? pattern source = some hit) {y : Text}
    (hseen : Seen hit.after y body) : Seen source (hit.before ++ (hit.text ++ y)) body := by
  obtain ⟨hs, -, hfits, -⟩ := search?_spec open_pattern h
  obtain ⟨hnone, t, ht, z, hz⟩ := hseen
  refine ⟨hnone.append (isImport_of_fits hfits) _, t, ht, z, ?_⟩
  rw [hs, ← hz]
  simp

/-- An import that is seen is **the first one found, or stands behind it**. -/
theorem Seen.cases (hseen : Seen source x body) (h : search? pattern source = some hit) :
    x = hit.before ∧ body = hit.part bodyIndex ∨
      ∃ y, x = hit.before ++ (hit.text ++ y) ∧ Seen hit.after y body := by
  obtain ⟨rfl, -, hfits, hclear⟩ := search?_spec open_pattern h
  have hhit : IsImport (hit.part bodyIndex) hit.text := isImport_of_fits hfits
  obtain ⟨hnone, t, ht, y, hy⟩ := hseen
  rw [List.append_assoc] at hy
  obtain ⟨z, rfl⟩ : hit.before <+: x :=
    List.prefix_of_prefix_length_le (List.prefix_append _ _) (hy ▸ List.prefix_append _ _)
      (hclear.length_le ht.spells hy.symm)
  rw [List.append_assoc, List.append_cancel_left_eq] at hy
  have behind : ∀ w, z = hit.text ++ w → hit.after = w ++ (t ++ y) →
      ∃ w, hit.before ++ z = hit.before ++ (hit.text ++ w) ∧ Seen hit.after w body := by
    rintro w rfl hw
    exact ⟨w, rfl, hnone.of_append.of_append, t, ht, y, by rw [hw, List.append_assoc]⟩
  obtain ⟨r, hr, htr⟩ | ⟨w, hz, hw⟩ := List.append_eq_append_iff.1 hy
  · obtain rfl | hz := eq_or_ne z []
    · rw [List.nil_append] at hr
      exact .inl ⟨List.append_nil _, ht.body_unique hhit (hr ▸ htr)⟩
    · obtain ⟨p, rfl⟩ := ht.eq_cons
      cases r with
      | nil => exact .inr (behind [] (by simpa using hr.symm) htr.symm)
      | cons d r =>
        -- inside the first one found, it would not be seen
        obtain ⟨rfl, -⟩ := List.cons.inj htr
        obtain ⟨o, v, ho, hv, rfl⟩ := hhit.exists_front hr hz
        exact absurd (hnone _ o v ho rfl) hv
  · exact .inr (behind w hz hw)

theorem not_spells_nil : ¬ pattern.Spells [] := by
  intro h
  have hword := h.infix_of_word_mem (w := "url".toList) (by simp [pattern])
  exact absurd (List.infix_nil.1 hword) (by decide)

/-- An import that is seen is **met by the scan**. -/
theorem Seen.exists_mem (h : Seen source x body) :
    ∃ seg ∈ (scan pattern source).1, seg.part bodyIndex = body := by
  revert x
  refine scan_induction (motive := fun s segs _ => ∀ {x}, Seen s x body →
    ∃ seg ∈ segs, seg.part bodyIndex = body) open_pattern not_spells_nil ?_ ?_ source
  · rintro s hs x ⟨-, t, ht, hpre⟩
    refine absurd ?_ ((search?_eq_none_iff_forall open_pattern).1 hs t ht.spells)
    exact (List.suffix_append x t).isInfix.trans hpre.isInfix
  · intro s hit segs tail hs ih x hx
    obtain ⟨-, rfl⟩ | ⟨y, -, hy⟩ := hx.cases hs
    · exact ⟨_, List.mem_cons_self, rfl⟩
    · obtain ⟨seg, hmem, hseg⟩ := ih hy
      exact ⟨seg, List.mem_cons_of_mem _ hmem, hseg⟩

/-- What the scan meets **is seen**, and it has met before whatever is seen to the left of it. -/
theorem seen_of_scan_eq {before behind : List Segment} {seg : Segment}
    (h : (scan pattern source).1 = before ++ seg :: behind) :
    ∃ x, Seen source x (seg.part bodyIndex) ∧ ∀ x' body', Seen source x' body' →
      x'.length < x.length → ∃ seg' ∈ before, seg'.part bodyIndex = body' := by
  revert before
  refine scan_induction (motive := fun s segs _ => ∀ {before}, segs = before ++ seg :: behind →
    ∃ x, Seen s x (seg.part bodyIndex) ∧ ∀ x' body', Seen s x' body' → x'.length < x.length →
      ∃ seg' ∈ before, seg'.part bodyIndex = body') open_pattern not_spells_nil ?_ ?_ source
  · intro s hs before hnil
    simp at hnil
  · intro s hit segs tail hs ih before hcons
    cases before with
    | nil =>
      obtain ⟨rfl, -⟩ := List.cons.inj hcons
      refine ⟨hit.before, seen_of_search? hs, fun x' body' hx' hlt => ?_⟩
      obtain ⟨rfl, -⟩ | ⟨y, rfl, -⟩ := hx'.cases hs
      · exact absurd hlt (lt_irrefl _)
      · simp at hlt
    | cons first before =>
      obtain ⟨rfl, hsegs⟩ := List.cons.inj hcons
      obtain ⟨y, hy, hbefore⟩ := ih hsegs
      refine ⟨_, seen_of_seen_after hs hy, fun x' body' hx' hlt => ?_⟩
      obtain ⟨-, rfl⟩ | ⟨y', rfl, hy'⟩ := hx'.cases hs
      · exact ⟨_, List.mem_cons_self, rfl⟩
      · obtain ⟨seg', hmem, hseg'⟩ := hbefore y' body' hy' (by simpa using hlt)
        exact ⟨seg', List.mem_cons_of_mem _ hmem, hseg'⟩

/-- An import at the **very start** of a source counts first. -/
theorem converter?_of_stands_nil (h : Stands source [] t body) (hl : converterIn? body = some l) :
    converter? source = some l := by
  obtain ⟨ht, y, rfl⟩ := h
  obtain ⟨hit, hhit, -, hrest⟩ := @search?_eq_some_of_clear _ _ open_pattern [] y ht.spells trivial
  obtain ⟨-, htext, hfits, -⟩ := search?_spec open_pattern hhit
  have hbody : hit.part bodyIndex = body := (isImport_of_fits hfits).body_unique ht hrest
  have hne : hit.text ≠ [] := fun hnil => not_spells_nil (hnil ▸ htext)
  have hpart : (⟨hit.before, hit.parts⟩ : Segment).part bodyIndex = body := hbody
  rw [List.nil_append] at hhit
  rw [converter?, List.nil_append, scan_of_search?_eq_some hhit hne, List.findSome?_cons, hpart, hl]

theorem converter?_importText {converter : Text} (hc : IsName converter) (rest : Text) :
    converter? (importText converter ++ rest) = some converter :=
  converter?_of_stands_nil ⟨isImport_importText hc, List.prefix_append _ _⟩
    (converterIn?_renamedPart hc)

/-! ## The name found -/

/-- An import of a source **stands alone** there: no other one overlaps it. -/
def Alone (source x t : Text) : Prop :=
  ∀ x' t' body', Stands source x' t' body' → x'.length ≠ x.length →
    (x ++ t).length ≤ x'.length ∨ (x' ++ t').length ≤ x.length

theorem Stands.seen (h : Stands source x t body) (halone : Alone source x t) :
    Seen source x body := by
  refine ⟨?_, t, h⟩
  by_contra hopen
  obtain ⟨u, v, w, hlt, rfl, hstands⟩ := h.widen hopen
  have hapart := halone u _ _ hstands hlt.ne
  obtain ⟨r, rfl⟩ := h.1.eq_cons
  simp only [List.length_append, List.length_cons] at hapart hlt
  omega

/-- **The local name found is a name that an import gives the converter**, and no import that stands
alone and ends before that one gives it any. -/
theorem converter_sound (h : converter? source = some l) :
    IsName l ∧ ∃ x t body, Stands source x t body ∧ Names body l ∧
      ∀ x' t' body' l', Stands source x' t' body' → Alone source x' t' →
        (x' ++ t').length ≤ x.length → ¬ Names body' l' := by
  obtain ⟨before, seg, behind, hscan, hseg, hbefore⟩ := List.findSome?_eq_some_iff.1 h
  obtain ⟨x, ⟨-, t, hstands⟩, hfirst⟩ := seen_of_scan_eq hscan
  refine ⟨isName_of_converter? h, x, t, _, hstands, names_of_converterIn? hseg, ?_⟩
  intro x' t' body' l' hstands' halone hend
  have hlt : x'.length < x.length := by
    obtain ⟨r, rfl⟩ := hstands'.1.eq_cons
    simp only [List.length_append, List.length_cons] at hend
    omega
  obtain ⟨seg', hmem, rfl⟩ := hfirst x' body' (hstands'.seen halone) hlt
  exact converterIn?_eq_none_iff.1 (hbefore seg' hmem) l'

/-- An import of another module, one of another name, and one that gives the converter a name. -/
def sampleImports : Text :=
  ("import\x7bpathToFileURL as z\x7dfrom\"whatwg\";import \x7bfileURLToPath as F\x7d from\"url\";" ++
    "import\x7bx,\npathToFileURL  as q\x7dfrom\"node:url\";import\x7bpathToFileURL\x7dfrom\"url\"").toList

theorem converter_sound_sample : converter? sampleImports = some ['q'] ∧ IsName ['q'] ∧
    ∃ x t body, Stands sampleImports x t body ∧ Names body ['q'] := by
  have hfound : converter? sampleImports = some ['q'] := by decide +kernel
  obtain ⟨hname, x, t, body, hstands, hnames, -⟩ := converter_sound hfound
  exact ⟨hfound, hname, x, t, body, hstands, hnames⟩

/-! ## The imports that go unseen -/

theorem isSome_of_seen (h : Seen source x body) (hnames : Names body l) :
    (converter? source).isSome := by
  by_contra hnone
  rw [Option.not_isSome_iff_eq_none, converter?, List.findSome?_eq_none_iff] at hnone
  obtain ⟨seg, hmem, rfl⟩ := h.exists_mem
  exact converterIn?_eq_none_iff.1 (hnone seg hmem) l hnames

/-- What stands behind a comma of an import stands behind a comma of **one that is seen**: of itself,
or of the one that takes it in. -/
theorem exists_seen_of_stands (h : Stands source x t body) (hpart : part ∈ (body.pieces ',').tail) :
    ∃ y body', Seen source y body' ∧ part ∈ (body'.pieces ',').tail := by
  induction hn : x.length using Nat.strong_induction_on generalizing x t body with
  | _ n ih =>
    by_cases hnone : NoneOpen x
    · exact ⟨x, body, ⟨hnone, t, h⟩, hpart⟩
    · obtain ⟨u, v, w, hlt, -, hstands⟩ := h.widen hnone
      exact ih u.length (hn ▸ hlt) hstands (Text.mem_tail_pieces_append w hpart) rfl

/-- **A local name of the converter is found exactly when an import gives one before which none is
left open**; one that is given behind a comma is found in any case. -/
theorem converter_complete (source : Text) :
    ((converter? source).isSome ↔
        ∃ x t body l, NoneOpen x ∧ Stands source x t body ∧ Names body l) ∧
      ∀ x t body part l, Stands source x t body → part ∈ (body.pieces ',').tail →
        Binds part.trim Role.converter.name.toList l → (converter? source).isSome := by
  refine ⟨⟨fun h => ?_, ?_⟩, ?_⟩
  · obtain ⟨l, hl⟩ := Option.isSome_iff_exists.1 h
    obtain ⟨before, seg, behind, hscan, hseg, -⟩ := List.findSome?_eq_some_iff.1 hl
    obtain ⟨x, ⟨hnone, t, hstands⟩, -⟩ := seen_of_scan_eq hscan
    exact ⟨x, t, _, l, hnone, hstands, names_of_converterIn? hseg⟩
  · rintro ⟨x, t, body, l, hnone, hstands, hnames⟩
    exact isSome_of_seen ⟨hnone, t, hstands⟩ hnames
  · intro x t body part l hstands hpart hbinds
    obtain ⟨y, body', hseen, hmem⟩ := exists_seen_of_stands hstands hpart
    exact isSome_of_seen hseen ⟨part, List.mem_of_mem_tail hmem, hbinds⟩

/-- A string in which a front is **left open**. -/
def openFront : Text := "var s=\"import\x7b\";".toList

/-- An import of two names, the converter behind the comma. -/
def sampleTwo : Text := "import\x7bfileURLToPath as f, pathToFileURL as q\x7dfrom\"url\"".toList

theorem isImport_sampleTwo :
    IsImport "fileURLToPath as f, pathToFileURL as q".toList sampleTwo := by
  refine ⟨"import\x7b".toList, "\x7dfrom\"url\"".toList, ⟨[], by decide, by decide⟩, by decide, ?_,
    by decide⟩
  exact ⟨[], [], '"', [], '"', by decide, by decide, by decide, .inr rfl, by decide, by decide⟩

theorem converter_complete_sample :
    Stands (openFront ++ sampleTwo) openFront sampleTwo
        "fileURLToPath as f, pathToFileURL as q".toList ∧
      (converter? (openFront ++ sampleTwo)).isSome ∧
      ∃ x t body l, NoneOpen x ∧ Stands (openFront ++ sampleTwo) x t body ∧ Names body l := by
  have hstands : Stands (openFront ++ sampleTwo) openFront sampleTwo
      "fileURLToPath as f, pathToFileURL as q".toList := ⟨isImport_sampleTwo, List.prefix_rfl⟩
  have hpart : " pathToFileURL as q".toList ∈
      (Text.pieces ',' "fileURLToPath as f, pathToFileURL as q".toList).tail := by decide
  have hbinds : binding? " pathToFileURL as q".toList =
      some (Role.converter.name.toList, ['q']) := by decide +kernel
  have hsome := (converter_complete (openFront ++ sampleTwo)).2 _ _ _ _ _ hstands hpart
    (binding?_eq_some_iff.1 hbinds)
  exact ⟨hstands, hsome, (converter_complete _).1.1 hsome⟩

/-- **An import with just one part may go unseen**, though it has no brace between its braces: the
string before it takes it in. -/
theorem not_converter_complete : ¬ ∀ source x t body l, Stands source x t body → '{' ∉ body →
    Names body l → (converter? source).isSome := by
  intro h
  have hq : IsName ['q'] := by decide
  have hstands : Stands (openFront ++ importText ['q']) openFront (importText ['q'])
      (renamedPart ['q']) := ⟨isImport_importText hq, List.prefix_rfl⟩
  have hsome := h _ _ _ _ _ hstands (notMem_renamedPart hq (by decide) (by decide))
    (names_of_converterIn? (converterIn?_renamedPart hq))
  have hnone : converter? (openFront ++ importText ['q']) = none := by decide +kernel
  rw [hnone] at hsome
  cases hsome

end UrlImport

end BundlePatch
