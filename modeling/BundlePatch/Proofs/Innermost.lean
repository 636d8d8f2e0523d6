import BundlePatch.Proofs.Enclosure

/-!
# Proofs/Innermost — the function around an anchor fills the innermost braces

A pair of braces **encloses** an anchor (`Encloses`) when the anchor stands between them and what
stands there is well nested.  Such pairs are nested into each other, and the search for a function,
forwards for the closing brace and backwards for the opening one, meets at the **innermost** of them
(`innermost_iff`).  So a function is found exactly when a header stands in front of that pair, and
its two last checks never fail (`Routine.enclosing_innermost`).
-/

namespace BundlePatch

variable {source t x y : Text} {anchor : Anchor} {o c o' c' : Nat} {f : Routine} {why : Fault}

/-! ## Pairs of braces around an anchor -/

/-- The braces at `o` and `c` **enclose** an anchor. -/
structure Encloses (source : Text) (anchor : Anchor) (o c : Nat) : Prop where
  before : (o : Int) < anchor.start
  behind : anchor.stop ≤ c
  opening : source[o]? = some '{'
  closing : source[c]? = some '}'
  nested : Nested '{' '}' (source.slice (o + 1 : Nat) c)

/-- …and no pair that does **opens later**. -/
structure Innermost (source : Text) (anchor : Anchor) (o c : Nat) : Prop
    extends Encloses source anchor o c where
  le : ∀ o' c', Encloses source anchor o' c' → o' ≤ o

/-- A text **cut at a character** that it holds. -/
theorem eq_append_of_getElem? {s : Text} {i : Nat} {d : Char} (h : s[i]? = some d) :
    ∃ u v, s = u ++ d :: v ∧ u.length = i := by
  obtain ⟨hi, rfl⟩ := List.getElem?_eq_some_iff.1 h
  exact ⟨s.take i, s.drop (i + 1), by simp, List.length_take_of_le (Nat.le_of_lt hi)⟩

/-- The braces at which a text **is cut**. -/
theorem encloses_cut_iff {u w r : Text} :
    Encloses (u ++ '{' :: (w ++ '}' :: r)) anchor u.length (u.length + 1 + w.length) ↔
      (u.length : Int) < anchor.start ∧ anchor.stop ≤ (u.length + 1 + w.length : Nat) ∧
        Nested '{' '}' w := by
  have hopening : (u ++ '{' :: (w ++ '}' :: r))[u.length]? = some '{' := by simp
  have hclosing : (u ++ '{' :: (w ++ '}' :: r))[u.length + 1 + w.length]? = some '}' := by
    rw [List.getElem?_append_right (by omega), Nat.add_assoc, Nat.add_sub_cancel_left,
      Nat.add_comm 1, List.getElem?_cons_succ]
    simp
  have hinside : (u ++ '{' :: (w ++ '}' :: r)).slice (u.length + 1 : Nat)
      (u.length + 1 + w.length : Nat) = w := by
    have hslice := Text.slice_middle (u ++ ['{']) w ('}' :: r)
    rwa [List.append_assoc, List.length_append] at hslice
  constructor
  · rintro ⟨hbefore, hbehind, -, -, hnested⟩
    exact ⟨hbefore, hbehind, hinside ▸ hnested⟩
  · rintro ⟨hbefore, hbehind, hnested⟩
    exact ⟨hbefore, hbehind, hopening, hclosing, hinside.symm ▸ hnested⟩

/-- Enclosing braces stand **before the anchor and behind it**. -/
theorem encloses_iff : Encloses (x ++ (t ++ y)) (.ofText x.length t) o c ↔
    ∃ u h k r, x = u ++ '{' :: h ∧ y = k ++ '}' :: r ∧ Nested '{' '}' (h ++ (t ++ k)) ∧
      o = u.length ∧ c = x.length + t.length + k.length := by
  have hsource : ∀ u h k r : Text, u ++ '{' :: h ++ (t ++ (k ++ '}' :: r)) =
      u ++ '{' :: (h ++ (t ++ k) ++ '}' :: r) := fun u h k r => by simp
  have hlength : ∀ u h k : Text, (u ++ '{' :: h).length + t.length + k.length =
      u.length + 1 + (h ++ (t ++ k)).length := fun u h k => by
    simp only [List.length_append, List.length_cons]
    omega
  constructor
  · intro hencloses
    obtain ⟨hbefore, hbehind, hopening, hclosing, -⟩ := id hencloses
    simp only [Anchor.ofText] at hbefore hbehind
    rw [List.getElem?_append_left (by omega)] at hopening
    rw [← List.append_assoc,
      List.getElem?_append_right (by rw [List.length_append]; omega)] at hclosing
    obtain ⟨u, h, rfl, rfl⟩ := eq_append_of_getElem? hopening
    obtain ⟨k, r, rfl, hk⟩ := eq_append_of_getElem? hclosing
    obtain rfl : c = (u ++ '{' :: h).length + t.length + k.length := by
      rw [List.length_append] at hk
      omega
    have hcut := hencloses
    rw [hsource, hlength, encloses_cut_iff] at hcut
    exact ⟨u, h, k, r, rfl, rfl, hcut.2.2, rfl, rfl⟩
  · rintro ⟨u, h, k, r, rfl, rfl, hnested, rfl, rfl⟩
    have hlen := hlength u h k
    rw [hsource, hlength, encloses_cut_iff]
    simp only [Anchor.ofText]
    refine ⟨?_, by omega, hnested⟩
    rw [List.length_append, List.length_cons]
    omega

/-! ## The innermost pair -/

/-- Where any braces enclose the anchor, some have a well nested text **on either side** of it. -/
theorem Encloses.exists_cut (ht : Nested '{' '}' t)
    (h : Encloses (x ++ (t ++ y)) (.ofText x.length t) o c) :
    ∃ u head tail trail, x = u ++ '{' :: head ∧ y = tail ++ '}' :: trail ∧
      Nested '{' '}' head ∧ Nested '{' '}' tail := by
  obtain ⟨u, v, k, r, rfl, rfl, hnested, -, -⟩ := encloses_iff.1 h
  have hpre := hnested.1 v (List.prefix_append v _)
  have htotal := hnested.2
  have hanchor := ht.2
  simp only [List.count_append] at htotal
  -- more is opened before the anchor than closed, and more closed behind it than opened
  obtain ⟨tail, r', hk, htail⟩ := @exists_nested_append '{' '}' (k ++ ['}']) (by decide) (by
    simp
    omega)
  obtain ⟨u', head, hv, hhead⟩ := @exists_append_nested '{' '}' ('{' :: v) (by decide) (by
    simp
    omega)
  refine ⟨u ++ u', head, tail, r' ++ r, by rw [hv, List.append_assoc], ?_, hhead, htail⟩
  rw [← List.cons_append, ← List.append_assoc, ← hk, List.append_assoc, List.singleton_append]

/-- **No enclosing pair opens behind** a brace with a well nested text up to the anchor. -/
theorem Encloses.le_of_cut {u head : Text} (hx : x = u ++ '{' :: head)
    (hhead : Nested '{' '}' head) (h : Encloses (x ++ (t ++ y)) (.ofText x.length t) o c) :
    o ≤ u.length := by
  obtain ⟨u', v, k, r, rfl, rfl, hnested, rfl, -⟩ := encloses_iff.1 h
  by_contra hlt
  -- the later brace would be left open before the anchor
  obtain ⟨w, rfl⟩ : ∃ w, head = w ++ '{' :: v := by
    rcases List.append_eq_append_iff.1 hx with ⟨z, rfl, -⟩ | ⟨z, rfl, hz⟩
    · simp at hlt
    · cases z with
      | nil => simp at hlt
      | cons d z => exact ⟨z, (List.cons.inj hz).2⟩
  have hpre := hhead.1 w (List.prefix_append w _)
  have htotal := hhead.2
  have hinside := hnested.1 v (List.prefix_append v _)
  simp at htotal
  omega

/-- **The innermost pair** is the one with a well nested text on either side of the anchor. -/
theorem innermost_iff (ht : Nested '{' '}' t) :
    Innermost (x ++ (t ++ y)) (.ofText x.length t) o c ↔
      ∃ u head tail trail, x = u ++ '{' :: head ∧ y = tail ++ '}' :: trail ∧
        Nested '{' '}' head ∧ Nested '{' '}' tail ∧ o = u.length ∧
        c = x.length + t.length + tail.length := by
  have hcut : ∀ {u head tail trail : Text}, x = u ++ '{' :: head → y = tail ++ '}' :: trail →
      Nested '{' '}' head → Nested '{' '}' tail →
      Encloses (x ++ (t ++ y)) (.ofText x.length t) u.length
        (x.length + t.length + tail.length) := fun hx hy hhead htail =>
    encloses_iff.2 ⟨_, _, _, _, hx, hy, hhead.append (by decide) (ht.append (by decide) htail),
      rfl, rfl⟩
  constructor
  · rintro ⟨hencloses, hle⟩
    obtain ⟨u, head, tail, trail, hx, hy, hhead, htail⟩ := hencloses.exists_cut ht
    have ho : o = u.length :=
      Nat.le_antisymm (hencloses.le_of_cut hx hhead) (hle _ _ (hcut hx hy hhead htail))
    refine ⟨u, head, tail, trail, hx, hy, hhead, htail, ho, ?_⟩
    -- the closing brace is the first one that is left over
    obtain ⟨u', v, k, r, hx', hy', hnested, ho', rfl⟩ := encloses_iff.1 hencloses
    obtain ⟨rfl, hv⟩ := List.append_inj (hx'.symm.trans hx) (ho'.symm.trans ho)
    obtain rfl := (List.cons.inj hv).2
    have hinside := hhead.append (by decide) (ht.append (by decide) htail)
    have hrest : (v ++ (t ++ k)) ++ '}' :: r = (v ++ (t ++ tail)) ++ '}' :: trail := by
      simp only [List.append_assoc]
      rw [← hy, ← hy']
    have hkt := (hnested.cut_unique (by decide) hinside hrest).1
    rw [List.append_cancel_left (List.append_cancel_left hkt)]
  · rintro ⟨u, head, tail, trail, hx, hy, hhead, htail, rfl, rfl⟩
    exact ⟨hcut hx hy hhead htail, fun _ _ h => h.le_of_cut hx hhead⟩

/-! ## The function around an anchor -/

/-- Braces enclose the anchor exactly when **both searches find** one. -/
theorem exists_encloses_iff (ht : Nested '{' '}' t) :
    (∃ o c, Encloses (x ++ (t ++ y)) (.ofText x.length t) o c) ↔
      ∃ close start, ({} : Scanner).findClosing (x ++ (t ++ y)) (x.length + t.length : Nat) =
        .ok close ∧ ({} : Scanner).findOpening (x ++ (t ++ y)) close = .ok start := by
  constructor
  · rintro ⟨o, c, h⟩
    obtain ⟨u, head, tail, trail, hx, hy, hhead, htail⟩ := h.exists_cut ht
    exact ⟨_, _, (Scanner.found_iff ht).2
      ⟨u, head, tail, trail, hx, hy, hhead, htail, rfl, rfl⟩⟩
  · rintro ⟨close, start, hfound⟩
    obtain ⟨u, head, tail, trail, hx, hy, hhead, htail, -⟩ := (Scanner.found_iff ht).1 hfound
    exact ⟨_, _, ((innermost_iff ht).2
      ⟨u, head, tail, trail, hx, hy, hhead, htail, rfl, rfl⟩).toEncloses⟩

namespace Routine

/-- Where no function is found, **no braces enclose the anchor**, or no header stands in front of
the innermost ones. -/
theorem enclosing_error (ht : IsAnchor t)
    (h : enclosing (x ++ (t ++ y)) (.ofText x.length t) {} = .error why) :
    (why = .headerMissing ∧ ∃ o c, Encloses (x ++ (t ++ y)) (.ofText x.length t) o c) ∨
      ((why = .closingMissing ∨ why = .openingMissing) ∧
        ¬ ∃ o c, Encloses (x ++ (t ++ y)) (.ofText x.length t) o c) := by
  have hstop : (Anchor.ofText x.length t).stop = ((x.length + t.length : Nat) : Int) := by
    simp [Anchor.ofText]
  have hsteps := h
  rw [exists_encloses_iff ht.nested]
  rw [enclosing, hstop] at hsteps
  obtain hclose | ⟨close, hclose, hrest⟩ := bind_eq_error_iff.1 hsteps
  · refine .inr ⟨.inl (Scanner.findClosing_error hclose), ?_⟩
    rintro ⟨close, start, hclose', -⟩
    cases hclose.symm.trans hclose'
  obtain hstart | ⟨start, hstart, hrest⟩ := bind_eq_error_iff.1 hrest
  · obtain ⟨c, rfl, hc⟩ := Scanner.exists_of_findClosing hclose
    refine .inr ⟨.inr (Scanner.findOpening_error hc hstart), ?_⟩
    rintro ⟨close, start, hclose', hstart'⟩
    obtain rfl := Except.ok.inj (hclose.symm.trans hclose')
    cases hstart.symm.trans hstart'
  obtain ⟨u, head, tail, trail, rfl, rfl, hhead, htail, rfl, -⟩ :=
    (Scanner.found_iff ht.nested).1 ⟨hclose, hstart⟩
  obtain hheader | ⟨header, hheader, -⟩ := bind_eq_error_iff.1 hrest
  · exact .inl ⟨Header.before_error (by simp) hheader, _, _, hclose, hstart⟩
  · -- the two checks at the end never fail
    obtain ⟨l, hl, hsource, hmark, -⟩ := exists_layout_of_header ht hhead htail hheader
    rw [← hsource, ← hmark, Layout.enclosing_source hl] at h
    cases h

/-- A function that is laid out, **by the positions of its braces**. -/
theorem routine_layout (l : Layout) {o c : Nat} (ho : o = (l.lead ++ Header.words l.name).length)
    (hc : c = l.front.length + l.anchor.length + l.tail.length) :
    l.routine = ⟨l.name, o - l.name.length - 11, c + 1, o,
      l.source.slice (o - l.name.length - 11) (c + 1)⟩ := by
  have hwords := Header.length_words l.name
  have hstart : (o : Int) - l.name.length - 11 = l.lead.length := by
    rw [List.length_append] at ho
    omega
  have hinner : l.inner.length = l.head.length + l.anchor.length + l.tail.length := by
    simp [Layout.inner]
    omega
  have hstop : (c : Int) + 1 = (l.lead.length + l.code.length : Nat) := by
    rw [Layout.length_front] at hc
    rw [Layout.stop_eq]
    omega
  have hcode : l.source.slice l.lead.length (l.lead.length + l.code.length : Nat) = l.code :=
    Text.slice_middle l.lead l.code l.trail
  rw [hstart, hstop, hcode, Layout.routine]
  simp [ho, Layout.bodyStart]

/-- A function that is found **fills the innermost braces**. -/
theorem exists_innermost (ht : IsAnchor t)
    (hf : enclosing (x ++ (t ++ y)) (.ofText x.length t) {} = .ok f) :
    ∃ o c lead name, Innermost (x ++ (t ++ y)) (.ofText x.length t) o c ∧
      (x ++ (t ++ y)).take o = lead ++ Header.words name ∧ IsName name ∧ name.length ≤ 89 ∧
      f = ⟨name, o - name.length - 11, c + 1, o,
        (x ++ (t ++ y)).slice (o - name.length - 11) (c + 1)⟩ := by
  obtain ⟨l, hl, hsource, rfl, hfront, rfl⟩ := exists_layout ht hf
  obtain rfl : x = l.front := hfront
  obtain rfl : y = l.rear := by
    rw [Layout.source_eq] at hsource
    exact (List.append_cancel_left (List.append_cancel_left hsource)).symm
  have hcut : l.front = (l.lead ++ Header.words l.name) ++ '{' :: l.head := by simp [Layout.front]
  refine ⟨_, _, l.lead, l.name, (innermost_iff ht.nested).2
    ⟨_, l.head, l.tail, l.trail, hcut, rfl, hl.head, hl.tail, rfl, rfl⟩, ?_, hl.name, hl.short,
    hsource ▸ routine_layout l rfl rfl⟩
  rw [hcut, List.append_assoc, List.take_left]

/-- The innermost braces with a header in front of them **are found**. -/
theorem enclosing_of_innermost {lead name : Text} (ht : IsAnchor t)
    (h : Innermost (x ++ (t ++ y)) (.ofText x.length t) o c)
    (htake : (x ++ (t ++ y)).take o = lead ++ Header.words name) (hname : IsName name)
    (hshort : name.length ≤ 89) : enclosing (x ++ (t ++ y)) (.ofText x.length t) {} =
      .ok ⟨name, o - name.length - 11, c + 1, o,
        (x ++ (t ++ y)).slice (o - name.length - 11) (c + 1)⟩ := by
  obtain ⟨u, head, tail, trail, rfl, rfl, hhead, htail, rfl, rfl⟩ := (innermost_iff ht.nested).1 h
  rw [List.append_assoc, List.take_left] at htake
  subst htake
  let l : Layout := ⟨lead, name, head, t, tail, trail⟩
  have hl : l.Sound := ⟨hname, hshort, hhead, ht, htail⟩
  have hfront : lead ++ Header.words name ++ '{' :: head = l.front := List.append_assoc ..
  have hmark : Anchor.ofText l.front.length t = l.mark := by rw [Layout.length_front, Layout.mark]
  have hsource : l.front ++ (t ++ (tail ++ '}' :: trail)) = l.source := l.source_eq.symm
  rw [hfront, hmark, hsource, Layout.enclosing_source hl, routine_layout l rfl rfl]

/-- **The function around the first anchor** fills the innermost braces that enclose it, with its
header in front of them.  When there is none, no braces enclose the anchor or their header is
missing. -/
theorem enclosing_innermost (h : Anchor.locate Anchor.fields source = .ok anchor) :
    (∀ f, enclosing source anchor {} = .ok f ↔ ∃ o c lead name, Innermost source anchor o c ∧
      source.take o = lead ++ Header.words name ∧ IsName name ∧ name.length ≤ 89 ∧
      f = ⟨name, o - name.length - 11, c + 1, o, source.slice (o - name.length - 11) (c + 1)⟩) ∧
    (∀ f, enclosing source anchor {} = .ok f → ({} : Scanner).balance f.code = 0) ∧
    ∀ why, enclosing source anchor {} = .error why →
      (why = .headerMissing ∧ ∃ o c, Encloses source anchor o c) ∨
        ((why = .closingMissing ∨ why = .openingMissing) ∧
          ¬ ∃ o c, Encloses source anchor o c) := by
  obtain ⟨x, t, y, rfl, ht, -, rfl⟩ := Anchor.locate_eq_ok_iff.1 h
  refine ⟨fun f => ⟨exists_innermost ht, ?_⟩, fun f hf => ?_, fun why hwhy =>
    enclosing_error ht hwhy⟩
  · rintro ⟨o, c, lead, name, hinnermost, htake, hname, hshort, rfl⟩
    exact enclosing_of_innermost ht hinnermost htake hname hshort
  · obtain ⟨l, hl, -, -, -, rfl⟩ := exists_layout ht hf
    exact Layout.balance_code hl

/-- A function **inside another one**, with one more pair of braces before its anchor. -/
def nested : Text :=
  ("function G()\x7bfunction F()\x7bif(a)\x7b\x7dreturn\x7binitialize:a,shutdown:b," ++
    "getServerForFile:c,ensureServerStarted:d,sendRequest:e,getAllServers:f,openFile:g," ++
    "changeFile:h,saveFile:i,closeFile:j,isFileOpen:k\x7d\x7d\x7d").toList

/-- Its anchor. -/
def nestedAnchor : Anchor := .ofText 33 ((nested.drop 33).take 162)

theorem enclosing_innermost_nested : Anchor.locate Anchor.fields nested = .ok nestedAnchor ∧
    Innermost nested nestedAnchor 25 195 := by
  have hlocate : Anchor.locate Anchor.fields nested = .ok nestedAnchor := by decide +kernel
  have hfound : enclosing nested nestedAnchor {} =
      .ok ⟨['F'], 13, 196, 25, (nested.drop 13).take 183⟩ := by decide +kernel
  obtain ⟨o, c, lead, name, hinnermost, -, -, -, hf⟩ := ((enclosing_innermost hlocate).1 _).1 hfound
  rw [Routine.mk.injEq] at hf
  obtain ⟨-, -, hstop, hstart, -⟩ := hf
  obtain rfl : o = 25 := by omega
  obtain rfl : c = 195 := by omega
  exact ⟨hlocate, hinnermost⟩

end Routine

end BundlePatch
