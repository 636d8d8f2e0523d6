import BundlePatch.Proofs.DryRun

/-!
# Proofs/Previews — what a preview shows is there, or will be

A range cuts a text in three, and its **window** is the end of what stands before it, the range, and
the start of what stands behind it (`Text.window_cut`).  A replacement changes the middle only, so
the same two ends belong to the window of the new text around what was put in, and the two lines of
a preview show one window each (`Preview.showsWindows_ofRange`).  A patch prints the previews of its
edits in a row (`Patch.prints_ofSource`), and with a single edit the new text is **the text that it
returns** (`Preview.windows_spec`).
-/

namespace BundlePatch

/-! ## Windows -/

namespace Text

variable {s a b c x m y : Text} {i j : Int}

/-- The part of a text around a range, with so many **characters of context** on either side. -/
def window (s : Text) (start stop context : Int) : Text :=
  s.slice (max 0 (start - context)) (min s.length (stop + context))

/-- A part, by where it is **cut out**. -/
theorem slice_eq_middle (hs : s = a ++ (b ++ c)) (hi : i = a.length)
    (hj : j = a.length + b.length) : s.slice i j = b := by
  subst hs hi hj
  exact slice_middle a b c

/-- The window of the **middle** of a text. -/
theorem window_cut (context : Nat) :
    (x ++ (m ++ y)).window x.length (x.length + m.length : Nat) context =
      x.drop (x.length - context) ++ (m ++ y.take context) := by
  refine slice_eq_middle (a := x.take (x.length - context)) (c := y.drop context) ?_ ?_ ?_
  · simp only [List.append_assoc, List.take_append_drop]
    rw [← List.append_assoc (x.take _), List.take_append_drop]
  · rw [List.length_take]
    omega
  · simp only [List.length_append, List.length_take, List.length_drop]
    omega

end Text

/-! ## Colours -/

namespace Ink

/-- A text without its control sequences, read from **inside** one or outside. -/
def strip : Bool → Text → Text
  | _, [] => []
  | true, c :: s => strip (c != 'm') s
  | false, c :: s => if c = '\x1b' then strip true s else c :: strip false s

/-- A text **without its control sequences**, each of which lasts up to its first `m`. -/
def bare (s : String) : Text := strip false s.toList

theorem strip_of_notMem {t : Text} (h : '\x1b' ∉ t) (s : Text) :
    strip false (t ++ s) = t ++ strip false s := by
  induction t with
  | nil => rfl
  | cons c t ih =>
    rw [List.mem_cons, not_or] at h
    rw [List.cons_append, strip, if_neg (Ne.symm h.1), ih h.2, List.cons_append]

/-- What selects a look **is not seen**. -/
def Unseen (code : String) : Prop := ∀ s, strip false (code.toList ++ s) = strip false s

theorem unseen_plain : Unseen plain := fun _ => rfl

theorem unseen_red : Unseen red := fun _ => rfl

theorem unseen_green : Unseen green := fun _ => rfl

end Ink

/-! ## The lines of a preview -/

namespace Preview

variable {colour label : String} {s content content' new : Text} {start stop i n : Nat}

/-- A text **behind its label**, with `n` of its characters from `i` on in a colour. -/
def painted (colour label : String) (s : Text) (i n : Nat) : String :=
  colour ++ label ++ Ink.plain ++ " " ++ String.ofList (s.take i) ++ colour ++
    String.ofList ((s.drop i).take n) ++ Ink.plain ++ String.ofList (s.drop (i + n))

/-- Without the colours, there are **the label and the text**. -/
theorem bare_painted (hcolour : Ink.Unseen colour) (hlabel : '\x1b' ∉ label.toList)
    (hs : '\x1b' ∉ s) (i n : Nat) :
    Ink.bare (painted colour label s i n) = label.toList ++ ' ' :: s := by
  have hend : Ink.strip false (s.drop (i + n)) = s.drop (i + n) := by
    have := Ink.strip_of_notMem (fun h => hs (List.drop_subset _ _ h)) (t := s.drop (i + n)) []
    simpa [Ink.strip] using this
  have htake : '\x1b' ∉ s.take i := fun h => hs (List.take_subset _ _ h)
  have hmiddle : '\x1b' ∉ (s.drop i).take n := fun h =>
    hs (List.drop_subset _ _ (List.take_subset _ _ h))
  have hspace : '\x1b' ∉ " ".toList := by decide
  simp only [Ink.bare, painted, String.toList_append, String.toList_ofList, List.append_assoc]
  rw [hcolour, Ink.strip_of_notMem hlabel, Ink.unseen_plain, Ink.strip_of_notMem hspace,
    Ink.strip_of_notMem htake, hcolour, Ink.strip_of_notMem hmiddle, Ink.unseen_plain, hend,
    ← List.drop_drop, List.take_append_drop, List.take_append_drop]
  rfl

theorem shown_eq_painted (p : Preview) (colour label : String) (t : Text) :
    p.shown colour label t =
      painted colour label (p.before ++ (t ++ p.after)) p.before.length t.length := by
  simp [shown, painted]

/-- A line **shows a text** behind a label, with a part of it in a colour: the text is all that is
left when the colours and the label are taken away. -/
structure Shows (colour label : String) (s : Text) (i n : Nat) (line : String) : Prop where
  eq_painted : line = painted colour label s i n
  bare_eq : '\x1b' ∉ s → Ink.bare line = label.toList ++ ' ' :: s

/-- Lines of a preview that **show the windows** of two texts: of one around its range from `start`
to `stop`, and of the other around its range from `start` to `stop'`. -/
structure ShowsWindows (content content' : Text) (start stop stop' context : Nat)
    (lines : List String) : Prop where
  old : ∃ line ∈ lines[1]?, Shows Ink.red "[-] OLD:" (content.window start stop context)
    (min start context) (stop - start) line
  new : ∃ line ∈ lines[2]?, Shows Ink.green "[+] NEW:" (content'.window start stop' context)
    (min start context) (stop' - start) line

/-- A preview by **the three parts** of its text. -/
theorem ofRange_cut (title : String) (x m y new : Text) (context : Nat) :
    ofRange title (x ++ (m ++ y)) x.length (x.length + m.length : Nat) new context =
      ⟨title, x.drop (x.length - context), m, new, y.take context⟩ := by
  rw [ofRange, Preview.mk.injEq]
  refine ⟨rfl, Text.slice_eq_middle (a := x.take (x.length - context)) (c := m ++ y) ?_ ?_ ?_,
    Text.slice_middle x m y, rfl,
    Text.slice_eq_middle (a := x ++ m) (c := y.drop context) ?_ ?_ ?_⟩
  · rw [← List.append_assoc (x.take _), List.take_append_drop]
  · rw [List.length_take]
    omega
  · simp only [List.length_take, List.length_drop]
    omega
  · rw [List.take_append_drop, List.append_assoc]
  · simp
  · simp only [List.length_append, List.length_take]
    omega

/-- Whatever a line shows between them, **the two ends are those of a window**. -/
theorem shown_cut (title colour label : String) (x m y new t : Text) (context : Nat) :
    (ofRange title (x ++ (m ++ y)) x.length (x.length + m.length : Nat) new context).shown
        colour label t =
      painted colour label ((x ++ (t ++ y)).window x.length (x.length + t.length : Nat) context)
        (min x.length context) t.length := by
  have hlength : (x.drop (x.length - context)).length = min x.length context := by
    rw [List.length_drop]
    omega
  rw [shown_eq_painted, ofRange_cut, Text.window_cut]
  dsimp only
  rw [hlength]

/-- The two lines of a preview, **by the parts** of the text. -/
theorem showsWindows_cut (title : String) (x m y new : Text) (context : Nat) :
    ShowsWindows (x ++ (m ++ y)) (x ++ (new ++ y)) x.length (x.length + m.length)
      (x.length + new.length) context
      (ofRange title (x ++ (m ++ y)) x.length (x.length + m.length : Nat) new context).lines := by
  have hold : (ofRange title (x ++ (m ++ y)) x.length (x.length + m.length : Nat) new
      context).old = m := by rw [ofRange_cut]
  have hfirst := shown_cut title Ink.red "[-] OLD:" x m y new m context
  have hsecond := shown_cut title Ink.green "[+] NEW:" x m y new new context
  constructor
  case old =>
    refine ⟨_, rfl, ?_, fun hs => ?_⟩
    · rw [hold, hfirst, Nat.add_sub_cancel_left]
    · rw [hold, hfirst, bare_painted Ink.unseen_red (by decide) hs]
  case new =>
    refine ⟨_, rfl, hsecond.trans ?_, fun hs => ?_⟩
    · rw [Nat.add_sub_cancel_left]
    · rw [← bare_painted Ink.unseen_green (by decide) hs, ← hsecond]
      rfl

/-- **The lines of a preview show windows**: of a text, and of the text with the range replaced. -/
theorem showsWindows_ofRange (title : String) (hstart : start ≤ stop)
    (hstop : stop ≤ content.length) (new : Text) (context : Nat) :
    ShowsWindows content (content.sliceTo start ++ (new ++ content.sliceFrom stop)) start stop
      (start + new.length) context (ofRange title content start stop new context).lines := by
  have hclips : Text.clip content.length start ≤ Text.clip content.length stop :=
    Text.clip_le_clip (Int.natCast_nonneg start) (Int.ofNat_le.2 hstart)
  have hcut := Text.sliceTo_append_slice_append_sliceFrom hclips
  have hlength : (content.sliceTo start).length = start := by
    rw [Text.sliceTo_of_le (hstart.trans hstop), List.length_take_of_le (hstart.trans hstop)]
  have hmiddle : (content.slice start stop).length = stop - start := by
    rw [Text.length_slice, Text.clip_of_le hstop, Text.clip_of_le (hstart.trans hstop)]
  have h := showsWindows_cut title (content.sliceTo start) (content.slice start stop)
    (content.sliceFrom stop) new context
  rwa [hcut, hlength, hmiddle, Nat.add_sub_cancel' hstart] at h

end Preview

/-! ## What a patch prints -/

namespace Spoken

variable {ε α β : Type} {x : Spoken ε α} {f : α → Spoken ε β} {ns : α → List Notice}
  {ms : β → List Notice}

/-- A computation that succeeds **says these notices in a row**. -/
def Prints (ns : α → List Notice) (x : Spoken ε α) : Prop :=
  ∀ a, x.result = .ok a → ns a <:+: x.said

theorem prints_say (n : Notice) (notices : List Notice) :
    Prints (fun _ => notices) (say (n :: notices) : Spoken ε Unit) :=
  fun _ _ => (List.suffix_cons n notices).isInfix

theorem said_bind_of_result {b : β} (h : (x >>= f).result = .ok b) :
    ∃ a, x.result = .ok a ∧ (f a).result = .ok b ∧ (x >>= f).said = x.said ++ (f a).said := by
  rw [result_bind] at h
  obtain ⟨a, ha, hb⟩ := bind_eq_ok_iff.1 h
  refine ⟨a, ha, hb, ?_⟩
  rw [said_bind, ha]

theorem Prints.bind (hf : ∀ a, Prints ms (f a)) : Prints ms (x >>= f) := by
  intro b hb
  obtain ⟨a, -, hfa, hsaid⟩ := said_bind_of_result hb
  rw [hsaid]
  exact (hf a b hfa).trans (List.suffix_append _ _).isInfix

/-- What is said first **stays said**. -/
theorem Prints.bind_left (hx : Prints ns x) (hf : ∀ a b, (f a).result = .ok b → ms b = ns a) :
    Prints ms (x >>= f) := by
  intro b hb
  obtain ⟨a, ha, hfa, hsaid⟩ := said_bind_of_result hb
  rw [hsaid, hf a b hfa]
  exact (hx a ha).trans (List.prefix_append _ _).isInfix

end Spoken

namespace Patch

open Spoken

variable {source : Text} {context : Nat} {r : Outcome} {report : Edit → List Notice}

/-- A patch prints **the report of each edit**. -/
theorem prints_apply (source : Text) (f : Routine) (aliases : Aliases)
    (report : Edit → List Notice) :
    Prints (fun r => r.edits.flatMap report) (apply source f aliases report) := by
  have hnone : ∀ (notices : List Notice) (status : Status),
      Prints (fun r : Outcome => r.edits.flatMap report)
        ((say notices : Spoken Fault Unit) >>= fun _ => Pure.pure ⟨source, status, []⟩) := by
    intro notices status r hr
    obtain rfl := Except.ok.inj hr
    exact List.nil_infix
  rw [apply]
  split
  next => exact hnone _ _
  next => exact hnone _ _
  next =>
    split
    next => exact hnone _ _
    next =>
      split
      next => exact hnone _ _
      next =>
        refine (prints_say _ ((Edit.plan f aliases).flatMap report)).bind_left fun _ r hr => ?_
        simp only [result_bind, result_silent] at hr
        obtain ⟨code, -, hr⟩ := bind_eq_ok_iff.1 hr
        obtain rfl := Except.ok.inj hr
        rfl

/-- …and so does one of a whole source, **with the previews** for reports. -/
theorem prints_ofSource (source : Text) (context : Int) :
    Prints (fun r => r.edits.flatMap fun e => (e.preview source context).notices)
      (ofSource source context) := by
  rw [ofSource]
  refine Prints.bind fun _ => Prints.bind fun found => Prints.bind fun _ =>
    Prints.bind fun routine => Prints.bind fun _ => Prints.bind fun _ => Prints.bind fun _ =>
    Prints.bind fun _ => Prints.bind_left (prints_apply source routine _ _) fun r r' hr => ?_
  obtain rfl := Except.ok.inj hr
  rfl

/-- A single edit **cuts the source and the result** alike. -/
theorem exists_cut_of_edits {e : Edit} (h : (ofSource source context).result = .ok r)
    (he : r.edits = [e]) : ∃ x y, source = x ++ (e.old ++ y) ∧ r.content = x ++ (e.new ++ y) ∧
      e.start = x.length ∧ e.stop = (x.length + e.old.length : Nat) := by
  obtain ⟨-, hnil, -⟩ | ⟨-, anchor, total, f, path, converter, -, -, -, -, hsurgical⟩ :=
    ofSource_surgical h
  · rw [he] at hnil
    cases hnil
  · have hturns := hsurgical.turns
    rw [he] at hturns
    generalize r.content = content at hturns
    cases hturns with
    | edit hstart hstop hrest =>
      cases hrest
      exact ⟨_, _, rfl, rfl, by omega, by omega⟩

end Patch

/-- **Previews are truthful.**  The lines of a preview show the window of the text around the range,
and the window, around what is put in, of the text with the range replaced.  A patch with a single
edit prints one preview, and what that shows as new is the window of the text that the patch
returns. -/
theorem Preview.windows_spec :
    (∀ (title : String) (content new : Text) (start stop context : Nat), start ≤ stop →
      stop ≤ content.length →
      ShowsWindows content (content.sliceTo start ++ (new ++ content.sliceFrom stop)) start stop
        (start + new.length) context (ofRange title content start stop new context).lines) ∧
    ∀ (source : Text) (context : Nat) (r : Patch.Outcome),
      (Patch.ofSource source context).result = .ok r → r.applied = 1 →
      ∃ (e : Edit) (start stop : Nat), r.edits = [e] ∧ e.start = start ∧ e.stop = stop ∧
        r.content.slice start (start + e.new.length : Nat) = e.new ∧
        (e.preview source context).notices <:+: (Patch.ofSource source context).said ∧
        ShowsWindows source r.content start stop (start + e.new.length) context
          (e.preview source context).lines := by
  refine ⟨fun title content new start stop context hstart hstop =>
    showsWindows_ofRange title hstart hstop new context, fun source context r hr happlied => ?_⟩
  obtain ⟨e, he⟩ : ∃ e, r.edits = [e] := by
    rw [Patch.Outcome.applied] at happlied
    split at happlied
    · exact List.length_eq_one_iff.1 happlied
    · cases happlied
  obtain ⟨x, y, rfl, hcontent, hstart, hstop⟩ := Patch.exists_cut_of_edits hr he
  have hprints := Patch.prints_ofSource _ context r hr
  have hshows := showsWindows_cut e.title x e.old y e.new context
  dsimp only at hprints
  rw [he, List.flatMap_singleton] at hprints
  refine ⟨e, _, _, he, hstart, hstop, ?_, hprints, ?_⟩
  · rw [hcontent, Text.slice_middle]
  · rw [hcontent, Edit.preview, hstart, hstop]
    exact hshows

/-- A preview of a range that **leaves no room for context**, and that of a patch. -/
theorem Preview.windows_spec_sample :
    ShowsWindows "xy".toList "z".toList 0 2 1 80
      (ofRange "Edge" "xy".toList 0 2 "z".toList 80).lines ∧
    (Patch.ofSource Patch.sampleSource (2 : Nat)).result = .ok Patch.sampleOutcome ∧
    ∃ e start stop, Patch.sampleOutcome.edits = [e] ∧
      ShowsWindows Patch.sampleSource Patch.sampleOutcome.content start stop
        (start + e.new.length) 2 (e.preview Patch.sampleSource (2 : Nat)).lines := by
  obtain ⟨hlines, hpatch⟩ := windows_spec
  have hresult := Patch.ofSource_of_context Patch.ofSource_sampleSource (2 : Nat)
  obtain ⟨e, start, stop, he, -, -, -, -, hshows⟩ :=
    hpatch Patch.sampleSource 2 Patch.sampleOutcome hresult rfl
  exact ⟨hlines "Edge" "xy".toList "z".toList 0 2 80 (by decide) (by decide), hresult, e, start,
    stop, he, hshows⟩

end BundlePatch
