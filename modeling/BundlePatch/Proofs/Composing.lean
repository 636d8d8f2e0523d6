import BundlePatch.Proofs.Pass
import Mathlib.Data.List.Chain
import Mathlib.Data.List.Nodup

/-!
# Proofs/Composing — what any list of edits makes of a function

`Edit.compose` takes the edits by position and goes over the text once.  For edits at different
places inside the function this is the same as **replacing one range at a time, from the last to
the first** (`compose_eq_replaceAll`), and it goes through exactly if the ranges lie apart and hold
their old texts; the order in which the edits are given does not matter.

Of edits whatever, `length_compose` says **how long the result is**: nothing of the text is lost,
and nothing is doubled as long as the ends of the ranges, one after the other, do not go back.
-/

namespace BundlePatch

namespace Edit

variable {routine : Routine} {cursor : Int} {e : Edit} {edits edits' : List Edit} {t u rest : Text}
  {why : Fault}

/-! ## The order of the edits -/

theorem pairwise_mergeSort (edits : List Edit) :
    (edits.mergeSort startsBy).Pairwise fun a b => a.start ≤ b.start := by
  have htrans : ∀ a b c, startsBy a b = true → startsBy b c = true → startsBy a c = true := by
    simp only [startsBy, decide_eq_true_eq]
    intro a b c
    exact Int.le_trans
  have htotal : ∀ a b, (startsBy a b || startsBy b a) = true := by
    simp only [startsBy, Bool.or_eq_true, decide_eq_true_eq]
    intro a b
    exact Int.le_total a.start b.start
  exact (List.pairwise_mergeSort htrans htotal edits).imp of_decide_eq_true

/-- Edits at different places have **one order**. -/
theorem mergeSort_eq_of_perm (h : edits'.Perm edits) (hstarts : (edits.map Edit.start).Nodup) :
    edits'.mergeSort startsBy = edits.mergeSort startsBy := by
  have hmem := (edits'.mergeSort_perm startsBy).trans h
  have hmem' := edits.mergeSort_perm startsBy
  refine (hmem.trans hmem'.symm).eq_of_pairwise (fun a b ha hb hab hba => ?_)
    (pairwise_mergeSort edits') (pairwise_mergeSort edits)
  exact List.inj_on_of_nodup_map hstarts (hmem.mem_iff.1 ha) (hmem'.mem_iff.1 hb)
    (Int.le_antisymm hab hba)

/-- …in which **each starts behind** the one before. -/
theorem pairwise_lt_mergeSort (hstarts : (edits.map Edit.start).Nodup) :
    (edits.mergeSort startsBy).Pairwise fun a b => a.start < b.start := by
  have hnodup := ((edits.mergeSort_perm startsBy).map Edit.start).nodup_iff.2 hstarts
  have hne : (edits.mergeSort startsBy).Pairwise fun a b => a.start ≠ b.start :=
    List.pairwise_map.1 hnodup
  exact ((pairwise_mergeSort edits).and hne).imp fun ⟨hle, hne⟩ => Int.lt_iff_le_and_ne.2 ⟨hle, hne⟩

/-! ## One pass, and one replacement at a time -/

/-- A range **inside a function**; it may be empty, and lie at either end. -/
structure Within (routine : Routine) (e : Edit) : Prop where
  lower : routine.start ≤ e.start
  ordered : e.start ≤ e.stop
  upper : e.stop ≤ routine.start + routine.code.length

/-- Two ranges are **apart**: one stops where the other starts, or before.  An empty range between
the ends of another is not apart from it. -/
def Apart (a b : Edit) : Prop := a.stop ≤ b.start ∨ b.stop ≤ a.start

instance (routine : Routine) (e : Edit) : Decidable (Within routine e) :=
  decidable_of_iff (routine.start ≤ e.start ∧ e.start ≤ e.stop ∧
      e.stop ≤ routine.start + routine.code.length)
    ⟨fun h => ⟨h.1, h.2.1, h.2.2⟩, fun h => ⟨h.lower, h.ordered, h.upper⟩⟩

instance (a b : Edit) : Decidable (Apart a b) := inferInstanceAs (Decidable (_ ∨ _))

theorem Apart.symm {a b : Edit} (h : Apart a b) : Apart b a := Or.symm h

/-- Puts the new text of an edit **in the place of its range**, in a text that is still that of the
function up to where the range stops. -/
def replace (routine : Routine) (code : Text) (e : Edit) : Text :=
  code.sliceTo (e.start - routine.start) ++ (e.new ++ code.sliceFrom (e.stop - routine.start))

/-- The text of a function after **one replacement at a time, from the last range to the first**:
what a replacement moves lies behind all that are still to come. -/
def replaceAll (routine : Routine) (edits : List Edit) : Text :=
  (edits.mergeSort startsBy).reverse.foldl (replace routine) routine.code

/-- Of edits in order, ranges that lie apart **lie one behind the other**. -/
theorem pairwise_apart_iff (h : edits.Pairwise fun a b => a.start < b.start)
    (hordered : ∀ e ∈ edits, e.start ≤ e.stop) :
    edits.Pairwise Apart ↔ edits.Pairwise fun a b => a.stop ≤ b.start := by
  refine ⟨fun hapart => (h.and hapart).imp_of_mem fun {a b} _ hb hab => ?_,
    fun hbehind => hbehind.imp Or.inl⟩
  have := hordered b hb
  obtain ⟨hlt, hle | hle⟩ := hab
  · exact hle
  · omega

/-- What does not go through is **one of the edits**. -/
theorem splice_error (h : splice routine cursor edits = .error why) :
    ∃ e ∈ edits, why = .staleEdit e.start := by
  induction edits generalizing cursor with
  | nil => cases h
  | cons e edits ih =>
    rw [splice] at h
    split at h
    · exact ⟨e, List.mem_cons_self, (Except.error.inj h).symm⟩
    · cases hrest : splice routine (e.stop - routine.start) edits with
      | ok rest => rw [hrest] at h; cases h
      | error why' =>
        rw [hrest] at h
        obtain rfl := Except.error.inj h
        obtain ⟨d, hd, hwhy⟩ := ih hrest
        exact ⟨d, List.mem_cons_of_mem e hd, hwhy⟩

/-- A pass goes through exactly if the ranges **lie one behind the other, behind the cursor**, and
hold their old texts. -/
theorem exists_splice_iff (hordered : ∀ e ∈ edits, e.start ≤ e.stop) :
    (∃ t, splice routine cursor edits = .ok t) ↔
      (∀ e ∈ edits, cursor ≤ e.start - routine.start) ∧
        (edits.Pairwise fun a b => a.stop ≤ b.start) ∧
          ∀ e ∈ edits, standing routine e = e.old := by
  induction edits generalizing cursor with
  | nil => simp [splice]
  | cons e edits ih =>
    obtain ⟨hrange, hordered⟩ := List.forall_mem_cons.1 hordered
    have hrest := @ih (e.stop - routine.start) hordered
    simp only [splice_cons_eq_ok_iff, List.pairwise_cons, List.forall_mem_cons]
    constructor
    · rintro ⟨-, hcursor, hold, rest, hok, -⟩
      obtain ⟨hbehind, hapart, hstanding⟩ := hrest.1 ⟨rest, hok⟩
      refine ⟨⟨hcursor, fun d hd => ?_⟩, ⟨fun d hd => ?_, hapart⟩, hold, hstanding⟩ <;>
        have := hbehind d hd <;> omega
    · rintro ⟨⟨hcursor, -⟩, ⟨hbehind, hapart⟩, hold, hstanding⟩
      obtain ⟨rest, hok⟩ := hrest.2
        ⟨fun d hd => by have := hbehind d hd; omega, hapart, hstanding⟩
      exact ⟨_, hcursor, hold, rest, hok, rfl⟩

/-- A replacement **keeps what comes behind** its range. -/
theorem replace_append {i j : Nat} (hstart : e.start - routine.start = i)
    (hstop : e.stop - routine.start = j) (hij : i ≤ j) (hu : u.length = j) :
    replace routine (u ++ rest) e = u.take i ++ (e.new ++ rest) := by
  have hlength : j ≤ (u ++ rest).length := by simp [hu]
  rw [replace, hstart, hstop, Text.sliceTo_of_le (hij.trans hlength), Text.sliceFrom_of_le hlength,
    List.take_append_of_le_length (hu ▸ hij), List.drop_left' hu]

/-- A pass from the cursor on gives what the replacements give, **from the last to the first**,
behind the text up to the cursor: that is the part which none of them has moved. -/
theorem foldr_replace {n : Nat} (h : splice routine n edits = .ok t)
    (hwithin : ∀ e ∈ edits, Within routine e) (hn : n ≤ routine.code.length) :
    edits.foldr (fun e code => replace routine code e) routine.code = routine.code.take n ++ t := by
  induction edits generalizing n t with
  | nil =>
    obtain rfl := Except.ok.inj h
    rw [Text.sliceFrom_of_le hn, List.take_append_drop, List.foldr_nil]
  | cons e edits ih =>
    obtain ⟨⟨hlower, hordered, hupper⟩, hwithin⟩ := List.forall_mem_cons.1 hwithin
    obtain ⟨hstart, -, rest, hrest, rfl⟩ := splice_cons_eq_ok_iff.1 h
    obtain ⟨i, hi⟩ : ∃ i : Nat, e.start - routine.start = i :=
      ⟨_, (Int.toNat_of_nonneg (by omega)).symm⟩
    obtain ⟨j, hj⟩ : ∃ j : Nat, e.stop - routine.start = j :=
      ⟨_, (Int.toNat_of_nonneg (by omega)).symm⟩
    rw [hi] at hstart ⊢
    rw [hj] at hrest
    have hni : n ≤ i := Int.ofNat_le.1 hstart
    have hkept : routine.code.take n ++ routine.code.slice n i = routine.code.take i := by
      rw [Text.slice_of_le hni (by omega), ← List.take_add, Nat.add_sub_cancel' hni]
    rw [List.foldr_cons, ih hrest hwithin (by omega),
      replace_append hi hj (by omega) (List.length_take_of_le (by omega)), List.take_take,
      Nat.min_eq_left (by omega), ← hkept, List.append_assoc]

section Inside

variable (hstarts : (edits.map Edit.start).Nodup) (hwithin : ∀ e ∈ edits, Within routine e)

include hwithin

theorem within_mergeSort : ∀ e ∈ edits.mergeSort startsBy, Within routine e := by
  intro e he
  exact hwithin e ((edits.mergeSort_perm startsBy).mem_iff.1 he)

theorem eq_replaceAll_of_compose (h : compose routine edits = .ok t) :
    t = replaceAll routine edits := by
  have hfold := foldr_replace (n := 0) h (within_mergeSort hwithin) (Nat.zero_le _)
  rw [replaceAll, List.foldl_reverse, hfold, List.take_zero, List.nil_append]

include hstarts

theorem exists_compose_iff : (∃ t, compose routine edits = .ok t) ↔
    edits.Pairwise Apart ∧ ∀ e ∈ edits, standing routine e = e.old := by
  have hmem := edits.mergeSort_perm startsBy
  have hordered : ∀ e ∈ edits.mergeSort startsBy, e.start ≤ e.stop :=
    fun e he => (within_mergeSort hwithin e he).ordered
  rw [compose, exists_splice_iff hordered,
    ← pairwise_apart_iff (pairwise_lt_mergeSort hstarts) hordered, hmem.pairwise_iff Apart.symm]
  simp only [hmem.mem_iff]
  exact and_iff_right fun e he => Int.sub_nonneg.2 (hwithin e he).lower

end Inside

/-- **Composing edits at different places inside a function** goes through exactly if their ranges
lie apart and hold their old texts, gives what replacing them one at a time gives, and does not
depend on the order of the list; what does not go through is one of the edits. -/
theorem compose_eq_replaceAll (hstarts : (edits.map Edit.start).Nodup)
    (hwithin : ∀ e ∈ edits, Within routine e) :
    ((∃ t, compose routine edits = .ok t) ↔
        edits.Pairwise Apart ∧ ∀ e ∈ edits, standing routine e = e.old) ∧
      (∀ t, compose routine edits = .ok t → t = replaceAll routine edits) ∧
      (∀ why, compose routine edits = .error why → ∃ e ∈ edits, why = .staleEdit e.start) ∧
      ∀ edits' : List Edit, edits'.Perm edits → compose routine edits' = compose routine edits := by
  refine ⟨exists_compose_iff hstarts hwithin, fun t => eq_replaceAll_of_compose hwithin,
    fun why h => ?_, fun edits' h => ?_⟩
  · obtain ⟨e, he, hwhy⟩ := splice_error h
    exact ⟨e, (edits.mergeSort_perm startsBy).mem_iff.1 he, hwhy⟩
  · rw [compose, compose, mergeSort_eq_of_perm h hstarts]

/-- A function of eight characters, from position 5 on. -/
def sampleEight : Routine where
  name := ['F']
  start := 5
  stop := 13
  bodyStart := 5
  code := "abcdefgh".toList

/-- Edits **in order**: two that touch, one that puts something in, one at either end. -/
def sampleEdits : List Edit :=
  [⟨5, 7, "ab".toList, ['X'], []⟩, ⟨7, 8, ['c'], [], []⟩, ⟨9, 9, [], ['+'], []⟩,
    ⟨12, 13, ['h'], "YZ".toList, []⟩, ⟨13, 13, [], ['!'], []⟩]

theorem compose_eq_replaceAll_sample : sampleEdits.Pairwise Apart ∧
    replaceAll sampleEight sampleEdits = "Xd+efgYZ!".toList ∧
    compose sampleEight sampleEdits.reverse = .ok "Xd+efgYZ!".toList := by
  have hcompose : compose sampleEight sampleEdits = .ok "Xd+efgYZ!".toList := by
    rw [compose, List.mergeSort_of_pairwise (by decide)]
    decide +kernel
  obtain ⟨hiff, hreplace, -, hperm⟩ :=
    @compose_eq_replaceAll sampleEight sampleEdits (by decide) (by decide)
  exact ⟨(hiff.1 ⟨_, hcompose⟩).1, (hreplace _ hcompose).symm,
    (hperm _ sampleEdits.reverse_perm).trans hcompose⟩

/-! ## The length of the result -/

/-- Where the ranges start and stop **in the text** of a function, one after the other. -/
def ends (routine : Routine) (edits : List Edit) : List Nat :=
  edits.flatMap fun e => [Text.clip routine.code.length (e.start - routine.start),
    Text.clip routine.code.length (e.stop - routine.start)]

/-- A pass **loses nothing**: what it keeps is no shorter than what lies outside the ranges. -/
theorem le_length_splice (h : splice routine cursor edits = .ok t) :
    (routine.code.length : Int) + growth edits ≤
      Text.clip routine.code.length cursor + t.length := by
  induction edits generalizing cursor t with
  | nil =>
    obtain rfl := Except.ok.inj h
    rw [growth, Text.length_sliceFrom]
    omega
  | cons e edits ih =>
    obtain ⟨-, hstanding, rest, hrest, rfl⟩ := splice_cons_eq_ok_iff.1 h
    have hold := congrArg List.length hstanding
    rw [standing, Text.length_slice] at hold
    have := ih hrest
    simp only [growth, List.length_append, Text.length_slice]
    omega

/-- …and **doubles nothing** exactly if from the cursor on the ends of the ranges do not go back. -/
theorem length_splice_eq_iff (h : splice routine cursor edits = .ok t) :
    (Text.clip routine.code.length cursor + t.length : Int) =
        routine.code.length + growth edits ↔
      (Text.clip routine.code.length cursor :: ends routine edits).IsChain (· ≤ ·) := by
  induction edits generalizing cursor t with
  | nil =>
    obtain rfl := Except.ok.inj h
    have := Text.clip_le routine.code.length cursor
    simp only [growth, Text.length_sliceFrom, ends, List.flatMap_nil, List.isChain_singleton,
      iff_true]
    omega
  | cons e edits ih =>
    obtain ⟨-, hstanding, rest, hrest, rfl⟩ := splice_cons_eq_ok_iff.1 h
    have hold := congrArg List.length hstanding
    rw [standing, Text.length_slice] at hold
    have hle := le_length_splice hrest
    have heq := ih hrest
    rw [ends] at heq
    simp only [ends, List.flatMap_cons, List.cons_append, List.nil_append, List.isChain_cons_cons,
      ← heq, growth, List.length_append, Text.length_slice]
    omega

/-- Ranges that **stop no earlier than they start** do not go back: a pass has each start behind the
one before. -/
theorem isChain_ends (h : splice routine cursor edits = .ok t) (hcursor : 0 ≤ cursor)
    (hordered : ∀ e ∈ edits, e.start ≤ e.stop) :
    (Text.clip routine.code.length cursor :: ends routine edits).IsChain (· ≤ ·) := by
  induction edits generalizing cursor t with
  | nil => exact .singleton _
  | cons e edits ih =>
    obtain ⟨hrange, hordered⟩ := List.forall_mem_cons.1 hordered
    obtain ⟨hstart, -, rest, hrest, -⟩ := splice_cons_eq_ok_iff.1 h
    exact .cons_cons (Text.clip_le_clip hcursor hstart)
      (.cons_cons (Text.clip_le_clip (by omega) (by omega)) (ih hrest (by omega) hordered))

theorem growth_perm (h : edits.Perm edits') : growth edits = growth edits' := by
  induction h with
  | nil => rfl
  | cons e _ ih => rw [growth, growth, ih]
  | swap d e edits =>
    simp only [growth]
    omega
  | trans _ _ ih ih' => exact ih.trans ih'

/-- **Whatever the edits, nothing is lost**: the result is at least as long as they ask for.  It is
exactly so long, and nothing is doubled, if the ends of the ranges in the text do not go back; and
they do not, if no range stops before it starts. -/
theorem length_compose (h : compose routine edits = .ok t) :
    (routine.code.length : Int) + growth edits ≤ t.length ∧
      ((t.length : Int) = routine.code.length + growth edits ↔
        (ends routine (edits.mergeSort startsBy)).IsChain (· ≤ ·)) ∧
      ((∀ e ∈ edits, e.start ≤ e.stop) →
        (t.length : Int) = routine.code.length + growth edits) := by
  have hmem := edits.mergeSort_perm startsBy
  have hle := le_length_splice h
  have heq := length_splice_eq_iff h
  rw [Text.clip_zero, growth_perm hmem, Int.natCast_zero, Int.zero_add] at hle heq
  refine ⟨hle, heq.trans ?_, fun hordered => heq.2 ?_⟩
  · rw [List.isChain_cons]
    exact and_iff_right fun n _ => Nat.zero_le n
  · have hchain := isChain_ends h (Int.le_refl 0) fun e he => hordered e (hmem.mem_iff.1 he)
    rwa [Text.clip_zero] at hchain

/-- A range that **stops at a position counted from the end**: in the text it stops behind its
start. -/
theorem length_compose_sample : ∃ t, compose { sampleEight with start := 0 }
    [⟨3, -1, "defg".toList, ['X'], []⟩] = .ok t ∧ t.length = 5 := by
  have hcompose : compose { sampleEight with start := 0 } [⟨3, -1, "defg".toList, ['X'], []⟩] =
      .ok "abcXh".toList := by decide +kernel
  obtain ⟨-, heq, -⟩ := length_compose hcompose
  exact ⟨_, hcompose, Int.ofNat.inj (heq.2 (by decide +kernel))⟩

/-- A range that stops before it starts **doubles what lies between**. -/
theorem not_length_compose_eq : ¬ ∀ (routine : Routine) (edits : List Edit) (t : Text),
    compose routine edits = .ok t → (t.length : Int) = routine.code.length + growth edits := by
  intro h
  have hcompose : compose { sampleEight with start := 0 } [⟨5, 3, [], ['X'], []⟩] =
      .ok "abcdeXdefgh".toList := by decide +kernel
  exact absurd (h _ _ _ hcompose) (by decide)

end Edit

end BundlePatch
