import BundlePatch.Proofs.Again
import Mathlib.Algebra.BigOperators.Group.Finset.Basic
import Mathlib.Data.Nat.Find

/-!
# Proofs/Convergence — patching again and again

A source is patched, the content is patched, and so on: run number `n` is given `Patch.given n`.
The number of **backticks falls by two** with each replacement, whatever names a run finds, so only
finitely many runs replace anything, and the first one that does not is repeated for ever
(`Patch.ofSource_repeatedly`).
-/

namespace BundlePatch

open Pattern Edit

namespace Patch

variable {source : Text} {r₀ : Outcome} {contexts : Nat → Int}

/-! ## Run after run -/

/-- The text that is **given to run number `n`**: first the source, then what the run before has
left.  A run that fails leaves its text. -/
def given (source : Text) (contexts : Nat → Int) : Nat → Text
  | 0 => source
  | n + 1 =>
    match (ofSource (given source contexts n) (contexts n)).result with
    | .ok r => r.content
    | .error _ => given source contexts n

theorem given_succ {n : Nat} {r : Outcome}
    (h : (ofSource (given source contexts n) (contexts n)).result = .ok r) :
    given source contexts (n + 1) = r.content := by rw [given, h]

/-- Runs that **all give an outcome**, with the layouts of the texts that they are given. -/
structure Runs (source : Text) (contexts : Nat → Int) (l : Nat → Layout) (r : Nat → Outcome) :
    Prop where
  source_eq : ∀ n, (l n).source = given source contexts n
  settles : ∀ n, Settles (l n) (r n)
  result_eq : ∀ n, (ofSource (given source contexts n) (contexts n)).result = .ok (r n)

/-- When the first run gives an outcome, **every later one does**: each leaves a text that is laid
out around its first anchor again. -/
theorem exists_runs (h : (ofSource source (contexts 0)).result = .ok r₀) :
    ∃ l r, Runs source contexts l r := by
  have hstep : ∀ n, ∃ l r, l.Sound ∧ l.First ∧ l.source = given source contexts n ∧
      Settles l r ∧ (ofSource (given source contexts n) (contexts n)).result = .ok r := by
    intro n
    induction n with
    | zero =>
      obtain ⟨l, hl, hfirst, hsource, hsettles⟩ := ofSource_eq_ok_iff.1 h
      exact ⟨l, r₀, hl, hfirst, hsource, hsettles, h⟩
    | succ n ih =>
      obtain ⟨l, r, hl, hfirst, -, hsettles, hr⟩ := ih
      obtain ⟨l', hl', hfirst', hsource', -⟩ := hsettles.exists_next hl hfirst
      obtain ⟨r', hr', hsettles'⟩ := exists_ofSource hl' hfirst' (contexts (n + 1))
      rw [given_succ hr, ← hsource']
      exact ⟨l', r', hl', hfirst', rfl, hsettles', hr'⟩
  choose l r _ _ hsource hsettles hr using hstep
  exact ⟨l, r, hsource, hsettles, hr⟩

namespace Runs

variable {l : Nat → Layout} {r : Nat → Outcome} {m n : Nat}

theorem given_succ (h : Runs source contexts l r) (n : Nat) :
    given source contexts (n + 1) = (r n).content := Patch.given_succ (h.result_eq n)

theorem count_backtick (h : Runs source contexts l r) (n : Nat) :
    (given source contexts n).count '`' =
      (given source contexts (n + 1)).count '`' + 2 * (r n).applied := by
  rw [h.given_succ, ← h.source_eq, (h.settles n).count_backtick]

open Finset in
/-- The backticks that are **gone after some runs**. -/
theorem count_source (h : Runs source contexts l r) (n : Nat) : source.count '`' =
    (given source contexts n).count '`' + 2 * ∑ i ∈ range n, (r i).applied := by
  induction n with
  | zero => simp [given]
  | succ n ih =>
    rw [ih, h.count_backtick, sum_range_succ]
    omega

open Finset in
/-- As long as every run replaces something, there are **at least as many replacements as runs**. -/
theorem le_sum_applied (h : Runs source contexts l r) (hall : ∀ i < n, (r i).status = .patched) :
    n ≤ ∑ i ∈ range n, (r i).applied := by
  induction n with
  | zero => exact Nat.zero_le _
  | succ n ih =>
    have hpos := (h.settles n).applied_pos (hall n n.lt_succ_self)
    have hrest := ih fun i hi => hall i (Nat.lt_succ_of_lt hi)
    rw [sum_range_succ]
    omega

/-- A run that replaces nothing is **repeated for ever**: the text stays, and it decides the
outcome. -/
theorem eq_of_le (h : Runs source contexts l r) (hn : (r n).status ≠ .patched) (hm : n ≤ m) :
    r m = r n := by
  have hcontent : (r n).content = given source contexts n := by
    rw [(h.settles n).content_eq hn, h.source_eq]
  have hsame : ∀ m, given source contexts m = given source contexts n → r m = r n := by
    intro m hm
    have hrun := ofSource_of_context (h.result_eq m) (contexts n)
    rw [hm, h.result_eq n] at hrun
    exact (Except.ok.inj hrun).symm
  refine hsame m ?_
  induction m, hm using Nat.le_induction with
  | base => rfl
  | succ m _ ih => rw [h.given_succ, hsame m ih, hcontent]

/-- Some run **replaces nothing**: there are no backticks left for so many. -/
theorem exists_ne_patched (h : Runs source contexts l r) : ∃ n, (r n).status ≠ .patched := by
  by_contra hnone
  have hall : ∀ i, (r i).status = .patched := by simpa using hnone
  have hmany := h.le_sum_applied (n := source.count '`' + 1) fun i _ => hall i
  have hcount := h.count_source (source.count '`' + 1)
  omega

/-- The runs that replace something are **the first ones**, at most one for two backticks. -/
theorem exists_patched_iff_lt (h : Runs source contexts l r) :
    ∃ last, 2 * last ≤ source.count '`' ∧ ∀ n, (r n).status = .patched ↔ n < last := by
  have hbefore : ∀ i < Nat.find h.exists_ne_patched, (r i).status = .patched := fun i hi =>
    not_not.1 (Nat.find_min h.exists_ne_patched hi)
  refine ⟨Nat.find h.exists_ne_patched, ?_, fun n => ⟨fun hn => ?_, hbefore n⟩⟩
  · have hmany := h.le_sum_applied hbefore
    have hcount := h.count_source (Nat.find h.exists_ne_patched)
    omega
  · by_contra hlt
    rw [h.eq_of_le (Nat.find_spec h.exists_ne_patched) (not_lt.1 hlt)] at hn
    exact Nat.find_spec h.exists_ne_patched hn

end Runs

open Finset in
/-- **Patching again and again comes to rest.**  When the first run gives an outcome, all runs do.
Each takes two backticks away for each of its replacements, so all together make at most half as
many as the source has backticks.  The runs that replace something are the first ones, finitely
many; after one that replaces nothing, content and status stay. -/
theorem ofSource_repeatedly (h : (ofSource source (contexts 0)).result = .ok r₀) :
    ∃ r : Nat → Outcome,
      (∀ n, (ofSource (given source contexts n) (contexts n)).result = .ok (r n)) ∧
      (∀ n, (r n).status = .patched → (given source contexts n).count '`' =
        (r n).content.count '`' + 2 * (r n).applied) ∧
      (∀ n, 2 * ∑ i ∈ range n, (r i).applied ≤ source.count '`') ∧
      (∃ last, 2 * last ≤ source.count '`' ∧ ∀ n, (r n).status = .patched ↔ n < last) ∧
      (∀ n m, (r n).status ≠ .patched → n ≤ m →
        (r m).content = (r n).content ∧ (r m).status = (r n).status) := by
  obtain ⟨l, r, hruns⟩ := exists_runs h
  refine ⟨r, hruns.result_eq, fun n _ => ?_, fun n => ?_, hruns.exists_patched_iff_lt,
    fun n m hn hm => ?_⟩
  · rw [← hruns.given_succ, ← hruns.count_backtick]
  · have hcount := hruns.count_source n
    omega
  · rw [hruns.eq_of_le hn hm]
    exact ⟨rfl, rfl⟩

/-- The sample is patched **twice**, once for each of its modules. -/
theorem ofSource_repeatedly_sample : ∃ r : Nat → Outcome,
    (∀ n, (ofSource (given sampleSource (fun _ => 0) n) 0).result = .ok (r n)) ∧
      ∀ n, (r n).status = .patched ↔ n < 2 := by
  obtain ⟨r, hr, -, -, ⟨last, hlast, hpatched⟩, -⟩ :=
    @ofSource_repeatedly sampleSource _ (fun _ => 0) ofSource_sampleSource
  have hfirst : r 0 = sampleOutcome := Except.ok.inj ((hr 0).symm.trans ofSource_sampleSource)
  have hsecond : r 1 = sampleNext := by
    have hrun := hr 1
    rw [given_succ (hr 0), hfirst] at hrun
    exact Except.ok.inj (hrun.symm.trans ofSource_sampleOutcome)
  have hmany : 1 < last := (hpatched 1).1 (by rw [hsecond]; rfl)
  have hticks : sampleSource.count '`' = 4 := by decide +kernel
  obtain rfl : last = 2 := by omega
  exact ⟨r, hr, hpatched⟩

end Patch

end BundlePatch
