import BundlePatch.Text.Class

/-!
# Text/Slice — the part of a text between two positions

A position is an integer.  A negative one counts from the end of the text, and one outside the text
falls on its nearer end, so **every pair of positions names a part**; a part whose second position
is not beyond the first is empty.

To look at a single character is stricter: its position must be `indexable`, which those far outside
the text are not.
-/

namespace BundlePatch.Text

/-- Where a position falls in a text of `n` characters. -/
def clip (n : Nat) (i : Int) : Nat :=
  if i < 0 then (i + n).toNat else min i.toNat n

/-- The number of positions below zero that an index can hold: it is a word of 64 bits with a
sign. -/
def indexBound : Int := 0x8000000000000000

/-- Whether an **index** can hold a position.  It can hold all positions in the text, and those
outside that fit its bits. -/
def indexable (s : Text) (i : Int) : Bool :=
  (-indexBound ≤ i && i < indexBound) || (0 ≤ i && i ≤ s.length)

/-- The part of a text from position `i` on. -/
def sliceFrom (s : Text) (i : Int) : Text := s.drop (clip s.length i)

/-- The part of a text before position `j`. -/
def sliceTo (s : Text) (j : Int) : Text := s.take (clip s.length j)

/-- The part of a text from position `i` up to position `j`. -/
def slice (s : Text) (i j : Int) : Text :=
  (s.drop (clip s.length i)).take (clip s.length j - clip s.length i)

theorem clip_le (n : Nat) (i : Int) : clip n i ≤ n := by
  unfold clip; split <;> omega

/-- A position inside the text is where it says. -/
theorem clip_of_le {n i : Nat} (h : i ≤ n) : clip n (i : Int) = i := by
  unfold clip; split <;> omega

@[simp] theorem clip_zero (n : Nat) : clip n 0 = 0 := by
  simp [clip]

/-- From the start of a text on, a position that is not before another **falls not before** it. -/
theorem clip_le_clip {n : Nat} {i j : Int} (hi : 0 ≤ i) (hij : i ≤ j) : clip n i ≤ clip n j := by
  unfold clip; split <;> split <;> omega

/-- No position in the text is **too far out** for an index. -/
theorem indexable_of_le {s : Text} {i : Nat} (h : i ≤ s.length) : s.indexable i = true := by
  simp [indexable, h]

/-- **Inside the text**, a part is what is left of it after dropping and taking characters. -/
theorem slice_of_le {s : Text} {i j : Nat} (hij : i ≤ j) (hj : j ≤ s.length) :
    s.slice i j = (s.drop i).take (j - i) := by
  rw [slice, clip_of_le (Nat.le_trans hij hj), clip_of_le hj]

theorem sliceFrom_of_le {s : Text} {i : Nat} (h : i ≤ s.length) : s.sliceFrom i = s.drop i := by
  rw [sliceFrom, clip_of_le h]

theorem sliceTo_of_le {s : Text} {j : Nat} (h : j ≤ s.length) : s.sliceTo j = s.take j := by
  rw [sliceTo, clip_of_le h]

theorem length_sliceFrom (s : Text) (i : Int) :
    (s.sliceFrom i).length = s.length - clip s.length i := by
  rw [sliceFrom, List.length_drop]

/-- A part is as long as **its positions lie apart** in the text. -/
theorem length_slice (s : Text) (i j : Int) :
    (s.slice i j).length = clip s.length j - clip s.length i := by
  have := clip_le s.length j
  rw [slice, List.length_take, List.length_drop]
  omega

/-- **The parts before, between and after** two positions make up the text, when the second does not
fall before the first. -/
theorem sliceTo_append_slice_append_sliceFrom {s : Text} {i j : Int}
    (h : clip s.length i ≤ clip s.length j) :
    s.sliceTo i ++ (s.slice i j ++ s.sliceFrom j) = s := by
  have hd : s.sliceFrom j = (s.sliceFrom i).drop (clip s.length j - clip s.length i) := by
    rw [sliceFrom, sliceFrom, List.drop_drop, Nat.add_sub_cancel' h]
  rw [hd, slice, ← sliceFrom, List.take_append_drop, sliceTo, sliceFrom, List.take_append_drop]

end BundlePatch.Text
