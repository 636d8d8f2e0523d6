import BundlePatch.Text.Class

/-!
# Text/Hex — hexadecimal digits

Numbers to the base sixteen with a fixed number of digits, in lower case.
-/

namespace BundlePatch.Hex

/-- One digit. -/
def digit (n : Nat) : Char :=
  if n < 10 then Char.ofNat ('0'.toNat + n) else Char.ofNat ('a'.toNat + (n - 10))

/-- The last `width` digits of a number. -/
def digits : (width : Nat) → Nat → Text
  | 0, _ => []
  | width + 1, n => digits width (n / 16) ++ [digit (n % 16)]

@[simp] theorem length_digits (width n : Nat) : (digits width n).length = width := by
  induction width generalizing n with
  | zero => rfl
  | succ width ih => simp [digits, ih]

/-- The bytes of a file, each in two digits. -/
def ofBytes (bytes : List UInt8) : Text := bytes.flatMap fun b => digits 2 b.toNat

end BundlePatch.Hex
