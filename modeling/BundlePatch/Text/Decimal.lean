import BundlePatch.Text.Class

/-!
# Text/Decimal — reading whole numbers

Decimal digits of any script count, since each script keeps its ten digits in a row: a digit is
known by the zero that starts its row.  A whole number is written as an optional sign and digits,
with blanks around it and with single underscores between digits; no more than `Decimal.maxDigits`
digits are read.
-/

namespace BundlePatch

namespace Decimal

/-- The **zeros** of all scripts, after version 14 of the Unicode character database. -/
def zeros : List Nat := [
    0x30, 0x660, 0x6F0, 0x7C0, 0x966, 0x9E6, 0xA66, 0xAE6, 0xB66, 0xBE6, 0xC66, 0xCE6, 0xD66,
    0xDE6, 0xE50, 0xED0, 0xF20, 0x1040, 0x1090, 0x17E0, 0x1810, 0x1946, 0x19D0, 0x1A80, 0x1A90, 0x1B50,
    0x1BB0, 0x1C40, 0x1C50, 0xA620, 0xA8D0, 0xA900, 0xA9D0, 0xA9F0, 0xAA50, 0xABF0, 0xFF10, 0x104A0, 0x10D30,
    0x11066, 0x110F0, 0x11136, 0x111D0, 0x112F0, 0x11450, 0x114D0, 0x11650, 0x116C0, 0x11730, 0x118E0, 0x11950, 0x11C50,
    0x11D50, 0x11DA0, 0x16A60, 0x16AC0, 0x16B50, 0x1D7CE, 0x1D7D8, 0x1D7E2, 0x1D7EC, 0x1D7F6, 0x1E140, 0x1E2F0, 0x1E950,
    0x1FBF0]

/-- The value of a decimal digit. -/
def digit? (c : Char) : Option Nat :=
  (zeros.find? fun z => z ≤ c.toNat && c.toNat < z + 10).map (c.toNat - ·)

/-- No numeral with more digits than this is read. -/
def maxDigits : Nat := 4300

/-- A blank that may stand around a numeral once it is written in ASCII. -/
def isAsciiBlank (c : Char) : Bool :=
  c == ' ' || (0x09 ≤ c.toNat && c.toNat ≤ 0x0D)

/-- A character in ASCII: a blank beyond it becomes a space and a digit beyond it the digit of the
same value.  Any other character beyond ASCII has no place in a numeral. -/
def toAscii? (c : Char) : Option Char :=
  if c.toNat < 127 then some c
  else if isBlank c then some ' '
  else (digit? c).map fun d => Char.ofNat ('0'.toNat + d)

/-- The digits of a numeral in which **single underscores may stand between digits**, as values; the
flag says whether an underscore may come next. -/
def digits? : Bool → Text → Option (List Nat)
  | afterDigit, [] => if afterDigit then some [] else none
  | afterDigit, c :: s =>
    if c == '_' then
      if afterDigit then digits? false s else none
    else if c.isDigit then (digits? true s).map ((c.toNat - '0'.toNat) :: ·)
    else none

/-- The number with the given digits, the highest first. -/
def ofDigits (ds : List Nat) : Nat := ds.foldl (fun n d => 10 * n + d) 0

/-- Reads an **unsigned** numeral. -/
def natural? (s : Text) : Option Nat := do
  let ds ← digits? false s
  if ds.length ≤ maxDigits then some (ofDigits ds) else none

/-- Reads a **whole number**: blanks, a sign or none, a numeral, blanks. -/
def integer? (s : Text) : Option Int := do
  let ascii ← s.mapM toAscii?
  let inner := ((ascii.dropWhile isAsciiBlank).reverse.dropWhile isAsciiBlank).reverse
  match inner with
  | '-' :: s => (natural? s).map fun n => -(n : Int)
  | '+' :: s => (natural? s).map fun n => (n : Int)
  | s => (natural? s).map fun n => (n : Int)

/-- A text that looks like a **negative number**: a minus sign and digits, or a minus sign, digits
or none, a point and digits.  One line feed may follow. -/
def isNegativeNumber (s : Text) : Bool :=
  let isDigit := fun c => (digit? c).isSome
  match s with
  | '-' :: s =>
    let body := if s.getLast? == some '\n' then s.dropLast else s
    let whole := body.takeWhile isDigit
    match body.dropWhile isDigit with
    | [] => !whole.isEmpty
    | '.' :: fraction => !fraction.isEmpty && fraction.all isDigit
    | _ => false
  | _ => false

end Decimal

end BundlePatch
