import BundlePatch.Text.Hex
import BundlePatch.Text.Printable

/-!
# Text/Quoted — text in quotes, as it stands in messages

The quote is `'`, or `"` when the text holds a `'` and no `"`.  Inside, the quote and the backslash
follow a backslash, tab, line feed and carriage return are written `\t`, `\n` and `\r`, and every
other character that is not printable is written by its code in two, four or eight hexadecimal
digits, whichever is the least that suffices.
-/

namespace BundlePatch.Quoted

/-- A character as it stands between quotes `quote`. -/
def escape (quote c : Char) : Text :=
  if c == quote || c == '\\' then ['\\', c]
  else if c == '\t' then ['\\', 't']
  else if c == '\n' then ['\\', 'n']
  else if c == '\r' then ['\\', 'r']
  else if isPrintable c then [c]
  else if c.toNat ≤ 0xFF then '\\' :: 'x' :: Hex.digits 2 c.toNat
  else if c.toNat ≤ 0xFFFF then '\\' :: 'u' :: Hex.digits 4 c.toNat
  else '\\' :: 'U' :: Hex.digits 8 c.toNat

/-- The quote that suits a text: `"` if that spares a `'` its backslash. -/
def quoteFor (s : Text) : Char :=
  if s.contains '\'' && !s.contains '"' then '"' else '\''

/-- A text in quotes. -/
def encode (s : Text) : Text :=
  let quote := quoteFor s
  quote :: s.flatMap (escape quote) ++ [quote]

end BundlePatch.Quoted

namespace BundlePatch

/-- A string in quotes. -/
def quoted (s : String) : String := String.ofList (Quoted.encode s.toList)

end BundlePatch
