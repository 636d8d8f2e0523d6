import BundlePatch.Text.Hex

/-!
# File/Utf8 — the bytes of a text

`Utf8.encode` writes each character in one to four bytes; `Utf8.decode` reads them back and is
**strict**: overlong forms, surrogates, code points beyond `10FFFF`, stray and missing continuation
bytes are all refused.  A refusal names the longest stretch of bytes that began like a character,
where it stands, and what went wrong after it.
-/

namespace BundlePatch.Utf8

/-- The bytes of a text. -/
def encode (s : Text) : List UInt8 := s.flatMap String.utf8EncodeChar

/-- What stops a reader. -/
inductive Reason where
  /-- No character begins with this byte. -/
  | startByte
  /-- The next byte does not continue the character. -/
  | continuationByte
  /-- The bytes end inside a character. -/
  | endOfData
  deriving DecidableEq, Repr

/-- **Bytes that are no character**, with the position of the first. -/
structure Malformed where
  position : Nat
  bytes : List UInt8
  reason : Reason
  deriving DecidableEq, Repr

/-- What a **first byte** announces: its share of the code point, the number of bytes that follow,
and the bounds of the first of them.  The bounds shut out overlong forms, surrogates and code points
beyond the last. -/
structure Lead where
  bits : Nat
  more : Nat
  low : UInt8 := 0x80
  high : UInt8 := 0xBF

/-- The announcement of a first byte, if it is one. -/
def lead? (b : UInt8) : Option Lead :=
  if b < 0x80 then some { bits := b.toNat, more := 0 }
  else if b < 0xC2 then none
  else if b < 0xE0 then some { bits := b.toNat - 0xC0, more := 1 }
  else if b < 0xF0 then
    some { bits := b.toNat - 0xE0, more := 2,
           low := if b = 0xE0 then 0xA0 else 0x80, high := if b = 0xED then 0x9F else 0xBF }
  else if b < 0xF5 then
    some { bits := b.toNat - 0xF0, more := 3,
           low := if b = 0xF0 then 0x90 else 0x80, high := if b = 0xF4 then 0x8F else 0xBF }
  else none

/-- Reads `more` continuation bytes, the first of them between `low` and `high`, onto the bits read
so far; `taken` counts the bytes of the character up to here. -/
def continued (bits taken : Nat) : (more : Nat) → (low high : UInt8) → List UInt8 →
    Except (Nat × Reason) Nat
  | 0, _, _, _ => .ok bits
  | _ + 1, _, _, [] => .error (taken, .endOfData)
  | more + 1, low, high, b :: bytes =>
    if low ≤ b && b ≤ high then
      continued (bits * 64 + (b.toNat - 0x80)) (taken + 1) more 0x80 0xBF bytes
    else .error (taken, .continuationByte)

/-- The first character of the bytes `b :: bytes` and the number of its bytes after `b`; or the
number of bytes that began like one, and why they are none. -/
def scalar (b : UInt8) (bytes : List UInt8) : Except (Nat × Reason) (Char × Nat) :=
  match lead? b with
  | none => .error (1, .startByte)
  | some lead =>
    (continued lead.bits 1 lead.more lead.low lead.high bytes).map fun n =>
      (Char.ofNat n, lead.more)

/-- Reads the bytes from `position` on; `read` holds the characters before them in reverse. -/
def decodeFrom (position : Nat) (read : Text) : List UInt8 → Except Malformed Text
  | [] => .ok read.reverse
  | b :: bytes =>
    match scalar b bytes with
    | .error (n, reason) => .error ⟨position, (b :: bytes).take n, reason⟩
    | .ok (c, n) => decodeFrom (position + 1 + n) (c :: read) (bytes.drop n)
termination_by bytes => bytes.length

/-- The **text of the bytes**. -/
def decode (bytes : List UInt8) : Except Malformed Text := decodeFrom 0 [] bytes

/-- Why no character was read. -/
def Reason.text : Reason → String
  | .startByte => "invalid start byte"
  | .continuationByte => "invalid continuation byte"
  | .endOfData => "unexpected end of data"

/-- The complaint about bytes that are no character: the byte itself if it is one, their range if
they are several. -/
def Malformed.message (m : Malformed) : String :=
  let codec := "'utf-8' codec can't decode "
  match m.bytes with
  | [b] =>
    let shown := String.ofList (Hex.digits 2 b.toNat)
    codec ++ s!"byte 0x{shown} in position {m.position}: {m.reason.text}"
  | bytes =>
    let last := m.position + bytes.length - 1
    codec ++ s!"bytes in position {m.position}-{last}: {m.reason.text}"

end BundlePatch.Utf8
