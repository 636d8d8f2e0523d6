import BundlePatch.Anchor
import BundlePatch.Brackets

/-!
# Routine — the function around an anchor

The anchor is the last statement of its function, so the first unmatched closing bracket after it
ends the body, the matching opening bracket starts it, and `function NAME()` stands right in front of
that bracket.  A `Routine` is such a function: its name, its range in the source, where its body
starts, and its text.

The header is looked for in the **last `Header.window` characters** before the body, so its name has
at most 89.
-/

namespace BundlePatch

/-- The words in front of the body of a function: its name and where they stand. -/
structure Header where
  name : Text
  start : Int
  stop : Int
  deriving DecidableEq, Repr

namespace Header

/-- `function NAME()` at the end of a text. -/
def pattern : Pattern :=
  [.word "function ".toList, .some isIdentifier, .word "()".toList, .stop]

/-- How far back a header may start. -/
def window : Int := 100

/-- The header that **ends where the body starts**. -/
def before (source : Text) (bodyStart : Int) : Except Fault Header :=
  if !source.indexable bodyStart then .error .endBeyondIndex
  else
    let first := max 0 (bodyStart - window)
    let stretch := (source.drop first.toNat).take (bodyStart - first).toNat
    match Pattern.search? pattern stretch with
    | none => .error .headerMissing
    | some hit => .ok ⟨hit.part 1, first + hit.start, first + hit.stop⟩

end Header

/-- A **function of a source**. -/
structure Routine where
  name : Text
  start : Int
  stop : Int
  bodyStart : Int
  code : Text
  deriving DecidableEq, Repr

namespace Routine

/-- The **function that encloses an anchor**.  What a scanner with fixed answers finds need not hold
the anchor, nor as many closing as opening brackets; both are checked. -/
def enclosing (source : Text) (anchor : Anchor) (scanner : Scanner) : Except Fault Routine := do
  let closePos ← scanner.findClosing source anchor.stop
  let bodyStart ← scanner.findOpening source closePos
  let header ← Header.before source bodyStart
  let stop := closePos + 1
  if ¬(header.start < anchor.start ∧ anchor.stop ≤ stop) then
    throw (.anchorOutside header.name header.start stop)
  let code := source.slice header.start stop
  if scanner.balance code ≠ 0 then throw (.unbalanced header.name)
  return ⟨header.name, header.start, stop, bodyStart, code⟩

end Routine

end BundlePatch
