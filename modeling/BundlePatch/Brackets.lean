import BundlePatch.Fault
import BundlePatch.Pattern.Search
import BundlePatch.Text.Slice

/-!
# Brackets — pairing an opening bracket with a closing one

From a position inside brackets the matching bracket is the **first unmatched** one in either
direction: brackets of the other kind that are passed on the way each consume one more.  The same
function, `unmatched`, answers both questions, read forwards with the opening bracket as the one that
nests and backwards, on the reversed text, with the closing one.

Brackets in strings, templates and comments count like all others.
-/

namespace BundlePatch

/-- The offset, from `offset` on, of the first `target` that no `nest` before it matches, when
`depth` brackets `nest` are open already.  A bracket that is not a single character never occurs. -/
def unmatched (nest target : Text) : (depth offset : Nat) → Text → Option Nat
  | _, _, [] => none
  | depth, offset, c :: s =>
    if [c] = nest then unmatched nest target (depth + 1) (offset + 1) s
    else if [c] = target then
      match depth with
      | 0 => some offset
      | depth + 1 => unmatched nest target depth (offset + 1) s
    else unmatched nest target depth (offset + 1) s

/-- The number of times a word occurs in a text **without overlap**; the empty word occurs at every
position. -/
def occurrences (w s : Text) : Nat :=
  if w = [] then s.length + 1 else (Pattern.scan [.word w] s).1.length

/-- How many more times `opening` occurs than `closing`. -/
def balance (opening closing s : Text) : Int :=
  (occurrences opening s : Int) - occurrences closing s

/-- What pairs brackets: the two brackets, and **fixed answers** that stand in for either search. -/
structure Scanner where
  opening : Text := ['{']
  closing : Text := ['}']
  closingAt? : Option Int := none
  openingAt? : Option Int := none
  deriving DecidableEq, Repr

namespace Scanner

/-- The fault of looking at a position outside a text. -/
def outside (source : Text) (pos : Int) : Fault :=
  if source.indexable pos then .beyondText else .beyondIndex

/-- The position of the bracket that **closes** what is open at `pos`.  A negative position counts
from the end, and the search goes on at the start of the text. -/
def findClosing (sc : Scanner) (source : Text) (pos : Int) : Except Fault Int :=
  match sc.closingAt? with
  | some answer => .ok answer
  | none =>
    if pos < -(source.length : Int) then .error (outside source pos)
    else
      let ahead := if pos < 0 then source.sliceFrom pos ++ source else source.drop pos.toNat
      match unmatched sc.opening sc.closing 0 0 ahead with
      | none => .error .closingMissing
      | some offset => .ok (pos + offset)

/-- The position of the bracket that **opens** what the bracket at `closePos` closes. -/
def findOpening (sc : Scanner) (source : Text) (closePos : Int) : Except Fault Int :=
  match sc.openingAt? with
  | some answer => .ok answer
  | none =>
    if (source.length : Int) < closePos then .error (outside source (closePos - 1))
    else
      let behind := (source.take closePos.toNat).reverse
      match unmatched sc.closing sc.opening 0 0 behind with
      | none => .error .openingMissing
      | some offset => .ok (closePos - 1 - offset)

/-- How many more opening than closing brackets a text holds. -/
def balance (sc : Scanner) (s : Text) : Int := BundlePatch.balance sc.opening sc.closing s

end Scanner

end BundlePatch
