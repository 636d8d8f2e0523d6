/-!
# Text/CodeSet — sets of code points

A property of characters that a standard fixes by a table is kept as a `CodeSet`: the places at
which membership changes, in increasing order.  Between two neighbouring places the property is
constant, so a code point is **in the set exactly when an odd number of places lie at or below it**,
and that number is found by bisection.
-/

namespace BundlePatch

/-- A set of code points, given by **the places where membership changes**. -/
structure CodeSet where
  changes : Array Nat

namespace CodeSet

/-- The number of places at or below `n`, sought between the indices `lo` and `hi`. -/
def bisect (places : Array Nat) (n lo hi : Nat) : Nat :=
  if lo < hi then
    let mid := (lo + hi) / 2
    if places.getD mid 0 ≤ n then bisect places n (mid + 1) hi else bisect places n lo mid
  else lo
termination_by hi - lo

/-- **Membership** is the parity of the places at or below the code point. -/
def contains (s : CodeSet) (n : Nat) : Bool :=
  bisect s.changes n 0 s.changes.size % 2 == 1

end CodeSet

end BundlePatch
