/-!
# Stamp — an instant in the name of a file

The stamp of an instant is its date and time in Universal Time down to the millisecond, in an order
that sorts and with no character that a file name cannot hold.
-/

namespace BundlePatch

/-- An **instant** in Universal Time, down to the microsecond. -/
structure Instant where
  year : Nat
  month : Nat
  day : Nat
  hour : Nat
  minute : Nat
  second : Nat
  microsecond : Nat
  deriving DecidableEq, Repr

namespace Instant

/-- A number with at least `width` digits. -/
def padded (width n : Nat) : String :=
  let digits := toString n
  String.ofList (List.replicate (width - digits.length) '0') ++ digits

/-- The **stamp** of an instant.  The milliseconds are cut off, not rounded, and the year has the
digits that it needs. -/
def stamp (t : Instant) : String :=
  s!"{t.year}-{padded 2 t.month}-{padded 2 t.day}T" ++
    s!"{padded 2 t.hour}-{padded 2 t.minute}-{padded 2 t.second}-" ++
    s!"{padded 3 (t.microsecond / 1000)}Z"

end Instant

end BundlePatch
