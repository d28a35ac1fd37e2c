/-!
# Sets of code points

A set of code points is stored as the ascending list of the points at which membership changes,
starting outside the set. A code point belongs to the set when the number of such points that are
not above it is odd, which is found by halving.
-/

namespace SourceText.Unicode

/-- A set of code points, given by the ascending points at which membership changes. -/
structure CodeSet where
  changes : Array Nat

namespace CodeSet

/-- Number of change points at or below `code` among those with index in `low .. high`, plus
`low`; `fuel` bounds the halvings. -/
def rank (s : CodeSet) (code : Nat) : Nat → Nat → Nat → Nat
  | 0, low, _ => low
  | fuel + 1, low, high =>
    if high ≤ low then low
    else
      let middle := (low + high) / 2
      if s.changes.getD middle 0 ≤ code then rank s code fuel (middle + 1) high
      else rank s code fuel low middle

/-- Whether the set holds the code point. -/
def contains (s : CodeSet) (code : Nat) : Bool :=
  rank s code 32 0 s.changes.size % 2 == 1

end CodeSet

end SourceText.Unicode
