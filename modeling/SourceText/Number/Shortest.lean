import SourceText.Number.Binary64

/-!
# Shortest decimal digits

The fewest decimal digits that read back as a given binary number. For each number of digits the two
neighbours of the value on the decimal grid are tested against the interval of reals that round to
it, in exact arithmetic; the first grid with a hit wins, and of two hits the nearer one.
-/

namespace SourceText.Binary64

-- Powers are those of the core library whatever else is imported.
attribute [local instance (high)] instPowNat

/-- Digits and the power of ten of the last of them. -/
structure DecimalDigits where
  digits : Nat
  exponent : Int
  deriving DecidableEq, Repr

/-- The reals that round to a positive number: `low`, `value` and `high` over `unit`, and whether
the ends belong. -/
structure RoundingInterval where
  low : Nat
  value : Nat
  high : Nat
  unit : Nat
  closed : Bool

/-- The interval of the number `mantissa · 2 ^ exponent`, which is positive. Below a power of two
the numbers lie twice as close. -/
def roundingInterval (mantissa : Nat) (exponent : Int) : RoundingInterval :=
  let up := 2 ^ exponent.toNat
  let below := if mantissa = 2 ^ (52 : Nat) && minExponent < exponent then 1 else 2
  { low := (4 * mantissa - below) * up
    value := 4 * mantissa * up
    high := (4 * mantissa + 2) * up
    unit := 4 * 2 ^ (-exponent).toNat
    closed := mantissa % 2 == 0 }

namespace RoundingInterval

/-- Whether `numerator / denominator` lies in the interval. -/
def contains (i : RoundingInterval) (numerator denominator : Nat) : Bool :=
  let x := numerator * i.unit
  if i.closed then i.low * denominator ≤ x && x ≤ i.high * denominator
  else i.low * denominator < x && x < i.high * denominator

/-- The largest `k` with `10 ^ k ≤ value`. -/
def floorLog10 (i : RoundingInterval) : Int :=
  let estimate : Int := (Nat.toDigits 10 i.value).length - (Nat.toDigits 10 i.unit).length
  if i.value * 10 ^ (-estimate).toNat < i.unit * 10 ^ estimate.toNat then estimate - 1
  else estimate

/-- The point of the grid with step `10 ^ exponent` that reads back, the nearer one if there are
two. -/
def gridPoint? (i : RoundingInterval) (exponent : Int) : Option Nat :=
  let up := 10 ^ exponent.toNat
  let down := 10 ^ (-exponent).toNat
  let below := i.value * down / (i.unit * up)
  let above := below + 1
  let hit (n : Nat) := i.contains (n * up) down
  if hit below then
    if hit above then
      -- Twice the value against the sum of both neighbours tells which one is nearer.
      let twice := 2 * i.value * down
      let sum := (below + above) * up * i.unit
      if twice < sum then some below
      else if sum < twice then some above
      else some (if below % 2 = 0 then below else above)
    else some below
  else if hit above then some above
  else none

/-- The first grid with a hit, for one digit after the other. A point that is a power of ten is
written with a single digit. -/
def search (i : RoundingInterval) (leading : Int) : (fuel digits : Nat) → DecimalDigits
  | 0, digits =>
    let exponent := leading - digits + 1
    ⟨i.value * 10 ^ (-exponent).toNat / (i.unit * 10 ^ exponent.toNat), exponent⟩
  | fuel + 1, digits =>
    let exponent := leading - digits + 1
    match i.gridPoint? exponent with
    | some n => if n = 10 ^ digits then ⟨1, exponent + digits⟩ else ⟨n, exponent⟩
    | none => search i leading fuel (digits + 1)

end RoundingInterval

/-- The shortest digits of `mantissa · 2 ^ exponent`; seventeen always suffice. -/
def shortestDigits (mantissa : Nat) (exponent : Int) : DecimalDigits :=
  if mantissa = 0 then ⟨0, 0⟩
  else
    let i := roundingInterval mantissa exponent
    i.search i.floorLog10 17 1

end SourceText.Binary64
