/-!
# Binary floating-point numbers of 64 bits

Numbers `± mantissa · 2 ^ exponent` with at most 53 binary digits, the two infinities and the value
that is no number. Every operation takes the exact result and rounds it once, to the nearest number
and to the even one of two that are equally near, so all of them are total functions on naturals and
integers.
-/

namespace SourceText

/-- A binary floating-point number. A finite number is kept with its exponent as small as 53 binary
digits and the least exponent allow, so that equal values are equal terms, zeros apart. -/
inductive Binary64 where
  | nan
  | infinite (negative : Bool)
  | finite (negative : Bool) (mantissa : Nat) (exponent : Int)
  deriving DecidableEq, Repr, Inhabited

namespace Binary64

-- Powers are those of the core library whatever else is imported.
attribute [local instance (high)] instPowNat

/-- The least exponent, that of the numbers next to zero. -/
def minExponent : Int := -1074

/-- The largest exponent of a finite number. -/
def maxExponent : Int := 971

/-- Rounds a quotient to the nearest natural number, a half to the even one. -/
def roundHalfEven (numerator denominator : Nat) : Nat :=
  let quotient := numerator / denominator
  let remainder := numerator % denominator
  if 2 * remainder < denominator then quotient
  else if denominator < 2 * remainder then quotient + 1
  else quotient + quotient % 2

/-- `numerator / denominator` in units of `2 ^ exponent`, as a quotient of naturals. -/
def inUnits (numerator denominator : Nat) (exponent : Int) : Nat × Nat :=
  (numerator * 2 ^ (-exponent).toNat, denominator * 2 ^ exponent.toNat)

/-- The largest `e` with `2 ^ e ≤ numerator / denominator`, for positive arguments. -/
def floorLog2 (numerator denominator : Nat) : Int :=
  let estimate : Int := numerator.log2 - denominator.log2
  let (n, d) := inUnits numerator denominator estimate
  if n < d then estimate - 1 else estimate

/-- The number nearest to `± numerator / denominator`; the sign is kept by a zero. -/
def ofRatio (negative : Bool) (numerator denominator : Nat) : Binary64 :=
  if numerator = 0 then .finite negative 0 minExponent
  else
    let exponent := max (floorLog2 numerator denominator - 52) minExponent
    let (n, d) := inUnits numerator denominator exponent
    let mantissa := roundHalfEven n d
    let (mantissa, exponent) :=
      if mantissa = 2 ^ (53 : Nat) then (2 ^ (52 : Nat), exponent + 1) else (mantissa, exponent)
    if maxExponent < exponent then .infinite negative else .finite negative mantissa exponent

/-- Positive zero. -/
def zero : Binary64 := .finite false 0 minExponent

/-- The number one. -/
def one : Binary64 := ofRatio false 1 1

/-- The number nearest to an integer. -/
def ofInt (n : Int) : Binary64 := ofRatio (n < 0) n.natAbs 1

/-- The number nearest to `± digits · 10 ^ exponent`. Exponents far outside the range are settled
without computing the power. -/
def ofDecimal (negative : Bool) (digits : Nat) (exponent : Int) : Binary64 :=
  if digits = 0 then ofRatio negative 0 1
  else
    let magnitude : Int := (Nat.toDigits 10 digits).length + exponent
    if magnitude > 400 then .infinite negative
    else if magnitude < -400 then ofRatio negative 0 1
    else ofRatio negative (digits * 10 ^ exponent.toNat) (10 ^ (-exponent).toNat)

/-- The quotient of two integers, rounded once; the divisor is positive. -/
def ofQuotient (numerator : Int) (denominator : Nat) : Binary64 :=
  ofRatio (numerator < 0) numerator.natAbs denominator

/-- The signed mantissa of a finite number. -/
def signed (negative : Bool) (mantissa : Nat) : Int :=
  if negative then -(mantissa : Int) else mantissa

/-- Two finite numbers as integers in one common unit, the power of two that is the third
component. -/
def align (m : Int) (e : Int) (m' : Int) (e' : Int) : Int × Int × Int :=
  let e₀ := min e e'
  (m * 2 ^ (e - e₀).toNat, m' * 2 ^ (e' - e₀).toNat, e₀)

/-- The integer `m` in units of `2 ^ exponent`, rounded; `negativeZero` is the sign of a zero. -/
def ofUnits (negativeZero : Bool) (m : Int) (exponent : Int) : Binary64 :=
  if m = 0 then .finite negativeZero 0 minExponent
  else ofRatio (m < 0) (m.natAbs * 2 ^ exponent.toNat) (2 ^ (-exponent).toNat)

/-- The negative of a number. -/
def neg : Binary64 → Binary64
  | nan => nan
  | infinite negative => infinite !negative
  | finite negative m e => finite (!negative) m e

/-- The sum of two numbers. -/
def add : Binary64 → Binary64 → Binary64
  | nan, _ => nan
  | _, nan => nan
  | infinite s, infinite s' => if s = s' then infinite s else nan
  | infinite s, finite .. => infinite s
  | finite .., infinite s => infinite s
  | finite s m e, finite s' m' e' =>
    let (a, b, unit) := align (signed s m) e (signed s' m') e'
    ofUnits (s && s') (a + b) unit

/-- The difference of two numbers. -/
def sub (a b : Binary64) : Binary64 := add a b.neg

/-- The product of two numbers. -/
def mul : Binary64 → Binary64 → Binary64
  | nan, _ => nan
  | _, nan => nan
  | infinite s, infinite s' => infinite (s != s')
  | infinite s, finite s' m _ => if m = 0 then nan else infinite (s != s')
  | finite s m _, infinite s' => if m = 0 then nan else infinite (s != s')
  | finite s m e, finite s' m' e' =>
    let negative := s != s'
    ofUnits negative (signed negative (m * m')) (e + e')

instance : Add Binary64 := ⟨add⟩
instance : Sub Binary64 := ⟨sub⟩
instance : Mul Binary64 := ⟨mul⟩
instance : Neg Binary64 := ⟨neg⟩

/-- The order of two numbers, `none` when one of them is no number. Zeros are equal. -/
def compare? : Binary64 → Binary64 → Option Ordering
  | nan, _ => none
  | _, nan => none
  | infinite s, infinite s' =>
    some (if s = s' then .eq else if s then .lt else .gt)
  | infinite s, finite .. => some (if s then .lt else .gt)
  | finite .., infinite s => some (if s then .gt else .lt)
  | finite s m e, finite s' m' e' =>
    let (a, b, _) := align (signed s m) e (signed s' m') e'
    some (compare a b)

/-- The order of a number and an integer, exactly. -/
def compareInt? : Binary64 → Int → Option Ordering
  | nan, _ => none
  | infinite s, _ => some (if s then .lt else .gt)
  | finite s m e, n =>
    let (a, b, _) := align (signed s m) e n 0
    some (compare a b)

/-- Whether `a` is less than `b`. -/
def lt (a b : Binary64) : Bool := compare? a b == some .lt

/-- Whether `a` is at most `b`. -/
def le (a b : Binary64) : Bool := compare? a b == some .lt || compare? a b == some .eq

/-- Whether two numbers are equal as numbers. -/
def same (a b : Binary64) : Bool := compare? a b == some .eq

/-- Whether the number is a zero. -/
def isZero : Binary64 → Bool
  | finite _ 0 _ => true
  | _ => false

/-- The number, unless it is infinite. -/
def bounded? : Binary64 → Option Binary64
  | infinite _ => none
  | x => some x

/-- The integer value of a number that has one. -/
def toInt? : Binary64 → Option Int
  | finite s m e =>
    if 0 ≤ e then some (signed s (m * 2 ^ e.toNat))
    else if m % 2 ^ (-e).toNat = 0 then some (signed s (m / 2 ^ (-e).toNat))
    else none
  | _ => none

/-- The smaller of two numbers, the first unless the second is less. -/
def minFirst (a b : Binary64) : Binary64 := if lt b a then b else a

/-- The larger of two numbers, the first unless the second is greater. -/
def maxFirst (a b : Binary64) : Binary64 := if lt a b then b else a

end Binary64

end SourceText
