import SourceText.Value.Misuse

/-!
# Limits

A setting that bounds a count may be any number. What it means for counts is a least or a greatest
integer, or that there is no bound at all.
-/

namespace SourceText

namespace Binary64

-- Powers are those of the core library whatever else is imported.
attribute [local instance (high)] instPowNat

/-- The greatest integer that is not above a number; `none` when it has no bound above. -/
def floor? : Binary64 → Option Int
  | nan => none
  | infinite negative => if negative then some (-1) else none
  | finite negative mantissa exponent =>
    let m := signed negative mantissa
    some (if 0 ≤ exponent then m * 2 ^ exponent.toNat else Int.fdiv m (2 ^ (-exponent).toNat))

end Binary64

namespace Value

/-- How two numbers stand to one another: `none` when one of them is no number, or they have no
order. -/
def compareNumbers? (a b : Value) : Option (Option Ordering) :=
  match a, b with
  | number x, number y => some (Binary64.compare? x y)
  | number x, _ => b.toInt?.map fun n => Binary64.compareInt? x n
  | _, number y => a.toInt?.map fun n => (Binary64.compareInt? y n).map Ordering.swap
  | _, _ => a.toInt?.bind fun m => b.toInt?.map fun n => some (compare m n)

/-- Whether a number is at least as great as another one. -/
def isAtLeast (a b : Value) : Except Misuse Bool :=
  match compareNumbers? a b with
  | some order => .ok (order == some .gt || order == some .eq)
  | none => .error (.unordered ">=" a.kind b.kind)

/-- The binary number that a value stands for, zero when it stands for none. An integer that is too
large for a binary number has none. -/
def toBinary64? : Value → Option Binary64
  | number x => some x
  | value => (Binary64.ofInt (value.toInt?.getD 0)).bounded?

/-- The least integer that a count must have so that it is not less than a value. `none` when no
count will do; an error when the value is no number. -/
def leastCount (limit : Value) : Except Misuse (Option Int) :=
  match limit with
  | bool b => .ok (some (if b then 1 else 0))
  | integer n => .ok (some n)
  | number (.infinite false) => .ok none
  | number x => .ok (some (x.neg.floor?.elim 0 (-·)))
  | _ => .error (.unordered "<" "int" limit.kind)

/-- The greatest integer that a count may have without being more than a value. `none` when every
count may be had; an error when the value is no number. -/
def greatestCount (limit : Value) : Except Misuse (Option Int) :=
  match limit with
  | bool b => .ok (some (if b then 1 else 0))
  | integer n => .ok (some n)
  | number x => .ok x.floor?
  | _ => .error (.unordered ">" "int" limit.kind)

end Value

end SourceText
