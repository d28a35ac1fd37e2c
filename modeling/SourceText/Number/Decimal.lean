import SourceText.Number.Shortest

/-!
# Decimal text of numbers

How numbers are written. The shortest digits are placed around a point while the number is of
moderate size and before a power of ten otherwise; fixed places round the exact value.
-/

namespace SourceText

/-- The decimal text of an integer. -/
def integerText (n : Int) : String :=
  if n < 0 then "-" ++ Nat.repr n.natAbs else Nat.repr n.natAbs

namespace Binary64

-- Powers are those of the core library whatever else is imported.
attribute [local instance (high)] instPowNat

/-- How a kind of document writes numbers. `positionalBelow` is the largest power of ten that the
point may stand behind, `positionalFrom` the least; the three words stand for what has no digits. -/
structure NumberStyle where
  positionalFrom : Int
  positionalBelow : Int
  infinity : String
  minusInfinity : String
  notNumber : String

/-- Numbers have a point up to sixteen digits before it and from four places after it on. -/
def plainStyle : NumberStyle := ⟨-4, 16, "inf", "-inf", "nan"⟩

/-- The sign in front of the digits. -/
def signText (negative : Bool) : String := if negative then "-" else ""

/-- The power of ten in a scientific number: a sign and at least two digits. -/
def exponentText (exponent : Int) : String :=
  let digits := Nat.repr exponent.natAbs
  (if exponent < 0 then "-" else "+") ++ (if digits.length < 2 then "0" ++ digits else digits)

/-- Digits with the point behind the first `point` of them, filled up with zeros. -/
def positional (digits : List Char) (point : Int) : String :=
  if point ≤ 0 then
    "0." ++ String.ofList (List.replicate (-point).toNat '0' ++ digits)
  else if digits.length ≤ point.toNat then
    String.ofList (digits ++ List.replicate (point.toNat - digits.length) '0') ++ ".0"
  else
    String.ofList (digits.take point.toNat) ++ "." ++ String.ofList (digits.drop point.toNat)

/-- Digits with the point behind the first of them, before a power of ten. -/
def scientific (digits : List Char) (exponent : Int) : String :=
  let fraction := String.ofList (digits.drop 1)
  String.ofList (digits.take 1) ++ (if fraction.isEmpty then "" else "." ++ fraction) ++ "e" ++
    exponentText exponent

/-- The shortest text that reads back as the number. -/
def text (style : NumberStyle) : Binary64 → String
  | nan => style.notNumber
  | infinite negative => if negative then style.minusInfinity else style.infinity
  | finite negative mantissa exponent =>
    let shortest := shortestDigits mantissa exponent
    let digits := (Nat.repr shortest.digits).toList
    let leading := digits.length + shortest.exponent - 1
    signText negative ++
      (if style.positionalFrom ≤ leading && leading < style.positionalBelow then
        positional digits (leading + 1)
      else scientific digits leading)

/-- The number with a fixed count of places, at least one; a half goes to the even neighbour. -/
def fixed (places : Nat) : Binary64 → String
  | nan => "nan"
  | infinite negative => signText negative ++ "inf"
  | finite negative mantissa exponent =>
    let scaled :=
      roundHalfEven (mantissa * 2 ^ exponent.toNat * 10 ^ places) (2 ^ (-exponent).toNat)
    let fraction := Nat.repr (scaled % 10 ^ places)
    signText negative ++ Nat.repr (scaled / 10 ^ places) ++ "." ++
      String.ofList (List.replicate (places - fraction.length) '0') ++ fraction

end Binary64

end SourceText
