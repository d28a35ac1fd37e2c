import SourceText.Number.Binary64
import SourceText.Text
import SourceText.Unicode.Digit

/-!
# Reading numbers

Numbers as people write them into settings and headers: blanks around them, a sign, digits of any
script, and single low lines between digits. Integers have a largest count of digits, because
reading them takes time that grows with its square.
-/

namespace SourceText.Number

/-- The largest count of digits of an integer that is read. -/
def maxDigits : Nat := 4300

/-- The words for an integer of more digits that was to be written. -/
def tooLongToWrite : String :=
  s!"Exceeds the limit ({maxDigits} digits) for integer string conversion; use sys.set_int_max_str_digits() to increase the limit"

/-- Why a text is no integer. -/
inductive IntegerError where
  | malformed
  | tooLong (digits : Nat)
  deriving DecidableEq, Repr

/-- Blanks that may stand around a number; the four separators of records and files may not. -/
def isPadding (c : Char) : Bool := isBlank c && !(28 ≤ c.toNat && c.toNat ≤ 31)

/-- The text without the blanks around it. -/
def stripPadding (text : Text) : Text :=
  ((text.dropWhile isPadding).reverse.dropWhile isPadding).reverse

/-- A sign and the text after it. -/
def takeSign : Text → Bool × Text
  | '-' :: rest => (true, rest)
  | '+' :: rest => (false, rest)
  | text => (false, text)

/-- The digits at the start of a text, single low lines between them left out, and the rest. `none`
when a low line does not stand between two digits or no digit comes first; `fresh` tells whether
one has to come. -/
def takeDigits (fresh : Bool) : Text → Option (List Nat × Text)
  | [] => if fresh then none else some ([], [])
  | c :: rest =>
    match Unicode.digitValue? c with
    | some d => (takeDigits false rest).map fun (ds, rest) => (d :: ds, rest)
    | none =>
      if fresh then none
      else if c = '_' then takeDigits true rest
      else some ([], c :: rest)

/-- The number that decimal digits stand for. -/
def ofDigits (digits : List Nat) : Nat := digits.foldl (fun n d => 10 * n + d) 0

/-- The integer that a text stands for. A text that breaks off after too many digits counts as too
long. -/
def readInteger (text : Text) : Except IntegerError Int :=
  let (negative, body) := takeSign (text.dropWhile isPadding)
  match takeDigits true body with
  | none => .error .malformed
  | some (digits, rest) =>
    if maxDigits < digits.length then .error (.tooLong digits.length)
    else if rest.all isPadding then
      .ok (if negative then -(ofDigits digits : Int) else ofDigits digits)
    else .error .malformed

/-- Whether a text is `word`, up to the case of its letters. -/
def isWordOf (word : String) (text : Text) : Bool :=
  text.map Char.toLower == word.toList

/-- Whether digits and low lines alternate as they may: a low line stands between two digits. -/
def lowLinesFit (afterDigit : Bool) : Text → Bool
  | [] => true
  | '_' :: rest => afterDigit && (rest.head?.any Unicode.isDigit) && lowLinesFit false rest
  | c :: rest => lowLinesFit (Unicode.isDigit c) rest

/-- The leading digits of a text and the rest. -/
def spanDigits : Text → List Nat × Text
  | [] => ([], [])
  | c :: rest =>
    match Unicode.digitValue? c with
    | some d => let (ds, rest) := spanDigits rest; (d :: ds, rest)
    | none => ([], c :: rest)

/-- The power of ten at the end of a number, zero when the text is empty. -/
def readExponent : Text → Option Int
  | [] => some 0
  | e :: rest =>
    if e = 'e' || e = 'E' then
      let (negative, body) := takeSign rest
      match spanDigits body with
      | ([], _) => none
      | (digits, []) => some (if negative then -(ofDigits digits : Int) else ofDigits digits)
      | _ => none
    else none

/-- Digits, a point and digits, a power of ten; one of the two digit runs may be missing. -/
def readDecimal (negative : Bool) (text : Text) : Option Binary64 :=
  let (whole, rest) := spanDigits text
  let (fraction, rest) :=
    match rest with
    | '.' :: after => spanDigits after
    | _ => ([], rest)
  if whole.isEmpty && fraction.isEmpty then none
  else
    (readExponent rest).map fun exponent =>
      Binary64.ofDecimal negative (ofDigits (whole ++ fraction)) (exponent - fraction.length)

/-- The binary number that a text stands for. -/
def readFloat (text : Text) : Option Binary64 :=
  let body := stripPadding text
  if !lowLinesFit false body then none
  else
    let (negative, digits) := takeSign (body.filter (· != '_'))
    if isWordOf "inf" digits || isWordOf "infinity" digits then some (.infinite negative)
    else if isWordOf "nan" digits then some .nan
    else readDecimal negative digits

end SourceText.Number
