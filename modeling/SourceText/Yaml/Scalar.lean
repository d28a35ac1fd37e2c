import SourceText.Number.Reader
import SourceText.Json.Reader
import SourceText.Text.Quoted
import SourceText.Value.Basic
import SourceText.Yaml.Base64
import SourceText.Yaml.Source
import SourceText.Yaml.Tag

/-!
# Values of scalars

What the text of a scalar stands for under its tag.
-/

namespace SourceText.Yaml

/-- The text without low lines. -/
def dropLines (text : Text) : Text := text.filter (· != '_')

/-- A word that is no integer in some base. -/
def noInteger (base : Nat) (text : Text) : Fault :=
  .number s!"invalid literal for int() with base {base}: {String.ofList (Text.quoted text)}"

/-- A word that is no number. -/
def noFloat (text : Text) : Fault :=
  .number s!"could not convert string to float: {String.ofList (Text.quoted text)}"

/-- Digits in a base that is a power of two. -/
def readInBase (base : Nat) (text : Text) : Except Fault Nat :=
  let digits? := text.mapM fun c => (Text.hexValue? c).filter (· < base)
  match digits? with
  | some (d :: ds) => .ok ((d :: ds).foldl (fun n d => base * n + d) 0)
  | _ => .error (noInteger base text)

/-- A decimal integer. -/
def readDecimalInteger (text : Text) : Except Fault Int :=
  (Number.readInteger text).mapError fun
    | .malformed => noInteger 10 text
    | .tooLong digits => .number (Json.tooManyDigits digits)

/-- An integer in one of its forms. -/
def readInteger (text : Text) : Except Fault Int := do
  let body := dropLines text
  let negative := body.head? == some '-'
  let digits := if negative || body.head? = some '+' then body.drop 1 else body
  let magnitude ←
    match digits with
    | [] => .error .noDigits
    | ['0'] => .ok 0
    | '0' :: 'b' :: ds => (readInBase 2 ds).map Int.ofNat
    | '0' :: 'x' :: ds => (readInBase 16 ds).map Int.ofNat
    | '0' :: 'o' :: ds | '0' :: 'O' :: ds => (readInBase 8 ds).map Int.ofNat
    | '0' :: ds => (readInBase 8 ('0' :: ds)).map Int.ofNat
    | _ =>
      if digits.contains ':' then do
        let parts ← (Text.splitOn (· == ':') digits).mapM readDecimalInteger
        .ok (parts.foldl (fun n d => 60 * n + d) 0)
      else readDecimalInteger digits
  .ok (if negative then -magnitude else magnitude)

/-- The sum of numbers in groups of sixty, the last first; `base` is the weight of the next. -/
def sumSixties : (sum base : Binary64) → List Binary64 → Binary64
  | sum, _, [] => sum
  | sum, base, d :: ds => sumSixties (sum + d * base) (base * Binary64.ofInt 60) ds

/-- A number with a point in one of its forms. -/
def readFloat (text : Text) : Except Fault Binary64 := do
  let body := (dropLines text).map Char.toLower
  let negative := body.head? == some '-'
  let digits := if negative || body.head? = some '+' then body.drop 1 else body
  let part (t : Text) : Except Fault Binary64 :=
    match Number.readFloat t with
    | some x => .ok x
    | none => .error (noFloat t)
  let magnitude ←
    if body.isEmpty then .error .noDigits
    else if digits = ".inf".toList then .ok (.infinite false)
    else if digits = ".nan".toList then .ok .nan
    else if digits.contains ':' then do
      let parts ← (Text.splitOn (· == ':') digits).mapM part
      .ok (sumSixties Binary64.zero Binary64.one parts.reverse)
    else part digits
  .ok (if negative then -magnitude else magnitude)

/-- The number that digits stand for. -/
def digitsValue (digits : Text) : Nat := Number.ofDigits (Number.spanDigits digits).1

/-- A timestamp. -/
def readTimestamp (text : Text) : Except Fault Timestamp :=
  match TimestampText.read text with
  | none => .error .date
  | some t =>
    let time := t.time.map fun (hour, minute, second, fraction) =>
      let micro := (fraction ++ List.replicate 6 '0').take 6
      let offset := t.zone.map fun (sign, hours, minutes) =>
        let o : Int := digitsValue hours * 60 + digitsValue minutes
        if sign = some '-' then -o else o
      { hour := digitsValue hour, minute := digitsValue minute, second := digitsValue second,
        microsecond := digitsValue micro, offset : TimeOfDay }
    (Timestamp.check ⟨digitsValue t.year, digitsValue t.month, digitsValue t.day, time⟩).mapError
      fun fault => .number fault.message

/-- The value of a scalar with the given tag. Only texts can have halves of pairs in them. -/
def readScalar (tag : Tag) (raw : RawText) : Except Fault Value :=
  let text := raw.shown
  match tag with
  | .null => .ok .null
  | .bool =>
    let word := String.ofList (text.map Char.toLower)
    if ["yes", "true", "on"].contains word then .ok (.bool true)
    else if ["no", "false", "off"].contains word then .ok (.bool false)
    else .error .truthValue
  | .int => (readInteger text).map .integer
  | .float => (readFloat text).map .number
  | .binary =>
    if text.all (·.toNat < 128) then
      match decodeBase64 text with
      | some bytes => .ok (.bytes bytes)
      | none => .error .tag
    else .error .tag
  | .timestamp => (readTimestamp text).map .timestamp
  | .str => .ok (.ofRaw raw)
  | _ => .error .tag

end SourceText.Yaml
