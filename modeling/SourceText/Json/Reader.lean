import SourceText.Json.Value
import SourceText.Number.Decimal
import SourceText.Number.Reader
import SourceText.Text.Hexadecimal

/-!
# Reading JSON

A reader for JSON texts that also accepts the words for numbers that JSON lacks. It stops at the
first fault and says what is wrong and where.
-/

namespace SourceText.Json

/-- What is wrong with a JSON text. -/
inductive Fault where
  | byteOrderMark
  | noValue
  | noName
  | noColon
  | noComma
  | unterminated
  | control
  | badEscape
  | badUnicodeEscape
  | extraData
  deriving DecidableEq, Repr

/-- The words for a fault. -/
def Fault.message : Fault → String
  | byteOrderMark => "Unexpected UTF-8 BOM (decode using utf-8-sig)"
  | noValue => "Expecting value"
  | noName => "Expecting property name enclosed in double quotes"
  | noColon => "Expecting ':' delimiter"
  | noComma => "Expecting ',' delimiter"
  | unterminated => "Unterminated string starting at"
  | control => "Invalid control character at"
  | badEscape => "Invalid \\escape"
  | badUnicodeEscape => "Invalid \\uXXXX escape"
  | extraData => "Extra data"

/-- Why a text cannot be read: a fault, with the count of code points from it to the end, or an
integer with too many digits. -/
inductive Stop where
  | fault (what : Fault) (remaining : Nat)
  | tooLong (digits : Nat)
  deriving DecidableEq, Repr

/-- A failed reading. `line` and `column` count from one, `position` from zero. -/
inductive ReadError where
  | fault (what : Fault) (line column position : Nat)
  | tooLong (digits : Nat)
  deriving DecidableEq, Repr

/-- The words for an integer with too many digits. -/
def tooManyDigits (digits : Nat) : String :=
  s!"Exceeds the limit ({Number.maxDigits} digits) for integer string conversion: value has {digits} digits; use sys.set_int_max_str_digits() to increase the limit"

/-- The words for a failed reading. -/
def ReadError.message : ReadError → String
  | fault what line column position =>
    s!"{what.message}: line {line} column {column} (char {position})"
  | tooLong digits => tooManyDigits digits

/-- Blanks between the parts of a JSON text. -/
def isSpace (point : Point) : Bool :=
  point == .char ' ' || point == .char '\t' || point == .char '\n' || point == .char '\r'

/-- The text from its first code point that is no blank on. -/
def skipSpace (text : RawText) : RawText := text.dropWhile isSpace

/-- A reading step: a value and the text after it. -/
abbrev Step (α : Type) : Type := Except Stop (α × RawText)

/-- Stops at the first code point of `rest`. -/
def stop {α β : Type} (what : Fault) (rest : List β) : Except Stop α :=
  .error (.fault what rest.length)

/-- Four hexadecimal digits that are followed by something. -/
def hexUnit? : RawText → Option (Nat × RawText)
  | .char a :: .char b :: .char c :: .char d :: next :: rest =>
    (Text.ofHexDigits? [a, b, c, d]).map fun unit => (unit, next :: rest)
  | _ => none

/-- The character that an escape by a letter stands for. -/
def escapeChar? (c : Char) : Option Char :=
  match c with
  | '"' => some '"'
  | '\\' => some '\\'
  | '/' => some '/'
  | 'b' => some '\x08'
  | 'f' => some '\x0c'
  | 'n' => some '\n'
  | 'r' => some '\r'
  | 't' => some '\t'
  | _ => none

/-- The text after the escape of a second code unit, at least seven characters of which are left. -/
def secondUnit? : RawText → Option RawText
  | .char '\\' :: .char 'u' :: rest => if 5 ≤ rest.length then some rest else none
  | _ => none

/-- The code points of a string up to its closing quote, put behind those of `before`, which come
latest first. A code unit that is half of a pair stays alone unless the escape of the other half
follows. `opening` is the count of code points from the opening quote to the end of the text; `fuel`
bounds the code points read. -/
def readPoints (opening : Nat) : Nat → RawText → RawText → Step RawText
  | 0, _, _ => .error (.fault .unterminated opening)
  | _, _, [] => .error (.fault .unterminated opening)
  | fuel + 1, before, .half offset :: rest => readPoints opening fuel (.half offset :: before) rest
  | fuel + 1, before, .char c :: rest =>
    if c = '"' then .ok (before.reverse, rest)
    else if c = '\\' then
      match rest with
      | [] => .error (.fault .unterminated opening)
      | .char 'u' :: after =>
        match hexUnit? after with
        | none => stop .badUnicodeEscape rest
        | some (unit, next) =>
          if 0xD800 ≤ unit && unit ≤ 0xDBFF then
            match secondUnit? next with
            | none => readPoints opening fuel (.ofCode unit :: before) next
            | some digits =>
              match hexUnit? digits with
              | none => stop .badUnicodeEscape (next.drop 1)
              | some (low, tail) =>
                if 0xDC00 ≤ low && low ≤ 0xDFFF then
                  let code := 0x10000 + (unit - 0xD800) * 0x400 + (low - 0xDC00)
                  readPoints opening fuel (.char (Char.ofNat code) :: before) tail
                else readPoints opening fuel (.ofCode unit :: before) next
          else readPoints opening fuel (.ofCode unit :: before) next
      | e :: after =>
        match e.char?.bind escapeChar? with
        | none => stop .badEscape (.char c :: rest)
        | some decoded => readPoints opening fuel (.char decoded :: before) after
    else if c.toNat < 0x20 then stop .control (.char c :: rest)
    else readPoints opening fuel (.char c :: before) rest

/-- A string whose opening quote has just been read; `rest` is the text after that quote. -/
def readString (rest : RawText) : Step RawText :=
  readPoints (rest.length + 1) rest.length [] rest

/-! ### Words and numbers

Words and numbers consist of characters alone, so that they are read from the characters before the
first half of a pair.
-/

/-- A word or a number with the characters after it. -/
abbrev ScalarStep : Type := Except Stop (Json × Text)

/-- The digits of ASCII at the start of a text and the rest. -/
def spanAsciiDigits (text : Text) : Text × Text := text.span (fun c => c.isDigit)

/-- The whole part of a number: a zero, or digits that do not start with one. -/
def wholePart : Text → Text × Text
  | '0' :: rest => (['0'], rest)
  | text => spanAsciiDigits text

/-- The fraction of a number, without its point. -/
def fractionPart : Text → Text × Text
  | '.' :: rest =>
    match spanAsciiDigits rest with
    | ([], _) => ([], '.' :: rest)
    | found => found
  | text => ([], text)

/-- The power of ten of a number. -/
def exponentPart? : Text → Option Int × Text
  | e :: rest =>
    if e = 'e' || e = 'E' then
      let (negative, body) := Number.takeSign rest
      match spanAsciiDigits body with
      | ([], _) => (none, e :: rest)
      | (digits, after) =>
        let value : Int := Number.ofDigits (Number.spanDigits digits).1
        (some (if negative then -value else value), after)
    else (none, e :: rest)
  | [] => (none, [])

/-- A number; `text` starts at its first character. -/
def readNumber (text : Text) : ScalarStep :=
  let (negative, body) :=
    match text with
    | '-' :: rest => (true, rest)
    | _ => (false, text)
  match wholePart body with
  | ([], _) => stop .noValue text
  | (whole, rest) =>
    let (fraction, rest) := fractionPart rest
    let (exponent?, rest) := exponentPart? rest
    let digits (ds : Text) : Nat := Number.ofDigits (Number.spanDigits ds).1
    if fraction.isEmpty && exponent?.isNone then
      if Number.maxDigits < whole.length then .error (.tooLong whole.length)
      else .ok (.integer (if negative then -(digits whole : Int) else digits whole), rest)
    else
      let exponent := exponent?.getD 0 - fraction.length
      .ok (.number (Binary64.ofDecimal negative (digits (whole ++ fraction)) exponent), rest)

/-- The words of JSON and their values. -/
def words : List (String × Json) :=
  [("null", .null), ("true", .bool true), ("false", .bool false), ("NaN", .number .nan),
    ("Infinity", .number (.infinite false)), ("-Infinity", .number (.infinite true))]

/-- A word or a number. -/
def readScalar (text : Text) : ScalarStep :=
  match words.find? fun (word, _) => word.toList.isPrefixOf text with
  | some (word, value) => .ok (value, text.drop word.length)
  | none => readNumber text

/-- A word or a number, whatever comes after it. -/
def readPlain (text : RawText) : Step Json :=
  match readScalar text.leading with
  | .ok (value, rest) => .ok (value, Text.raw rest ++ text.afterLeading)
  | .error (.fault what remaining) => .error (.fault what (remaining + text.afterLeading.length))
  | .error (.tooLong digits) => .error (.tooLong digits)

/-! ### Values -/

mutual

/-- A value, which starts at the first code point of the text. `fuel` bounds the values read. -/
def readValue : Nat → RawText → Step Json
  | 0, text => stop .noValue text
  | fuel + 1, text =>
    match text with
    | [] => stop .noValue text
    | .char '"' :: rest => (readString rest).map fun (s, tail) => (.string s, tail)
    | .char '{' :: rest =>
      match skipSpace rest with
      | .char '}' :: tail => .ok (.object [], tail)
      | members =>
        (readMembers fuel members).map fun (ms, tail) => (.object (mergeMembers ms), tail)
    | .char '[' :: rest =>
      match skipSpace rest with
      | .char ']' :: tail => .ok (.array [], tail)
      | elements => (readElements fuel elements).map fun (es, tail) => (.array es, tail)
    | _ => readPlain text

/-- The elements of an array, of which one has to come, and its end. -/
def readElements : Nat → RawText → Step (List Json)
  | 0, text => stop .noValue text
  | fuel + 1, text =>
    match readValue fuel text with
    | .error e => .error e
    | .ok (element, rest) =>
      match skipSpace rest with
      | .char ']' :: tail => .ok ([element], tail)
      | .char ',' :: more =>
        (readElements fuel (skipSpace more)).map fun (es, tail) => (element :: es, tail)
      | other => stop .noComma other

/-- The members of an object, of which one has to come, and its end. -/
def readMembers : Nat → RawText → Step (List (RawText × Json))
  | 0, text => stop .noName text
  | fuel + 1, text =>
    match text with
    | .char '"' :: rest =>
      match readString rest with
      | .error e => .error e
      | .ok (name, rest) =>
        match skipSpace rest with
        | .char ':' :: rest =>
          match readValue fuel (skipSpace rest) with
          | .error e => .error e
          | .ok (value, rest) =>
            match skipSpace rest with
            | .char '}' :: tail => .ok ([(name, value)], tail)
            | .char ',' :: more =>
              (readMembers fuel (skipSpace more)).map fun (ms, tail) => ((name, value) :: ms, tail)
            | other => stop .noComma other
        | other => stop .noColon other
    | other => stop .noName other

end

/-- A whole document and blanks around it. -/
def readDocument (text : RawText) : Except Stop Json :=
  match text with
  | .char '\ufeff' :: _ => stop .byteOrderMark text
  | _ => do
    let (value, rest) ← readValue (2 * text.length + 2) (skipSpace text)
    match skipSpace rest with
    | [] => .ok value
    | other => stop .extraData other

/-- Line and column of a position, both from one. -/
def locate (text : RawText) (position : Nat) : Nat × Nat :=
  let before := text.take position
  let line := before.count (.char '\n') + 1
  let column := (before.reverse.takeWhile (· != .char '\n')).length + 1
  (line, column)

/-- The value of a JSON text. -/
def read (text : RawText) : Except ReadError Json :=
  match readDocument text with
  | .ok value => .ok value
  | .error (.tooLong digits) => .error (.tooLong digits)
  | .error (.fault what remaining) =>
    let position := text.length - remaining
    let (line, column) := locate text position
    .error (.fault what line column position)

end SourceText.Json
