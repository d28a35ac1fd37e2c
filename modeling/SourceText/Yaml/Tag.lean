import SourceText.Text

/-!
# Tags of YAML nodes

The tag of a node tells what kind of value it stands for. A plain scalar without a tag gets one by
its form: numbers, dates, truth values and a few words are told from other text.
-/

namespace SourceText.Yaml

/-- What a node stands for. -/
inductive Tag where
  | null
  | bool
  | int
  | float
  | binary
  | timestamp
  | str
  | seq
  | map
  | omap
  | pairs
  | set
  | merge
  | value
  | unknown
  deriving DecidableEq, Repr

namespace Tag

/-- What the addresses of all known tags start with. -/
def base : String := "tag:yaml.org,2002:"

/-- The tags with a name of their own. -/
def named : List (String × Tag) :=
  [("null", null), ("bool", bool), ("int", int), ("float", float), ("binary", binary),
    ("timestamp", timestamp), ("str", str), ("seq", seq), ("map", map), ("omap", omap),
    ("pairs", pairs), ("set", set), ("merge", merge), ("value", value)]

/-- The tag of a full address. -/
def ofAddress (address : Text) : Tag :=
  match named.find? fun (name, _) => (base ++ name).toList = address with
  | some (_, tag) => tag
  | none => unknown

/-! ### The forms of plain scalars -/

/-- Digits and low lines. -/
def isDigitOrLine (c : Char) : Bool := c.isDigit || c == '_'

/-- The text without a sign at its start. -/
def dropSign : Text → Text
  | '+' :: rest => rest
  | '-' :: rest => rest
  | text => text

/-- Whether the text is made of groups of a colon and a number below sixty, at least one. The rest
behind the groups has to satisfy `tail`. -/
def hasSixties (tail : Text → Bool) : (first : Bool) → Text → Bool
  | first, ':' :: a :: b :: rest =>
    (a.isDigit && hasSixties tail false (b :: rest)) ||
      (a.isDigit && a.toNat ≤ 53 && b.isDigit && hasSixties tail false rest) ||
      (!first && tail (':' :: a :: b :: rest))
  | first, [':', a] => (a.isDigit && tail []) || (!first && tail [':', a])
  | first, rest => !first && tail rest

/-- A decimal integer in groups of sixty. -/
def isSixties (text : Text) : Bool :=
  match dropSign text with
  | c :: rest =>
    c.isDigit && c != '0' && hasSixties List.isEmpty true (rest.dropWhile isDigitOrLine)
  | [] => false

/-- An integer: binary, octal, decimal, hexadecimal or in groups of sixty. -/
def isInteger (text : Text) : Bool :=
  (match dropSign text with
  | '0' :: 'b' :: d :: ds => (d :: ds).all fun c => c == '0' || c == '1' || c == '_'
  | '0' :: 'x' :: d :: ds => (d :: ds).all fun c =>
      c.isDigit || c == '_' || ('a' ≤ c && c ≤ 'f') || ('A' ≤ c && c ≤ 'F')
  | '0' :: ds => ds.all fun c => ('0' ≤ c && c ≤ '7') || c == '_'
  | c :: ds => c.isDigit && ds.all isDigitOrLine
  | [] => false) || isSixties text

/-- A power of ten with its sign, or nothing. -/
def isPower : Text → Bool
  | [] => true
  | e :: sign :: d :: ds =>
    (e == 'e' || e == 'E') && (sign == '+' || sign == '-') && (d :: ds).all Char.isDigit
  | _ => false

/-- A number with a point. -/
def isFloat (text : Text) : Bool :=
  let body := dropSign text
  let pointed (rest : Text) : Bool :=
    match rest with
    | '.' :: fraction => isPower (fraction.dropWhile isDigitOrLine)
    | _ => false
  let sixtiesPointed (rest : Text) : Bool :=
    match rest with
    | '.' :: fraction => fraction.all isDigitOrLine
    | _ => false
  (match body with
  | c :: rest =>
    c.isDigit &&
      (pointed (rest.dropWhile isDigitOrLine) ||
        hasSixties sixtiesPointed true (rest.dropWhile isDigitOrLine))
  | [] => false) ||
  (match text with
  | '.' :: d :: rest => d.isDigit && isPower (rest.dropWhile isDigitOrLine)
  | _ => false) ||
  [".inf", ".Inf", ".INF"].any (·.toList = body) ||
  [".nan", ".NaN", ".NAN"].any (·.toList = text)

/-- Truth values. -/
def isTruth (text : Text) : Bool :=
  ["yes", "Yes", "YES", "no", "No", "NO", "true", "True", "TRUE", "false", "False", "FALSE", "on",
    "On", "ON", "off", "Off", "OFF"].any (·.toList = text)

/-- Words for nothing, of which the empty text is one. -/
def isNull (text : Text) : Bool := ["", "~", "null", "Null", "NULL"].any (·.toList = text)

end Tag

/-! ### Dates and times -/

/-- The parts of a timestamp, as their digits. -/
structure TimestampText where
  year : Text
  month : Text
  day : Text
  /-- Hour, minute and second, and the digits after the point. -/
  time : Option (Text × Text × Text × Text) := none
  /-- Whether an offset is given, its sign if it is a number, and its hours and minutes. -/
  zone : Option (Option Char × Text × Text) := none

namespace TimestampText

/-- One or two digits, and the rest. -/
def oneOrTwo : Text → Option (Text × Text)
  | a :: b :: rest =>
    if a.isDigit then if b.isDigit then some ([a, b], rest) else some ([a], b :: rest) else none
  | [a] => if a.isDigit then some ([a], []) else none
  | [] => none

/-- Two digits, and the rest. -/
def two : Text → Option (Text × Text)
  | a :: b :: rest => if a.isDigit && b.isDigit then some ([a, b], rest) else none
  | _ => none

/-- A character that has to come. -/
def expect (c : Char) : Text → Option Text
  | d :: rest => if c = d then some rest else none
  | [] => none

/-- The offset at the end of a timestamp, with blanks before it. -/
def readZone (text : Text) : Option (Option (Option Char × Text × Text)) :=
  if text.isEmpty then some none
  else
    match text.dropWhile fun c => c == ' ' || c == '\t' with
    | ['Z'] => some (some (none, [], []))
    | sign :: rest =>
      if sign = '+' || sign = '-' then do
        let (hours, rest) ← oneOrTwo rest
        if rest.isEmpty then some (some (some sign, hours, []))
        else
          let (minutes, rest) ← (expect ':' rest).bind two
          if rest.isEmpty then some (some (some sign, hours, minutes)) else none
      else none
    | [] => none

/-- The time of day behind a date. -/
def readTime (date : TimestampText) (text : Text) : Option TimestampText := do
  let start ←
    match text with
    | 'T' :: rest => some rest
    | 't' :: rest => some rest
    | c :: rest =>
      if c = ' ' || c = '\t' then some (rest.dropWhile fun c => c == ' ' || c == '\t') else none
    | [] => none
  let (hour, rest) ← oneOrTwo start
  let (minute, rest) ← (expect ':' rest).bind two
  let (second, rest) ← (expect ':' rest).bind two
  let (fraction, rest) :=
    match rest with
    | '.' :: digits => (digits.takeWhile Char.isDigit, digits.dropWhile Char.isDigit)
    | _ => ([], rest)
  let zone ← readZone rest
  some { date with time := some (hour, minute, second, fraction), zone }

/-- The parts of a timestamp. -/
def read (text : Text) : Option TimestampText := do
  let year := text.take 4
  if year.length = 4 && year.all Char.isDigit then
    let (month, rest) ← (expect '-' (text.drop 4)).bind oneOrTwo
    let (day, rest) ← (expect '-' rest).bind oneOrTwo
    if rest.isEmpty then some { year, month, day } else readTime { year, month, day } rest
  else none

/-- Whether a plain scalar is a timestamp: a date alone has two digits for month and day. -/
def isTimestamp (text : Text) : Bool :=
  match read text with
  | some t => t.time.isSome || (t.month.length == 2 && t.day.length == 2)
  | none => false

end TimestampText

/-- The tag of a plain scalar. -/
def Tag.ofPlain (text : Text) : Tag :=
  if Tag.isTruth text then .bool
  else if Tag.isFloat text then .float
  else if Tag.isInteger text then .int
  else if text = ['<', '<'] then .merge
  else if Tag.isNull text then .null
  else if TimestampText.isTimestamp text then .timestamp
  else if text = ['='] then .value
  else if text = ['!'] || text = ['&'] || text = ['*'] then .unknown
  else .str

end SourceText.Yaml
