import SourceText.Json.Value
import SourceText.Number.Decimal
import SourceText.Text.Hexadecimal

/-!
# Writing JSON

JSON texts on one line without blanks, or with every element and member on a line of its own. Texts
are written as they are, or with characters of ASCII only.
-/

namespace SourceText.Json

/-- How a JSON text is written: `indent` is the count of spaces per level, `none` for a single
line; `asciiOnly` escapes every character outside the printable ones of ASCII. -/
structure Style where
  indent : Option Nat
  asciiOnly : Bool := false

/-- One line without blanks. -/
def minified : Style := { indent := none }

/-- The words for numbers that JSON lacks and the powers of ten at which a point is written. -/
def numberStyle : Binary64.NumberStyle := ⟨-4, 16, "Infinity", "-Infinity", "NaN"⟩

/-- The escape of one code unit. -/
def unitEscape (unit : Nat) : Text := '\\' :: 'u' :: Text.hexDigits 4 unit

/-- One character of a string. -/
def charText (asciiOnly : Bool) (c : Char) : Text :=
  match c with
  | '"' => ['\\', '"']
  | '\\' => ['\\', '\\']
  | '\n' => ['\\', 'n']
  | '\r' => ['\\', 'r']
  | '\t' => ['\\', 't']
  | '\x08' => ['\\', 'b']
  | '\x0c' => ['\\', 'f']
  | _ =>
    let code := c.toNat
    if code < 0x20 then unitEscape code
    else if asciiOnly && 0x7F ≤ code then
      if code < 0x10000 then unitEscape code
      else
        unitEscape (0xD800 + (code - 0x10000) / 0x400) ++
          unitEscape (0xDC00 + (code - 0x10000) % 0x400)
    else [c]

/-- One code point of a string. A half of a pair stands for itself unless it has to be escaped. -/
def pointText (asciiOnly : Bool) (point : Point) : RawText :=
  match point with
  | .char c => (charText asciiOnly c).raw
  | .half _ => if asciiOnly then (unitEscape point.code).raw else [point]

/-- A string in its quotes. -/
def stringText (asciiOnly : Bool) (s : RawText) : RawText :=
  .char '"' :: s.flatMap (pointText asciiOnly) ++ [.char '"']

/-- What stands before an element on the given level: a line break and its margin, if any. -/
def lineStart (style : Style) (level : Nat) : RawText :=
  match style.indent with
  | none => []
  | some width => .char '\n' :: List.replicate (width * level) (.char ' ')

/-- What stands between a name and its value. -/
def colon (style : Style) : RawText :=
  if style.indent.isSome then [.char ':', .char ' '] else [.char ':']

mutual

/-- The text of a value that stands on the given level. -/
def writeAt (style : Style) (level : Nat) : Json → RawText
  | null => .ofString "null"
  | bool b => .ofString (if b then "true" else "false")
  | integer n => .ofString (integerText n)
  | number x => .ofString (x.text numberStyle)
  | string s => stringText style.asciiOnly s
  | array [] => [.char '[', .char ']']
  | array (element :: elements) =>
    .char '[' :: lineStart style (level + 1) ++ writeAt style (level + 1) element ++
      writeElements style (level + 1) elements ++ lineStart style level ++ [.char ']']
  | object [] => [.char '{', .char '}']
  | object ((name, value) :: members) =>
    .char '{' :: lineStart style (level + 1) ++ stringText style.asciiOnly name ++ colon style ++
      writeAt style (level + 1) value ++ writeMembers style (level + 1) members ++
      lineStart style level ++ [.char '}']

/-- The text of further elements, each after a comma. -/
def writeElements (style : Style) (level : Nat) : List Json → RawText
  | [] => []
  | element :: elements =>
    .char ',' :: lineStart style level ++ writeAt style level element ++
      writeElements style level elements

/-- The text of further members, each after a comma. -/
def writeMembers (style : Style) (level : Nat) : List (RawText × Json) → RawText
  | [] => []
  | (name, value) :: members =>
    .char ',' :: lineStart style level ++ stringText style.asciiOnly name ++ colon style ++
      writeAt style level value ++ writeMembers style level members

end

/-- The text of a value. -/
def write (style : Style) (value : Json) : RawText := writeAt style 0 value

end SourceText.Json
