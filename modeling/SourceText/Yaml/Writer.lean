import SourceText.Text.Hexadecimal
import SourceText.Value.Basic
import SourceText.Yaml.Page
import SourceText.Yaml.Source
import SourceText.Yaml.Tag

/-!
# Writing YAML

The YAML text of a value, in blocks. A text is written plainly where that reads back, in single
quotes where those can hold it, and in double quotes with escapes otherwise. Lines of more than 80
columns are folded at single spaces.
-/

namespace SourceText.Yaml

/-- The column after which a line is folded. -/
def width : Nat := 80

/-- The styles in which a text is written. -/
inductive ScalarStyle where
  | plain
  | single
  | double
  deriving DecidableEq, Repr

/-- Characters that are written as they are: the printable ones of ASCII and the line feed. -/
def isOrdinary (c : Char) : Bool := c == '\n' || (0x20 ≤ c.toNat && c.toNat ≤ 0x7E)

/-- Whether a blank and a line feed stand next to one another. -/
def hasBlankAtBreak : Text → Bool
  | ' ' :: '\n' :: _ => true
  | '\n' :: ' ' :: _ => true
  | _ :: rest => hasBlankAtBreak rest
  | [] => false

/-- Whether a colon before a blank or a number sign after one stands behind the first character;
`previous` is the character before the text. -/
def hasInnerMark (previous : Char) : Text → Bool
  | [] => false
  | c :: rest =>
    (c == ':' && isBlankOrEnd (rest.headD endMark)) || (c == '#' && isBlankOrEnd previous) ||
      hasInnerMark c rest

/-- Whether the first character of a text would be read as a mark of its own. -/
def startsWithMark : Text → Bool
  | [] => false
  | c :: rest =>
    "#,[]\x7b\x7d&*!|>'\"%@\x60".toList.contains c ||
      ((c == '?' || c == ':' || c == '-') && isBlankOrEnd (rest.headD endMark))

/-- Whether a text may be written without quotes as far as its characters go. -/
def allowsPlain (text : Text) : Bool :=
  match text with
  | [] => false
  | c :: rest =>
    c != ' ' && text.getLast? != some ' ' && text.all (fun c => isOrdinary c && c != '\n') &&
      !(['-', '-', '-'].isPrefixOf text) && !(['.', '.', '.'].isPrefixOf text) &&
      !startsWithMark text && !hasInnerMark c rest

/-- The style of a text. -/
def styleOf (text : Text) : ScalarStyle :=
  if allowsPlain text && Tag.ofPlain text = .str then .plain
  else if text.all isOrdinary && !hasBlankAtBreak text then .single
  else .double

/-! ### The three styles -/

/-- A run of spaces: a single one is replaced by a new line when the present one is long. `inner`
tells whether the run may be folded. -/
def putSpaces (p : Page) (indent : Nat) (inner : Bool) (count : Nat) : Page :=
  if count = 1 && width < p.column && inner then p.indentTo indent
  else p.put (List.replicate count ' ')

/-- The words of a plain text. `fuel` bounds their number. -/
def putPlain (indent : Nat) (folds : Bool) : (fuel : Nat) → Text → Page → Page
  | 0, _, p => p
  | fuel + 1, text, p =>
    match text with
    | [] => p
    | ' ' :: _ =>
      let spaces := text.takeWhile (· == ' ')
      putPlain indent folds fuel (text.drop spaces.length)
        (putSpaces p indent folds spaces.length).inScalar
    | _ =>
      let word := text.takeWhile (· != ' ')
      putPlain indent folds fuel (text.drop word.length) (p.put word)

/-- A text without quotes. -/
def writePlain (indent : Nat) (folds : Bool) (text : Text) (p : Page) : Page :=
  let p := if p.spaced || text.isEmpty then p else p.put [' ']
  if text.isEmpty then p else putPlain indent folds text.length text p.inScalar

/-- Line feeds inside single quotes, one more than there are. -/
def putBreaks : Nat → Page → Page
  | 0, p => p
  | n + 1, p => putBreaks n p.endLine

/-- The inside of single quotes. `first` holds at its start; `fuel` bounds the pieces. -/
def putSingle (indent : Nat) (folds : Bool) : (fuel : Nat) → (first : Bool) → Text → Page → Page
  | 0, _, _, p => p
  | fuel + 1, first, text, p =>
    match text with
    | [] => p
    | '\'' :: rest => putSingle indent folds fuel false rest (p.put ['\'', '\''])
    | ' ' :: _ =>
      let spaces := text.takeWhile (· == ' ')
      let rest := text.drop spaces.length
      putSingle indent folds fuel false rest
        (putSpaces p indent (folds && !first && !rest.isEmpty) spaces.length)
    | '\n' :: _ =>
      let breaks := text.takeWhile (· == '\n')
      putSingle indent folds fuel false (text.drop breaks.length)
        ((putBreaks (breaks.length + 1) p).indentTo indent)
    | _ =>
      let word := text.takeWhile fun c => !(c == ' ' || c == '\n' || c == '\'')
      putSingle indent folds fuel false (text.drop word.length) (p.put word)

/-- A text in single quotes. -/
def writeSingle (indent : Nat) (folds : Bool) (text : Text) (p : Page) : Page :=
  (putSingle indent folds text.length true text (p.indicator "'" true)).indicator "'" false

/-- Whether a code point stands for itself inside double quotes. -/
def isUnescaped : Point → Bool
  | .char c => c != '"' && c != '\\' && 0x20 ≤ c.toNat && c.toNat ≤ 0x7E
  | .half _ => false

/-- The escape of a character. -/
def escapedChar (c : Char) : Text :=
  match c with
  | '\x00' => ['\\', '0']
  | '\x07' => ['\\', 'a']
  | '\x08' => ['\\', 'b']
  | '\t' => ['\\', 't']
  | '\n' => ['\\', 'n']
  | '\x0b' => ['\\', 'v']
  | '\x0c' => ['\\', 'f']
  | '\r' => ['\\', 'r']
  | '\x1b' => ['\\', 'e']
  | '"' => ['\\', '"']
  | '\\' => ['\\', '\\']
  | '\x85' => ['\\', 'N']
  | '\xa0' => ['\\', '_']
  | '\u2028' => ['\\', 'L']
  | '\u2029' => ['\\', 'P']
  | _ =>
    if c.toNat ≤ 0xFF then '\\' :: 'x' :: Text.upperHexDigits 2 c.toNat
    else if c.toNat ≤ 0xFFFF then '\\' :: 'u' :: Text.upperHexDigits 4 c.toNat
    else '\\' :: 'U' :: Text.upperHexDigits 8 c.toNat

/-- The escape of a code point. -/
def escaped : Point → Text
  | .char c => escapedChar c
  | .half offset => '\\' :: 'u' :: Text.upperHexDigits 4 (Point.half offset).code

/-- The inside of double quotes. `pending` are the characters that have been passed and not yet
written, the latest first; `first` holds at the first character. A long line is broken before a
space and behind an escape, but not after the last character; a backslash stands before the break,
and behind it if a space follows. -/
def putDouble (indent : Nat) (folds : Bool) :
    (first : Bool) → (pending : Text) → RawText → Page → Page
  | _, pending, [], p => p.put pending.reverse
  | first, pending, point :: rest, p =>
    let plain := isUnescaped point
    -- An escape is written at once, with what is pending before it.
    let p := if plain then p else (p.put pending.reverse).put (escaped point)
    let pending := if plain then pending else []
    let breaks :=
      folds && !first && !rest.isEmpty && (point == .char ' ' || !plain || pending.isEmpty) &&
        width < (p.column : Int) + (if plain then (pending.length : Int) else -1)
    if breaks then
      let p := ((p.put pending.reverse).put ['\\']).indentTo indent |>.inScalar
      let following := if plain then point else rest.headD (.char ' ')
      let p := if following = .char ' ' then p.put ['\\'] else p
      putDouble indent folds false (if plain then [point.shown] else []) rest p
    else putDouble indent folds false (if plain then point.shown :: pending else []) rest p

/-- A text in double quotes. -/
def writeDouble (indent : Nat) (folds : Bool) (text : RawText) (p : Page) : Page :=
  (putDouble indent folds true [] text (p.indicator "\"" true)).indicator "\"" false

/-- A text in its style. -/
def writeText (indent : Nat) (folds : Bool) (text : Text) (p : Page) : Page :=
  match styleOf text with
  | .plain => writePlain indent folds text p
  | .single => writeSingle indent folds text p
  | .double => writeDouble indent folds text.raw p

/-! ### Values -/

/-- Numbers in YAML; one without a point gets it before its power of ten. -/
def numberStyle : Binary64.NumberStyle := ⟨-4, 16, ".inf", "-.inf", ".nan"⟩

/-- A number. -/
def numberText (x : Binary64) : Text :=
  let text := (x.text numberStyle).toList
  if text.contains '.' then text
  else text.flatMap fun c => if c = 'e' then ['.', '0', 'e'] else [c]

/-- The character that six bits stand for. -/
def sextetChar (n : Nat) : Char :=
  if n < 26 then Char.ofNat (n + 65)
  else if n < 52 then Char.ofNat (n + 71)
  else if n < 62 then Char.ofNat (n - 4)
  else if n = 62 then '+'
  else '/'

/-- Bytes as text of 64 characters. -/
def encodeBase64 : List UInt8 → Text
  | a :: b :: c :: rest =>
    let n := a.toNat * 65536 + b.toNat * 256 + c.toNat
    sextetChar (n / 262144) :: sextetChar (n / 4096 % 64) :: sextetChar (n / 64 % 64) ::
      sextetChar (n % 64) :: encodeBase64 rest
  | [a, b] =>
    let n := a.toNat * 1024 + b.toNat * 4
    [sextetChar (n / 4096), sextetChar (n / 64 % 64), sextetChar (n % 64), '=']
  | [a] =>
    let n := a.toNat * 16
    [sextetChar (n / 64), sextetChar (n % 64), '=', '=']
  | [] => []

/-- Lines of 76 characters. `fuel` bounds their number. -/
def putDataLines (indent : Nat) : (fuel : Nat) → Text → Page → Page
  | 0, _, p => p
  | fuel + 1, text, p =>
    if text.isEmpty then p
    else putDataLines indent fuel (text.drop 76) ((p.indentTo indent).put (text.take 76)).inScalar

/-- Bytes in a block of their own. -/
def writeBytes (indent : Nat) (bytes : List UInt8) (p : Page) : Page :=
  let p := p.indicator "!!binary" true
  if bytes.isEmpty then (p.indicator "\"" true).indicator "\"" false
  else
    let text := encodeBase64 bytes
    (putDataLines indent text.length text (p.indicator "|" true).endLine).endLine

/-- The words for values other than texts, bytes and collections. -/
def wordOf : Value → Text
  | .null => "null".toList
  | .bool b => (if b then "true" else "false").toList
  | .integer n => (integerText n).toList
  | .number x => numberText x
  | .timestamp t => (t.isoText " ").toList
  | _ => []

/-- A value that is no collection. -/
def writeScalar (indent : Nat) (folds : Bool) (value : Value) (p : Page) : Page :=
  match value with
  | .string s => writeText indent folds s.toList p
  | .halved s => writeDouble indent folds s p
  | .bytes bytes => writeBytes indent bytes p
  | value => writePlain indent folds (wordOf value) p

/-- Characters that end a line inside a text. -/
def isInnerBreak (c : Char) : Bool := isBreak c && c != '\r'

/-- Whether a key stands on the line of its value: it is short, not empty and on one line. -/
def isShortKey : Value → Bool
  | .string s => !s.isEmpty && s.length < 123 && !s.toList.any isInnerBreak
  | .halved s => s.length < 123 && !s.shown.any isInnerBreak
  | .bytes _ => false
  | value => (wordOf value).length < 123

/-- The column of a block inside a block at `outer`; the outermost block stands at the margin. -/
def innerColumn (outer : Option Nat) : Nat := (outer.map (· + 2)).getD 0

mutual

/-- A value inside a block at `outer`. `inMapping` tells whether it belongs to a key: the items of
such a list stand in the column of the key. -/
def writeValue (outer : Option Nat) (inMapping : Bool) : Value → Page → Page
  | .mapping [], p => (p.indicator "\x7b" true).indicator "\x7d" false
  | .mapping (entry :: entries), p =>
    writeEntries (innerColumn outer) (entry :: entries) p
  | .set [], p => ((p.indicator "!!set" true).indicator "\x7b" true).indicator "\x7d" false
  | .set members, p =>
    writeMembers (innerColumn outer) members (p.indicator "!!set" true)
  | .list [], p => (p.indicator "[" true).indicator "]" false
  | .list (item :: items), p =>
    let column := if inMapping && !p.fresh then outer.getD 0 else innerColumn outer
    writeItems column (item :: items) p
  | .pair first second, p =>
    let column := innerColumn outer
    writeValue (some column) false second
      ((writeValue (some column) false first ((p.indentTo column).indicator "-" true true)).indentTo
        column |>.indicator "-" true true)
  | value, p => writeScalar (innerColumn outer) true value p

/-- The items of a list, each behind a dash. -/
def writeItems (column : Nat) : List Value → Page → Page
  | [], p => p
  | item :: items, p =>
    writeItems column items
      (writeValue (some column) false item ((p.indentTo column).indicator "-" true true))

/-- The entries of a mapping. -/
def writeEntries (column : Nat) : List (Value × Value) → Page → Page
  | [], p => p
  | (key, value) :: entries, p =>
    let p := p.indentTo column
    let p :=
      if isShortKey key then (writeScalar (column + 2) false key p).indicator ":" false
      else
        let p := writeScalar (column + 2) true key (p.indicator "?" true true)
        (p.indentTo column).indicator ":" true true
    writeEntries column entries (writeValue (some column) true value p)

/-- The members of a set, as keys without values. -/
def writeMembers (column : Nat) : List Value → Page → Page
  | [], p => p
  | member :: members, p =>
    writeMembers column members
      (writePlain (column + 2) true "null".toList
        ((writeScalar (column + 2) false member (p.indentTo column)).indicator ":" false))

end

/-- The YAML text of a value. -/
def write (value : Value) : Text := ((writeValue none false value {}).indentTo 0).text

end SourceText.Yaml
