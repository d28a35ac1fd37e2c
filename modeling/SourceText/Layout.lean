import SourceText.Number.Decimal
import SourceText.Record
import SourceText.Scan

/-!
# Layout of bracketed source text

The layout of compacted source text is rebuilt from its brackets and semicolons: an opening bracket
ends its line and indents what follows, a closing bracket stands on a line of its own one level
back, and a semicolon or a line break ends a line. Brackets inside literals and comments have no
meaning. The text is not parsed, so unbalanced brackets are laid out as well.
-/

namespace SourceText

namespace Layout

/-- Brackets that end their line and indent the lines after it. -/
def isOpener (c : Char) : Bool := c == '{' || c == '['

/-- Brackets that start a line, one level back. -/
def isCloser (c : Char) : Bool := c == '}' || c == ']'

/-- Punctuation that stays on the line of the closing bracket before it. -/
def isTrailing (c : Char) : Bool := c == ';' || c == ',' || c == ')'

/-- The default indentation of one level. -/
def defaultUnit : Text := [' ', ' ', ' ', ' ']

/-- How many levels a line is indented. -/
structure Depth where
  level : Int := 0
  deriving DecidableEq, Repr

namespace Depth

/-- One level more. -/
def indent (depth : Depth) : Depth := ⟨depth.level + 1⟩

/-- One level less, but never below zero. -/
def dedent (depth : Depth) : Depth := ⟨max 0 (depth.level - 1)⟩

/-- The blanks in front of a line. -/
def margin (unit : Text) (depth : Depth) : Text :=
  (List.replicate depth.level.toNat unit).flatten

end Depth

/-- The lines written so far, the latest first, and the characters of the line that is being
gathered, the latest first. `afterCloser` holds while the latest line is that of a closing bracket
and only blanks have come since. -/
structure Writer where
  unit : Text := defaultUnit
  depth : Depth := {}
  written : List Text := []
  gathered : Text := []
  afterCloser : Bool := false
  deriving DecidableEq, Repr

/-- An opening bracket put behind the text of its line: directly after an opening parenthesis, and
as the subscript of what touches it; after a space otherwise. -/
def attachOpener (content : Text) (opener : Char) (spaced : Bool) : Text :=
  if content.getLast? = some '(' then content ++ [opener]
  else if opener = '[' && !spaced then content ++ [opener]
  else content ++ [' ', opener]

namespace Writer

/-- The written lines in order. -/
def lines (w : Writer) : List Text := w.written.reverse

/-- The gathered characters in order. -/
def buffer (w : Writer) : Text := w.gathered.reverse

/-- The gathered line without the blanks around it. -/
def pending (w : Writer) : Text := w.buffer.trim

/-- Writes a line at the present depth. -/
def emit (w : Writer) (content : Text) : Writer :=
  { w with written := (w.depth.margin w.unit ++ content) :: w.written }

/-- Gathers a character. -/
def gather (w : Writer) (c : Char) : Writer := { w with gathered := c :: w.gathered }

/-- Puts a character behind the latest line. -/
def extendLast (w : Writer) (c : Char) : Writer :=
  match w.written with
  | [] => w
  | line :: earlier => { w with written := (line ++ [c]) :: earlier }

/-- Takes a character of code that has no meaning for the layout. -/
def append (w : Writer) (c : Char) : Writer :=
  if w.afterCloser && !isBlank c then
    if isTrailing c && w.pending.isEmpty then w.extendLast c
    else { w.gather c with afterCloser := false }
  else w.gather c

/-- Takes a character of a literal or comment. -/
def appendLiteral (w : Writer) (c : Char) : Writer := { w.gather c with afterCloser := false }

/-- Ends the gathered line; a blank line is dropped. -/
def flush (w : Writer) : Writer :=
  if w.pending.isEmpty then { w with gathered := [] }
  else { w.emit w.pending with gathered := [], afterCloser := false }

/-- Takes an opening bracket. -/
def openBlock (w : Writer) (c : Char) : Writer :=
  let line :=
    if w.pending.isEmpty then [c] else attachOpener w.pending c (w.gathered.head?.any isBlank)
  { w.emit line with gathered := [], depth := w.depth.indent, afterCloser := false }

/-- Takes a closing bracket. -/
def closeBlock (w : Writer) (c : Char) : Writer :=
  let flushed := w.flush
  { { flushed with depth := flushed.depth.dedent }.emit [c] with afterCloser := true }

/-- Takes a semicolon. -/
def endStatement (w : Writer) : Writer :=
  if w.afterCloser && w.pending.isEmpty then { w.extendLast ';' with gathered := [] }
  else (w.gather ';').flush

/-- Takes one character with its region. -/
def take (w : Writer) : Char × Region → Writer
  | (c, .code) =>
    if isOpener c then w.openBlock c
    else if isCloser c then w.closeBlock c
    else if c = ';' then w.endStatement
    else if isLineBreak c then w.flush
    else w.append c
  | (c, _) => w.appendLiteral c

/-- The text of the written lines, without line feeds at its ends. -/
def text (w : Writer) : Text :=
  let joined := Text.join ['\n'] w.lines
  ((joined.dropWhile (· == '\n')).reverse.dropWhile (· == '\n')).reverse

end Writer

end Layout

open Layout in
/-- The writer after the whole text, its last line ended. -/
def layout (unit : Text) (text : Text) : Writer :=
  ((scan true text).foldl Writer.take { unit }).flush

open Layout in
/-- The text laid out anew, each level indented by `unit`. -/
def reformat (unit : Text) (text : Text) : Text := (layout unit text).text

open Layout in
/-- The message after a layout. -/
def layoutSummary (before after : Text) (depth : Depth) : String :=
  let lines := after.count '\n' + 1
  let level := integerText depth.level
  s!"Reformatted {before.length} chars into {lines} lines (final indent level {level})"

/-- The text laid out anew, with a message about it. The empty text needs no layout. -/
def reformatLogged (unit : Text) (text : Text) : Recorded Text :=
  if text.isEmpty then pure []
  else do
    let laidOut := layout unit text
    .log .debug (layoutSummary text laidOut.text laidOut.depth)
    pure laidOut.text

end SourceText
