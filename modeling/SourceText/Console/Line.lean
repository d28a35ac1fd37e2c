import SourceText.Text
import SourceText.Unicode.Width

/-!
# Lines on a page

A page has columns of one width. Here are lines measured, tabulators in them replaced, and long
lines broken: before a word that does not fit, where the blanks after a word belong to it but need
no room.
-/

namespace SourceText.Console

-- Sums start with the zero of the core library whatever else is imported.
attribute [local instance (high)] Zero.ofOfNat0

/-- The number of columns that a text takes. -/
def width (text : Text) : Nat := (text.map Unicode.charWidth).sum

/-- Control characters that are not put on a page. -/
def isStripped (c : Char) : Bool := c == '\x07' || c == '\x08' || (11 ≤ c.toNat && c.toNat ≤ 13)

/-- The text without the control characters that are not put on a page. -/
def strip (text : Text) : Text := text.filter (!isStripped ·)

/-- The lines of a text, one more than there are line feeds. -/
def lines (text : Text) : List Text := Text.splitOn (· = '\n') text

/-! ### Tabulators -/

/-- The distance between tabulator stops. -/
def tabSize : Nat := 8

/-- The spaces that lead from a column to the next tabulator stop. -/
def tabSpaces (column : Nat) : Text := List.replicate (tabSize - column % tabSize) ' '

/-- A line from the given column on, with spaces for its tabulators. -/
def expandFrom (column : Nat) : Text → Text
  | [] => []
  | c :: rest =>
    if c = '\t' then tabSpaces column ++ expandFrom (column + (tabSize - column % tabSize)) rest
    else c :: expandFrom (column + Unicode.charWidth c) rest

/-- A line with spaces for its tabulators. -/
def expandTabs (line : Text) : Text := expandFrom 0 line

/-! ### Shortening -/

/-- The longest start of a line that takes no more than the given columns, and the columns left. -/
def takeWidth (columns : Nat) : Text → Text × Nat
  | [] => ([], columns)
  | c :: rest =>
    if Unicode.charWidth c ≤ columns then
      let (taken, left) := takeWidth (columns - Unicode.charWidth c) rest
      (c :: taken, left)
    else ([], columns)

/-- A line with exactly the given columns, cut or filled up with spaces. -/
def fit (columns : Nat) (line : Text) : Text :=
  let (taken, left) := takeWidth columns line
  taken ++ List.replicate left ' '

/-- What becomes of a line that is too long: it is cut, and may show that. -/
inductive Overflow where
  /-- Words that fit on no line are broken. -/
  | fold
  /-- Lines that are too long end in an ellipsis. -/
  | ellipsis
  deriving DecidableEq, Repr

/-- A line that takes no more than the given columns. -/
def shorten (overflow : Overflow) (columns : Nat) (line : Text) : Text :=
  if width line ≤ columns then line
  else
    match overflow with
    | .fold => fit columns line
    | .ellipsis => fit (columns - 1) line ++ ['…']

/-- A line without the blanks at its end that make it longer than the given number of characters. -/
def dropExcess (size : Nat) (line : Text) : Text :=
  let blanks := (line.reverse.takeWhile isBlank).length
  line.take (line.length - min blanks (line.length - size))

/-! ### Breaking -/

/-- The first word of a text with the blanks around it, and the rest; `none` if there is no word. -/
def takeWord (text : Text) : Option (Text × Text) :=
  let before := text.takeWhile isBlank
  let rest := text.drop before.length
  let word := rest.takeWhile (!isBlank ·)
  let after := rest.drop word.length
  let blanks := after.takeWhile isBlank
  if word.isEmpty then none
  else some (before ++ word ++ blanks, after.drop blanks.length)

/-- The words of a text with the blanks around them; `fuel` is the length of the text. -/
def wordsFrom : (fuel : Nat) → Text → List Text
  | 0, _ => []
  | fuel + 1, text =>
    match takeWord text with
    | none => []
    | some (word, rest) => word :: wordsFrom fuel rest

/-- The pieces of a word of at most the given columns; `used` are the columns of the piece that
is being put together, `piece` its characters, the last one first. -/
def chop (columns used : Nat) (piece : Text) : Text → List Text
  | [] => [piece.reverse]
  | c :: rest =>
    let w := Unicode.charWidth c
    if columns < used + w then piece.reverse :: chop columns w [c] rest
    else chop columns (used + w) (c :: piece) rest

/-- A line that is being broken: the finished parts, the last one first, the part that is being put
together, and the columns that it takes. -/
structure Broken where
  finished : List Text
  current : Text
  used : Nat

namespace Broken

/-- Starts a new part with a word, if there is something in the current one. -/
def newLine (b : Broken) (word : Text) : Broken :=
  if b.finished.isEmpty && b.current.isEmpty then ⟨[], word, width word⟩
  else ⟨b.current :: b.finished, word, width word⟩

/-- Adds a word. -/
def add (overflow : Overflow) (columns : Nat) (b : Broken) (word : Text) : Broken :=
  let needed := width word.trimRight
  if b.used + needed ≤ columns then ⟨b.finished, b.current ++ word, b.used + width word⟩
  else if columns < needed then
    match overflow with
    | .fold => (chop columns 0 [] word).foldl newLine b
    | .ellipsis => b.newLine word
  else if b.used != 0 then b.newLine word
  else ⟨b.finished, b.current ++ word, b.used⟩

/-- The parts. -/
def parts (b : Broken) : List Text := (b.current :: b.finished).reverse

end Broken

/-- A line broken into parts of the given columns. A line without words stays in one part. -/
def breakLine (overflow : Overflow) (columns : Nat) (line : Text) : List Text :=
  match wordsFrom line.length line with
  | [] => [line]
  | words => (words.foldl (Broken.add overflow columns) ⟨[], [], 0⟩).parts

/-- A text set in lines of the given columns. -/
def wrap (overflow : Overflow) (columns : Nat) (text : Text) : List Text :=
  (lines text).flatMap fun line =>
    (breakLine overflow columns (expandTabs line)).map fun part =>
      shorten overflow columns (dropExcess columns part)

end SourceText.Console
