/-!
# Texts

A text is a list of characters. Positions and lengths count characters. Blank characters are those
that separate words; line boundaries are the characters that end a line of a text file, which are
more than the two line breaks that programming languages know.
-/

namespace SourceText

/-- A text, as the list of its characters. -/
abbrev Text := List Char

/-- Characters that separate words: spaces, tabulators, line and paragraph ends of every kind. -/
def isBlank (c : Char) : Bool :=
  let code := c.toNat
  (9 ≤ code && code ≤ 13) || (28 ≤ code && code ≤ 32) || code == 0x85 || code == 0xA0 ||
    code == 0x1680 || (0x2000 ≤ code && code ≤ 0x200A) || code == 0x2028 || code == 0x2029 ||
    code == 0x202F || code == 0x205F || code == 0x3000

/-- The two line breaks of source text. -/
def isLineBreak (c : Char) : Bool := c == '\n' || c == '\r'

theorem isBlank_of_isLineBreak {c : Char} (h : isLineBreak c = true) : isBlank c = true := by
  simp only [isLineBreak, Bool.or_eq_true, beq_iff_eq] at h
  rcases h with rfl | rfl <;> decide

namespace Text

/-- The text without its leading blanks. -/
def trimLeft (text : Text) : Text := text.dropWhile isBlank

/-- The text without its trailing blanks. -/
def trimRight : Text → Text
  | [] => []
  | c :: rest =>
    match trimRight rest with
    | [] => if isBlank c then [] else [c]
    | kept => c :: kept

/-- The text without the blanks at both ends. -/
def trim (text : Text) : Text := trimRight (trimLeft text)

/-- Whether every character is blank; so is the empty text. -/
def isAllBlank (text : Text) : Bool := text.all isBlank

/-- The pieces of a text between the places where `isSeparator` holds: one more than there are
such places. -/
def splitOn (isSeparator : Char → Bool) : Text → List Text
  | [] => [[]]
  | c :: rest =>
    if isSeparator c then [] :: splitOn isSeparator rest
    else
      match splitOn isSeparator rest with
      | [] => [[c]]
      | piece :: pieces => (c :: piece) :: pieces

/-- The maximal runs of characters that are not blank, in order. -/
def words (text : Text) : List Text := (splitOn isBlank text).filter (!·.isEmpty)

/-- The pieces put after one another with `separator` between them. -/
def join (separator : Text) : List Text → Text
  | [] => []
  | [piece] => piece
  | piece :: pieces => piece ++ separator ++ join separator pieces

/-- Characters that end a line of a text file. -/
def isLineBoundary (c : Char) : Bool :=
  let code := c.toNat
  (10 ≤ code && code ≤ 13) || (28 ≤ code && code ≤ 30) || code == 0x85 || code == 0x2028 ||
    code == 0x2029

/-- The lines of a text without their ends. A carriage return and a line feed together end one
line, and the end of the text starts no new line. -/
def lines : Text → List Text
  | [] => []
  | '\r' :: '\n' :: rest => [] :: lines rest
  | c :: rest =>
    if isLineBoundary c then [] :: lines rest
    else
      match lines rest with
      | [] => [[c]]
      | line :: more => (c :: line) :: more

/-- Whether `needle` stands at the start of the text. -/
def startsWith (text needle : Text) : Bool := needle.isPrefixOf text

/-- Whether `needle` stands somewhere in the text. -/
def hasInfix (needle : Text) : Text → Bool
  | [] => needle.isEmpty
  | c :: rest => needle.isPrefixOf (c :: rest) || hasInfix needle rest

/-- Line ends as a text file has them read: every pair of carriage return and line feed and every
carriage return becomes one line feed. -/
def unifyLineEnds : Text → Text
  | [] => []
  | '\r' :: '\n' :: rest => '\n' :: unifyLineEnds rest
  | c :: rest => (if c = '\r' then '\n' else c) :: unifyLineEnds rest

end Text

end SourceText
