import SourceText.Text

/-!
# Places in a YAML text

A YAML text is read from left to right with its lines and columns in view. The end of the text shows
as the character NUL, which a YAML text cannot hold.
-/

namespace SourceText.Yaml

/-- Why a YAML text is not read. -/
inductive Fault where
  /-- A character that a YAML text cannot hold. -/
  | character
  /-- A piece of text that is no token, or stands where it cannot. -/
  | token
  /-- Tokens that make no document, or more than one. -/
  | grammar
  /-- A name for a node that is unknown, given twice or used inside the node. -/
  | anchor
  /-- A node whose tag is unknown or does not fit it. -/
  | tag
  /-- A list or mapping as the key of a mapping. -/
  | key
  /-- A word that stands for no number, for a reason. -/
  | number (reason : String)
  /-- A word without a digit where a number is to be. -/
  | noDigits
  /-- A word that stands for no truth value. -/
  | truthValue
  /-- A word that stands for no date. -/
  | date
  deriving DecidableEq, Repr

/-- The characters that a YAML text can hold. -/
def isAllowed (c : Char) : Bool :=
  let code := c.toNat
  code == 9 || code == 10 || code == 13 || (0x20 ≤ code && code ≤ 0x7E) || code == 0x85 ||
    (0xA0 ≤ code && code ≤ 0xFFFD) || 0x10000 ≤ code

/-- The end of the text. -/
def endMark : Char := '\x00'

/-- Line breaks. -/
def isBreak (c : Char) : Bool :=
  c == '\r' || c == '\n' || c == '\x85' || c == '\u2028' || c == '\u2029'

/-- Line breaks and the end of the text. -/
def isBreakOrEnd (c : Char) : Bool := isBreak c || c == endMark

/-- Spaces, line breaks and the end of the text. -/
def isSpaceOrEnd (c : Char) : Bool := c == ' ' || isBreakOrEnd c

/-- Blanks of every kind, line breaks and the end of the text. -/
def isBlankOrEnd (c : Char) : Bool := c == '\t' || isSpaceOrEnd c

/-- Characters of names of nodes. -/
def isNameChar (c : Char) : Bool := c.isAlphanum || c == '-' || c == '_'

/-- A place in the text: what comes next, and where that is. -/
structure Source where
  rest : Text
  index : Nat := 0
  line : Nat := 0
  column : Nat := 0

namespace Source

/-- The next character. -/
def peek (s : Source) : Char := s.rest.headD endMark

/-- The character `n` places on. -/
def peekAt (s : Source) (n : Nat) : Char := s.rest.getD n endMark

/-- The place after the next character. -/
def next (s : Source) : Source :=
  match s.rest with
  | [] => s
  | c :: rest =>
    if (isBreak c && c != '\r') || (c == '\r' && rest.head? != some '\n') then
      ⟨rest, s.index + 1, s.line + 1, 0⟩
    else ⟨rest, s.index + 1, s.line, if c = '\ufeff' then s.column else s.column + 1⟩

/-- The place `n` characters on. -/
def advance : Nat → Source → Source
  | 0, s => s
  | n + 1, s => advance n s.next

/-- The characters from here on for which `p` holds, and the place after them. -/
def takeWhile (p : Char → Bool) (s : Source) : Text × Source :=
  let taken := s.rest.takeWhile p
  (taken, s.advance taken.length)

/-- The place after the characters for which `p` holds. -/
def skipWhile (p : Char → Bool) (s : Source) : Source := (s.takeWhile p).2

/-- The line break that comes next, in the form in which it is kept, and the place after it. -/
def takeBreak (s : Source) : Option (Char × Source) :=
  match s.rest with
  | '\r' :: '\n' :: _ => some ('\n', s.advance 2)
  | c :: _ =>
    if c = '\r' || c = '\n' || c = '\x85' then some ('\n', s.next)
    else if c = '\u2028' || c = '\u2029' then some (c, s.next)
    else none
  | [] => none

/-- Whether a document marker, three of the same character, comes next. -/
def atMarker (s : Source) (c : Char) : Bool :=
  s.peek == c && s.peekAt 1 == c && s.peekAt 2 == c && isBlankOrEnd (s.peekAt 3)

/-- Whether a marker of the start or the end of a document comes next. -/
def atAnyMarker (s : Source) : Bool := s.atMarker '-' || s.atMarker '.'

/-- Skips a comment, if one comes next. -/
def skipComment (s : Source) : Source :=
  if s.peek = '#' then s.skipWhile (!isBreakOrEnd ·) else s

end Source

end SourceText.Yaml
