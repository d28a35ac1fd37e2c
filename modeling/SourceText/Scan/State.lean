import SourceText.Scan

/-!
# Scans field by field

A scan can keep what it knows in plain fields, any of which can be set whatever the others are. Each
character is read by the first of the fields that is on: an open string, a line comment, a block
comment, or else as code. The scans here and those with a context read the same
(`Scan.snapshots_eq`).
-/

namespace SourceText.Scan

/-- The fields of a scan. -/
structure State where
  /-- The position of the next character to read. -/
  position : Nat := 0
  inString : Bool := false
  /-- The quote that opened the string. -/
  stringDelimiter : Option Char := none
  /-- The template switch. -/
  inTemplate : Bool := false
  /-- On after a backslash that nothing escapes. -/
  escapeNext : Bool := false
  inLineComment : Bool := false
  inBlockComment : Bool := false
  /-- The position of the slash that opened the block comment, and -1 without one. -/
  blockCommentStart : Int := -1
  deriving DecidableEq, Repr

namespace State

/-- Whether a comment of either kind is open. -/
def inComment (s : State) : Bool := s.inLineComment || s.inBlockComment

/-- Whether the next character is opaque. -/
def inLiteral (s : State) : Bool := s.inString || s.inComment

/-- The state after one character of a string. -/
def advanceString (s : State) (c : Char) : State :=
  if s.escapeNext then { s with escapeNext := false }
  else if c == '\\' then { s with escapeNext := true }
  else
    let s := if isTemplateQuote c then { s with inTemplate := !s.inTemplate } else s
    if s.stringDelimiter == some c then
      { s with inString := false, stringDelimiter := none, inTemplate := false }
    else s

/-- The character before a position. Positions count around: before the first one is the last. -/
def charBefore? (text : Text) (position : Nat) : Option Char :=
  if position = 0 then text.getLast? else text[position - 1]?

/-- The state after the character `c` of `text`, at its position, and the region of that character.
`next?` is the character after it. -/
def advance (track : Bool) (text : Text) (s : State) (c : Char) (next? : Option Char) :
    State × Region :=
  if s.inString then (s.advanceString c, .literal)
  else if s.inLineComment then
    if isLineBreak c then ({ s with inLineComment := false }, .code) else (s, .comment)
  else if s.inBlockComment then
    if c == '/' && charBefore? text s.position == some '*' &&
        3 ≤ (s.position : Int) - s.blockCommentStart then
      ({ s with inBlockComment := false, blockCommentStart := -1 }, .comment)
    else (s, .comment)
  else if track && c == '/' && next? == some '/' then ({ s with inLineComment := true }, .comment)
  else if track && c == '/' && next? == some '*' then
    ({ s with inBlockComment := true, blockCommentStart := s.position }, .comment)
  else if isQuote c then
    ({ s with inString := true, stringDelimiter := some c, inTemplate := isTemplateQuote c },
      .literal)
  else (s, .code)

end State

/-- One character of a scan: the character, its region, and the state once it has been read, still
at its position. -/
structure Snapshot where
  char : Char
  region : Region
  state : State
  deriving DecidableEq, Repr

/-- The snapshots of `text` from a state on, which stands before `rest`. -/
def snapshotsFrom (track : Bool) (text : Text) (s : State) (rest : Text) : List Snapshot :=
  match rest with
  | [] => []
  | c :: rest =>
    let (next, region) := s.advance track text c rest.head?
    ⟨c, region, next⟩ ::
      snapshotsFrom track text { next with position := next.position + 1 } rest

/-- The state after `text` has been read from a state on, which stands before `rest`. -/
def finalStateFrom (track : Bool) (text : Text) (s : State) (rest : Text) : State :=
  match rest with
  | [] => s
  | c :: rest =>
    let (next, _) := s.advance track text c rest.head?
    finalStateFrom track text { next with position := next.position + 1 } rest

/-- One snapshot per character of the text. -/
def snapshots (track : Bool) (text : Text) : List Snapshot := snapshotsFrom track text {} text

/-- The state after the whole text. -/
def finalState (track : Bool) (text : Text) : State := finalStateFrom track text {} text

end SourceText.Scan
