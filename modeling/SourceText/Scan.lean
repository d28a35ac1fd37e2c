import SourceText.Text

/-!
# Regions of source text

A scan walks over source text one character at a time and tells for each character whether it is
code, part of a quoted literal or part of a comment. Callers rewrite the code and leave the rest
alone.

Outside literals and comments an unescaped quote opens a literal that the same quote closes. Inside
a literal a backslash keeps the next character from having a meaning. Comments are told apart only
when the scan tracks them. A literal or block comment that is never closed runs to the end.
-/

namespace SourceText

/-- What a character of source text belongs to. -/
inductive Region where
  | code
  | literal
  | comment
  deriving DecidableEq, Repr

/-- The three quotes that open a literal. -/
def isQuote (c : Char) : Bool := c == '"' || c == '\'' || c == '\x60'

/-- The quote of template literals. -/
def isTemplateQuote (c : Char) : Bool := c == '\x60'

/-- What the next character is read as part of. -/
inductive Context where
  /-- Between literals and comments. -/
  | code
  /-- Inside the literal that `quote` opened. `template` is the template switch: every unescaped
  template quote turns it over. `escaped` holds right after an unescaped backslash. -/
  | literal (quote : Char) (template : Bool) (escaped : Bool)
  /-- Inside a comment that ends with the line. -/
  | lineComment
  /-- Inside the block comment whose first character is at `start`. -/
  | blockComment (start : Nat)
  deriving DecidableEq, Repr

namespace Context

/-- Whether a literal is open. -/
def inLiteral : Context → Bool
  | literal .. => true
  | _ => false

/-- The quote that closes the open literal. -/
def quote? : Context → Option Char
  | literal quote _ _ => some quote
  | _ => none

/-- The template switch; off outside literals. -/
def inTemplate : Context → Bool
  | literal _ template _ => template
  | _ => false

/-- Whether the next character of the literal has no meaning of its own. -/
def escapesNext : Context → Bool
  | literal _ _ escaped => escaped
  | _ => false

/-- Whether a line comment is open. -/
def inLineComment : Context → Bool
  | lineComment => true
  | _ => false

/-- Whether a block comment is open. -/
def inBlockComment : Context → Bool
  | blockComment _ => true
  | _ => false

/-- Where the open block comment starts. -/
def blockCommentStart? : Context → Option Nat
  | blockComment start => some start
  | _ => none

/-- Whether a comment of either kind is open. -/
def inComment (context : Context) : Bool := context.inLineComment || context.inBlockComment

/-- Whether the next character is opaque. -/
def isOpaque (context : Context) : Bool := context.inLiteral || context.inComment

end Context

/-- Where a scan stands: the position of the character that it reads and what that is part of. -/
structure Cursor where
  position : Nat := 0
  context : Context := .code
  deriving DecidableEq, Repr

namespace Scan

/-- The context after one character of a literal. -/
def literalStep (quote : Char) (template escaped : Bool) (c : Char) : Context :=
  if escaped then .literal quote template false
  else if c = '\\' then .literal quote template true
  else if c = quote then .code
  else .literal quote (template != isTemplateQuote c) false

/-- The context after one character of code and the region of that character. `next?` is the
character after it. -/
def codeStep (track : Bool) (position : Nat) (c : Char) (next? : Option Char) :
    Context × Region :=
  if track && c == '/' && next? == some '/' then (.lineComment, .comment)
  else if track && c == '/' && next? == some '*' then (.blockComment position, .comment)
  else if isQuote c then (.literal c (isTemplateQuote c) false, .literal)
  else (.code, .code)

/-- The context after the character `c` at `position` and the region of that character. A block
comment is closed by a slash after an asterisk, three characters after its start at the earliest,
so that its opening does not close it. -/
def step (track : Bool) (position : Nat) (previous? : Option Char) (context : Context) (c : Char)
    (next? : Option Char) : Context × Region :=
  match context with
  | .literal quote template escaped => (literalStep quote template escaped c, .literal)
  | .lineComment => if isLineBreak c then (.code, .code) else (.lineComment, .comment)
  | .blockComment start =>
    if c == '/' && previous? == some '*' && start + 3 ≤ position then (.code, .comment)
    else (.blockComment start, .comment)
  | .code => codeStep track position c next?

/-- One character of a scan: the character, its region, and the cursor once it has been read, still
at its position. -/
structure Mark where
  char : Char
  region : Region
  cursor : Cursor
  deriving DecidableEq, Repr

/-- The marks of `text`, read from `cursor` on after the character `previous?`. -/
def marksFrom (track : Bool) (previous? : Option Char) (cursor : Cursor) : Text → List Mark
  | [] => []
  | c :: rest =>
    let (context, region) := step track cursor.position previous? cursor.context c rest.head?
    ⟨c, region, ⟨cursor.position, context⟩⟩ ::
      marksFrom track (some c) ⟨cursor.position + 1, context⟩ rest

/-- The cursor after `text`, read from `cursor` on after the character `previous?`. -/
def finalFrom (track : Bool) (previous? : Option Char) (cursor : Cursor) : Text → Cursor
  | [] => cursor
  | c :: rest =>
    let (context, _) := step track cursor.position previous? cursor.context c rest.head?
    finalFrom track (some c) ⟨cursor.position + 1, context⟩ rest

/-- One mark per character of the text; `track` tells whether comments are told from code. -/
def marks (track : Bool) (text : Text) : List Mark := marksFrom track none {} text

/-- The cursor after the whole text. -/
def final (track : Bool) (text : Text) : Cursor := finalFrom track none {} text

end Scan

/-- Every character of the text with its region. -/
def scan (track : Bool) (text : Text) : List (Char × Region) :=
  (Scan.marks track text).map fun mark => (mark.char, mark.region)

/-- The regions of the characters of the text. -/
def regions (track : Bool) (text : Text) : List Region := (scan track text).map (·.2)

namespace Scan

theorem chars_marksFrom (track : Bool) (previous? : Option Char) (cursor : Cursor) (text : Text) :
    (marksFrom track previous? cursor text).map (·.char) = text := by
  induction text generalizing previous? cursor with
  | nil => rfl
  | cons c rest ih => simp [marksFrom, ih]

end Scan

/-- A scan yields the characters of the text in order. -/
theorem chars_scan (track : Bool) (text : Text) : (scan track text).map (·.1) = text := by
  rw [scan, List.map_map]
  exact Scan.chars_marksFrom track none {} text

@[simp] theorem length_scan (track : Bool) (text : Text) :
    (scan track text).length = text.length := by
  simpa using congrArg List.length (chars_scan track text)

end SourceText
