import SourceText.Compact.Comment

/-!
# Minifying scripts

Comments and blanks are taken out of a script where they separate nothing. Nine rules are tried in
order at each place of the text; the first one that applies consumes a piece of the text and writes
its replacement, and a character to which no rule applies is kept. What stands before a place is
looked up in the text as it was.
-/

namespace SourceText.Compact.Script

/-- Blanks other than line breaks. -/
def isSpace (c : Char) : Bool := c.toNat ≤ 32 && !isLineBreak c

/-- Characters that start no string, comment, regular expression or blank. -/
def isDull (c : Char) : Bool :=
  !(c == '\'' || c == '"' || c == '\x60' || c == '/' || c.toNat ≤ 32)

/-- Characters of identifiers. -/
def isIdentifier (c : Char) : Bool :=
  c.isAlphanum || c == '_' || c == '$' || 126 < c.toNat

/-- Characters that can start an operand. -/
def isOperandStart (c : Char) : Bool :=
  isIdentifier c || c == '{' || c == '[' || c == '(' || c == '!' || c == '+' || c == '-'

/-- Characters that can end an operand. -/
def isOperandEnd (c : Char) : Bool :=
  isIdentifier c || c == '}' || c == ']' || c == ')' || c == '"' || c == '\'' || c == '\x60' ||
    c == '+' || c == '-'

/-- Characters after which a slash starts a regular expression. -/
def isBeforeRegex (c : Char) : Bool :=
  isLineBreak c || "(,=:[!&|?\x7b\x7d;+*-".toList.contains c

/-- Characters before which a line break after a regular expression separates nothing. -/
def isAfterRegex (c : Char) : Bool := c.toNat ≤ 32 || "&)+,.:;=?]|\x7d-".toList.contains c

/-- One blank or block comment. -/
def skipSpace : Text → Option Text
  | [] => none
  | c :: rest => if isSpace c then some rest else skipBlockComment (c :: rest)

/-- One line break, with the line comment before it if there is one. -/
def skipNewline (text : Text) : Option Text :=
  let line :=
    match text with
    | '/' :: '/' :: rest => rest.dropWhile (!isLineBreak ·)
    | _ => text
  match line with
  | c :: rest => if isLineBreak c then some rest else none
  | [] => none

/-- The text after all blanks, comments and line breaks at its start, and whether there was a line
break. `fuel` bounds their number. -/
def skipGap : Nat → Text → Bool × Text
  | 0, text => (false, text)
  | fuel + 1, text =>
    match skipSpace text with
    | some rest => skipGap fuel rest
    | none =>
      match skipNewline text with
      | some rest => (true, (skipGap fuel rest).2)
      | none => (false, text)

/-- The text after as many blanks as there are. -/
def skipSpaces : Nat → Text → Text
  | 0, text => text
  | fuel + 1, text =>
    match skipSpace text with
    | some rest => skipSpaces fuel rest
    | none => text

/-- The text after the longest gap that holds a line break and ends before a character which is no
`isAfterRegex`. `seen` tells whether a line break has come. -/
def regexTail (seen : Bool) : Nat → Text → Option Text
  | 0, _ => none
  | fuel + 1, text =>
    let further :=
      match skipSpace text with
      | some rest => regexTail seen fuel rest
      | none =>
        match skipNewline text with
        | some rest => regexTail true fuel rest
        | none => none
    match further with
    | some rest => some rest
    | none => if seen && text.head?.any (!isAfterRegex ·) then some text else none

/-- The text after a string, whose opening quote has been read. Only template strings hold line
breaks that are not escaped. -/
def skipString (quote : Char) : Text → Option Text
  | [] => none
  | '\\' :: '\r' :: '\n' :: rest => skipString quote rest
  | '\\' :: _ :: rest => skipString quote rest
  | c :: rest =>
    if c = quote then some rest
    else if c = '\\' then none
    else if isLineBreak c && quote != '\x60' then none
    else skipString quote rest

/-- The text after a character class, whose bracket has been read. -/
def skipClass : Text → Option Text
  | [] => none
  | '\\' :: c :: rest => if isLineBreak c then none else skipClass rest
  | c :: rest =>
    if c = ']' then some rest
    else if c = '\\' || isLineBreak c then none
    else skipClass rest

/-- The text after the body of a regular expression and its closing slash. `fuel` bounds the parts
of the body. -/
def skipRegexBody : Nat → Text → Option Text
  | 0, _ => none
  | _, [] => none
  | fuel + 1, c :: rest =>
    if c = '/' then some rest
    else if isLineBreak c then none
    else if c = '[' then (skipClass rest).bind (skipRegexBody fuel)
    else if c = '\\' then
      match rest with
      | e :: after => if isLineBreak e then none else skipRegexBody fuel after
      | [] => none
    else skipRegexBody fuel rest

/-- The text after a regular expression and its flags. -/
def skipRegex : Text → Option Text
  | '/' :: c :: rest =>
    if isLineBreak c || c = '/' || c = '*' then none
    else (skipRegexBody (rest.length + 2) (c :: rest)).map (·.dropWhile Char.isLower)
  | _ => none

/-- A replacement and the text after the piece that it replaces. -/
abbrev Replacement : Type := Text × Text

/-- Dull characters are kept. -/
def keepDull (text : Text) : Option Replacement :=
  match text.takeWhile isDull with
  | [] => none
  | dull => some (dull, text.dropWhile isDull)

/-- Strings are kept, with the dull characters after them. -/
def keepString : Text → Option Replacement
  | [] => none
  | c :: rest =>
    if c = '\'' || c = '"' || c = '\x60' then
      (skipString c rest).map fun after =>
        let after := after.dropWhile isDull
        (partBefore (c :: rest) after, after)
    else none

/-- A regular expression after a closing parenthesis, if a method of it is called. -/
def regexBeforeMethod (text : Text) : Option Replacement :=
  let start := (skipGap text.length text).2
  (skipRegex start).bind fun after =>
    match (skipGap after.length after).2 with
    | '.' :: rest =>
      if (skipGap rest.length rest).2.head?.any Char.isLower then
        some (partBefore start after, after)
      else none
    | _ => none

/-- A regular expression with the line break behind it, if that has to stay. The first component
tells whether a line break came before. -/
def regexAndTail (text : Text) : Option (Bool × Replacement) :=
  let (broken, start) := skipGap text.length text
  (skipRegex start).map fun after =>
    let body := partBefore start after
    match regexTail false (after.length + 1) after with
    | some rest => (broken, body ++ ['\n'], rest)
    | none => (broken, body, after)

/-- Whether the word `return` ends just here; `before` is the text before, the latest first. -/
def afterReturn (before : Text) : Bool :=
  match before.splitAt 6 with
  | (['n', 'r', 'u', 't', 'e', 'r'], c :: _) => !isIdentifier c
  | _ => false

/-- A gap with line breaks between two operands leaves one line break. -/
def lineBreakBetween (before text : Text) : Option Replacement :=
  match skipGap text.length text with
  | (true, rest) =>
    if before.head?.any isOperandEnd && rest.head?.any isOperandStart then some (['\n'], rest)
    else none
  | _ => none

/-- Whether blanks between two characters keep them apart. -/
def keptApart (before after : Char) : Bool :=
  (isIdentifier before && isIdentifier after) || (before == '+' && after == '+') ||
    (before == '-' && after == '-')

/-- Blanks leave one space between two characters that have to be kept apart. -/
def spaceBetween (before text : Text) : Option Replacement :=
  match skipSpace text with
  | none => none
  | some _ =>
    let rest := skipSpaces text.length text
    match before.head?, rest.head? with
    | some b, some a => some (if keptApart b a then [' '] else [], rest)
    | _, _ => some ([], rest)

/-- Line breaks and the blanks among them vanish. -/
def dropBreaks (text : Text) : Option Replacement :=
  (skipNewline text).map fun rest => ([], (skipGap rest.length rest).2)

/-- The first rule that applies to a text; `before` is what comes before it, the latest first. -/
def rule (before text : Text) : Option Replacement :=
  keepDull text
    <|> keepString text
    <|> (if before.head? = some ')' then regexBeforeMethod text else none)
    <|> (if before.head?.any isBeforeRegex then (regexAndTail text).map (·.2) else none)
    <|> (if afterReturn before then
          (regexAndTail text).map fun (broken, body, rest) =>
            ((if broken then '\n' :: body else body), rest)
        else none)
    <|> lineBreakBetween before text
    <|> spaceBetween before text
    <|> dropBreaks text

/-- Applies the rules from one place to the next; `fuel` bounds their number. -/
def rewrite : (fuel : Nat) → (before text : Text) → Text
  | 0, _, _ => []
  | _, _, [] => []
  | fuel + 1, before, c :: rest =>
    match rule before (c :: rest) with
    | some (output, after) =>
      output ++ rewrite fuel ((partBefore (c :: rest) after).reverse ++ before) after
    | none => c :: rewrite fuel (c :: before) rest

/-- A script without the comments and blanks that separate nothing. -/
def minify (text : Text) : Text :=
  let framed := '\n' :: text ++ ['\n']
  (rewrite framed.length [] framed).trim

end SourceText.Compact.Script
