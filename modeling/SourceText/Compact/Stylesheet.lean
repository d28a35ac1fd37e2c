import SourceText.Compact.Comment
import SourceText.Text.Hexadecimal

/-!
# Minifying style sheets

Comments and blanks are taken out of a style sheet where they separate nothing. Fifteen rules are
tried in order at each place of the text; the first one that applies consumes a piece of the text
and writes its replacement, and a character to which no rule applies is kept. Two counters tell
whether a place is inside a rule or behind the head of a group of rules.
-/

namespace SourceText.Compact.Stylesheet

/-- The nesting at a place: open rules, and heads of groups whose block has not been opened. -/
structure Nesting where
  rules : Nat := 0
  groups : Nat := 0
  deriving DecidableEq, Repr

namespace Nesting

/-- An opening brace belongs to the latest head of a group, else it opens a rule. -/
def opened (n : Nesting) : Nesting :=
  if 0 < n.groups then { n with groups := n.groups - 1 } else { n with rules := n.rules + 1 }

/-- A closing brace ends a rule, if one is open. -/
def closed (n : Nesting) : Nesting := { n with rules := n.rules - 1 }

/-- The head of a group. -/
def grouped (n : Nesting) : Nesting := { n with groups := n.groups + 1 }

/-- Whether a place is outside all rules and groups. -/
def isTop (n : Nesting) : Bool := n.rules == 0 && n.groups == 0

end Nesting

/-- A replacement, the text after the piece that it replaces, and the nesting there. -/
structure Replacement where
  output : Text
  rest : Text
  nesting : Nesting

/-- Characters that separate. -/
def isSpace (c : Char) : Bool :=
  c == '\r' || c == '\n' || c == '\x0c' || c == ' ' || c == '\t'

/-- Line breaks, of which the form feed is one. -/
def isBreak (c : Char) : Bool := c == '\r' || c == '\n' || c == '\x0c'

/-- Characters without any meaning for the rules. -/
def isPlain (c : Char) : Bool := !(isSpace c || "\\\"'u>@/;:\x7b\x7d+&".toList.contains c)

/-- Characters of names. -/
def isName (c : Char) : Bool := c.isAlphanum || c == '-' || c == '_' || 127 < c.toNat

/-- One blank or comment. -/
def skipSpace : Text → Option Text
  | [] => none
  | c :: rest => if isSpace c then some rest else skipBlockComment (c :: rest)

/-- The text after as many blanks and comments as there are. -/
def skipSpaces : Nat → Text → Text
  | 0, text => text
  | fuel + 1, text =>
    match skipSpace text with
    | some rest => skipSpaces fuel rest
    | none => text

/-- The text after at least one blank or comment. -/
def skipSomeSpace (text : Text) : Option Text :=
  (skipSpace text).map fun rest => skipSpaces rest.length rest

/-- The text after semicolons, blanks and comments. -/
def skipSemicolons : Nat → Text → Text
  | 0, text => text
  | fuel + 1, text =>
    match text with
    | ';' :: rest => skipSemicolons fuel rest
    | _ =>
      match skipSpace text with
      | some rest => skipSemicolons fuel rest
      | none => text

/-- The text after a line break. -/
def skipBreak : Text → Option Text
  | '\r' :: '\n' :: rest => some rest
  | c :: rest => if isBreak c then some rest else none
  | [] => none

/-- How strings may hold line breaks. -/
inductive BreakPolicy where
  | never
  | escaped
  | always
  deriving DecidableEq

/-- The text after a string, whose opening quote has been read. `fuel` bounds its characters. -/
def skipString (breaks : BreakPolicy) (quote : Char) : Nat → Text → Option Text
  | 0, _ => none
  | _, [] => none
  | fuel + 1, c :: rest =>
    if c = quote then some rest
    else if c = '\\' then
      match rest with
      | [] => none
      | e :: after =>
        if isBreak e then
          if breaks = .never then none
          else (skipBreak rest).bind (skipString breaks quote fuel)
        else skipString breaks quote fuel after
    else if isBreak c && breaks != .always then none
    else skipString breaks quote fuel rest

/-- A string at the start of the text. -/
def takeString (breaks : BreakPolicy) : Text → Option (Text × Text)
  | [] => none
  | c :: rest =>
    if c = '"' || c = '\'' then
      (skipString breaks c (rest.length + 1) rest).map fun after =>
        (partBefore (c :: rest) after, after)
    else none

/-- The text after an escape: up to six hexadecimal digits and one blank, or one other character. -/
def skipEscape : Text → Option Text
  | '\\' :: c :: rest =>
    if Text.isHexDigit c then
      let digits := (rest.takeWhile Text.isHexDigit).take 5
      match rest.drop digits.length with
      | '\r' :: '\n' :: after => some after
      | b :: after => if isSpace b then some after else some (b :: after)
      | [] => some []
    else if isBreak c then none
    else some rest
  | _ => none

/-- An escaped line break. -/
def skipEscapedBreak : Text → Option Text
  | '\\' :: rest => skipBreak rest
  | _ => none

/-- Characters of addresses without quotes. -/
def isAddress (c : Char) : Bool :=
  !(c.toNat ≤ 32 || c == '"' || c == '\'' || c == '(' || c == ')' || c == '\\' || c.toNat == 127)

/-- What stands last in the part of an address that has been read. -/
inductive AddressState where
  /-- Nothing has been separated yet. -/
  | unbroken
  /-- Blanks. -/
  | spaced
  /-- The first escaped line break; something has to come after it. -/
  | folded
  /-- Anything, behind a separation. -/
  | inside
  deriving DecidableEq

/-- The text from the closing parenthesis of an address without quotes on, and the length of the
blanks before it. `fuel` bounds its parts. -/
def addressEnd (state : AddressState) : Nat → Text → Option Text
  | 0, _ => none
  | _, [] => none
  | fuel + 1, c :: rest =>
    if c = ')' then if state = .folded then none else some (c :: rest)
    else if isAddress c then
      addressEnd (if state = .unbroken then .unbroken else .inside) fuel rest
    else if isSpace c then if state = .folded then none else addressEnd .spaced fuel rest
    else if c = '\\' then
      match skipEscape (c :: rest) with
      | some after => addressEnd (if state = .unbroken then .unbroken else .inside) fuel after
      | none =>
        match skipEscapedBreak (c :: rest) with
        | some after => addressEnd (if state = .unbroken then .folded else .inside) fuel after
        | none => none
    else none

/-- An address without the blanks and the escaped line breaks in it. `fuel` bounds its parts. -/
def squeeze : Nat → Text → Text
  | 0, text => text
  | _, [] => []
  | fuel + 1, c :: rest =>
    match skipEscape (c :: rest) with
    | some after => partBefore (c :: rest) after ++ squeeze fuel after
    | none =>
      if isSpace c then squeeze fuel rest
      else
        match skipEscapedBreak (c :: rest) with
        | some after => squeeze fuel after
        | none => c :: squeeze fuel rest

/-- Whether a quoted address holds its data as it is, so that blanks in it count. -/
def isPlainData : Text → Bool
  | quote :: d :: a :: t :: a' :: ':' :: rest =>
    if (quote = '"' || quote = '\'') && [d, a, t, a'].map Char.toLower = ['d', 'a', 't', 'a'] then
      let head :=
        rest.takeWhile fun c =>
          !(c.toNat ≤ 32 || c == '\\' || c == '"' || c == '\'' || c == ',')
      match rest.drop head.length with
      | ',' :: _ => !((head.map Char.toLower).reverse.take 7 == ";base64".toList.reverse)
      | _ => false
    else false
  | _ => false

/-- An address behind its opening parenthesis, with the text after the closing one. -/
def takeAddress (text : Text) : Option (Text × Text) :=
  let start := text.dropWhile isSpace
  let quoted :=
    (takeString .always start).bind fun (string, after) =>
      match after.dropWhile isSpace with
      | ')' :: rest =>
        some (if isPlainData string then string else squeeze string.length string, rest)
      | _ => none
  quoted <|>
    (addressEnd .unbroken (start.length + 1) start).bind fun
      | ')' :: rest =>
        let address := partBefore start (')' :: rest)
        some (squeeze address.length address, rest)
      | _ => none

/-- The rest of a text that starts with `word`, up to the case of letters. -/
def skipWord (word : String) (text : Text) : Option Text :=
  if (text.take word.length).map Char.toLower = word.toList then some (text.drop word.length)
  else none

/-- The words after an at sign that start a group of rules. -/
def groupWords : List String :=
  ["media", "supports", "document", "keyframes", "-webkit-keyframes", "-moz-keyframes",
    "-o-keyframes", "-ms-keyframes"]

/-- Plain characters are kept. -/
def keepPlain (n : Nesting) (text : Text) : Option Replacement :=
  match text.takeWhile isPlain with
  | [] => none
  | plain => some ⟨plain, text.dropWhile isPlain, n⟩

/-- Blanks after certain characters and at the start of the text vanish. -/
def dropLeadingSpace (n : Nesting) (before text : Text) : Option Replacement :=
  let applies :=
    match before with
    | [] => true
    | b :: _ => "\x7b\x7d(=:>[,!".toList.contains b
  if applies then (skipSomeSpace text).map fun rest => ⟨[], rest, n⟩ else none

/-- Other blanks vanish before certain characters and at the end, and leave one space otherwise.
Outside all rules a space before a colon stays. -/
def shrinkSpace (n : Nesting) (before text : Text) : Option Replacement :=
  if before.head? = some '&' then none
  else
    (skipSomeSpace text).map fun rest =>
      let vanishes :=
        match rest with
        | [] => true
        | c :: _ => "\x7b\x7d);=>],!".toList.contains c || (c == ':' && !n.isTop)
      ⟨if vanishes then [] else [' '], rest, n⟩

/-- A run of semicolons leaves one, and none at the end of a rule. -/
def shrinkSemicolons (n : Nesting) : Text → Option Replacement
  | ';' :: after =>
    let rest := skipSemicolons after.length after
    let vanishes := rest.head? = some '\x7d' && 0 < n.rules
    some ⟨if vanishes then [] else [';'], rest, n⟩
  | _ => none

/-- Braces change the nesting. -/
def countBrace (n : Nesting) : Text → Option Replacement
  | c :: rest =>
    if c = '\x7b' then some ⟨[c], rest, n.opened⟩
    else if c = '\x7d' then some ⟨[c], rest, n.closed⟩
    else none
  | [] => none

/-- Strings on one line are kept. -/
def keepString (n : Nesting) (text : Text) : Option Replacement :=
  (takeString .never text).map fun (string, rest) => ⟨string, rest, n⟩

/-- Addresses lose the blanks around and inside them. -/
def shrinkAddress (n : Nesting) (before : Text) : Text → Option Replacement
  | 'u' :: 'r' :: 'l' :: '(' :: rest =>
    if before.head?.any isName then none
    else (takeAddress rest).map fun (address, rest) => ⟨"url(".toList ++ address ++ [')'], rest, n⟩
  | _ => none

/-- The head of a group of rules is counted. -/
def countGroup (n : Nesting) : Text → Option Replacement
  | '@' :: text =>
    (groupWords.findSome? fun word => skipWord word text).bind fun rest =>
      if rest.head?.any isName then none
      else some ⟨'@' :: partBefore text rest, rest, n.grouped⟩
  | _ => none

/-- Whether there is a blank among blanks and comments. `fuel` bounds their number. -/
def hasBlank : (fuel : Nat) → Text → Bool
  | 0, _ => false
  | _, [] => false
  | fuel + 1, c :: rest => isSpace c || ((skipBlockComment (c :: rest)).any (hasBlank fuel))

/-- Blanks after an ampersand leave one space, unless the text ends there; comments leave none. -/
def shrinkAfterAmpersand (n : Nesting) : Text → Option Replacement
  | '&' :: after =>
    (skipSomeSpace after).map fun rest =>
      let spaced := hasBlank after.length (partBefore after rest) && !rest.isEmpty
      ⟨if spaced then ['&', ' '] else ['&'], rest, n⟩
  | _ => none

/-- An empty comment directly after a greater sign vanishes. -/
def dropEmptyComment (n : Nesting) : Text → Option Replacement
  | '>' :: '/' :: '*' :: '*' :: '/' :: rest => some ⟨['>'], rest, n⟩
  | _ => none

/-- The first line and the first letter are set off from what follows by one space. -/
def setOffFirst (n : Nesting) (text : Text) : Option Replacement :=
  (skipWord ":first-line" text <|> skipWord ":first-letter" text).bind fun after =>
    let rest := skipSpaces after.length after
    if rest.head? = some '\x7b' || rest.head? = some ',' then
      some ⟨partBefore text after ++ [' '], rest, n⟩
    else none

/-- A string without its escaped line breaks. `fuel` bounds its characters. -/
def joinLines : Nat → Text → Text
  | 0, text => text
  | _, [] => []
  | fuel + 1, c :: rest =>
    match skipEscapedBreak (c :: rest) with
    | some after => joinLines fuel after
    | none => c :: joinLines fuel rest

/-- Strings over several lines are joined. -/
def joinString (n : Nesting) (text : Text) : Option Replacement :=
  (takeString .escaped text).map fun (string, rest) => ⟨joinLines string.length string, rest, n⟩

/-- Every run of line breaks and tabs as one space. -/
def spaceOut (afterBreak : Bool) : Text → Text
  | [] => []
  | c :: rest =>
    if isBreak c || c = '\t' then
      if afterBreak then spaceOut true rest else ' ' :: spaceOut true rest
    else c :: spaceOut false rest

/-- Escapes are kept with the plain characters after them. -/
def keepEscape (n : Nesting) (text : Text) : Option Replacement :=
  (skipEscape text).map fun after =>
    let rest := after.dropWhile isPlain
    ⟨spaceOut false (partBefore text rest), rest, n⟩

/-- The first rule that applies to a text; `before` is what comes before it, the latest first. -/
def rule (n : Nesting) (before text : Text) : Option Replacement :=
  keepPlain n text
    <|> dropLeadingSpace n before text
    <|> shrinkSpace n before text
    <|> shrinkSemicolons n text
    <|> countBrace n text
    <|> keepString n text
    <|> shrinkAddress n before text
    <|> countGroup n text
    <|> shrinkAfterAmpersand n text
    <|> dropEmptyComment n text
    <|> setOffFirst n text
    <|> joinString n text
    <|> keepEscape n text

/-- Applies the rules from one place to the next; `fuel` bounds their number. -/
def rewrite : (fuel : Nat) → Nesting → (before text : Text) → Text
  | 0, _, _, _ => []
  | _, _, _, [] => []
  | fuel + 1, n, before, c :: rest =>
    match rule n before (c :: rest) with
    | some r => r.output ++ rewrite fuel r.nesting
        ((partBefore (c :: rest) r.rest).reverse ++ before) r.rest
    | none => c :: rewrite fuel n (c :: before) rest

/-- A style sheet without the comments and blanks that separate nothing. -/
def minify (text : Text) : Text := rewrite text.length {} [] text

end SourceText.Compact.Stylesheet
