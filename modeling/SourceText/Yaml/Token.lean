import SourceText.RawText
import SourceText.Unicode.Utf8
import SourceText.Yaml.Source

/-!
# Tokens of YAML

The tokens of a YAML text, and how those that have text of their own are read from it: directives,
names, tags and scalars in their five styles.
-/

namespace SourceText.Yaml

/-- A token. -/
inductive Token where
  | versionDirective (major : Nat)
  | tagDirective (handle uri : Text)
  | otherDirective
  | documentStart
  | documentEnd
  | streamEnd
  | blockSequenceStart
  | blockMappingStart
  | blockEnd
  | flowSequenceStart
  | flowSequenceEnd
  | flowMappingStart
  | flowMappingEnd
  | flowEntry
  | blockEntry
  | key
  | value
  | alias (name : Text)
  | anchor (name : Text)
  | tag (handle : Option Text) (suffix : Text)
  | scalar (text : RawText) (plain : Bool)
  deriving DecidableEq, Repr

/-! ### Names and tags -/

/-- A name of a node, behind its indicator. -/
def readName (s : Source) : Except Fault (Text × Source) :=
  let (name, s) := s.next.takeWhile isNameChar
  if name.isEmpty then .error .token
  else if isBlankOrEnd s.peek || "?:,]\x7d%@\x60".toList.contains s.peek then .ok (name, s)
  else .error .token

/-- The bytes of escapes in an address. `fuel` bounds their number. -/
def readUriBytes : Nat → Source → Except Fault (List UInt8 × Source)
  | 0, s => .ok ([], s)
  | fuel + 1, s =>
    match s.rest with
    | '%' :: a :: b :: _ =>
      match Text.ofHexDigits? [a, b] with
      | some byte => do
        let (bytes, after) ← readUriBytes fuel (s.advance 3)
        .ok (UInt8.ofNat byte :: bytes, after)
      | none => .error .token
    | '%' :: _ => .error .token
    | _ => .ok ([], s)

/-- Characters of addresses. -/
def isUriChar (c : Char) : Bool :=
  c.isAlphanum || "-;/?:@&=+$,_.!~*'()[]%".toList.contains c

/-- The parts of an address. `fuel` bounds its characters. -/
def readUriParts : Nat → Source → Except Fault (Text × Source)
  | 0, s => .ok ([], s)
  | fuel + 1, s =>
    if s.peek = '%' then do
      let (bytes, after) ← readUriBytes s.rest.length s
      match Unicode.decodeUtf8 bytes with
      | .error _ => .error .token
      | .ok decoded =>
        let (rest, s) ← readUriParts fuel after
        .ok (decoded ++ rest, s)
    else if isUriChar s.peek then do
      let (rest, after) ← readUriParts fuel s.next
      .ok (s.peek :: rest, after)
    else .ok ([], s)

/-- An address, which is not empty. -/
def readUri (s : Source) : Except Fault (Text × Source) := do
  let (uri, after) ← readUriParts s.rest.length s
  if after.index = s.index then .error .token else .ok (uri, after)

/-- A handle of tags, with its exclamation marks. A single mark may stand for itself where
`alone` holds. -/
def readHandle (s : Source) : Except Fault (Text × Source) :=
  if s.peek != '!' then .error .token
  else
    let after := s.next
    if after.peek = ' ' then .ok (['!'], after)
    else
      let (name, after) := after.takeWhile isNameChar
      if after.peek = '!' then .ok ('!' :: name ++ ['!'], after.next)
      else .error .token

/-- Whether a second exclamation mark comes before the next blank. -/
def hasHandle (s : Source) : Bool :=
  ((s.rest.drop 1).takeWhile fun c => !isSpaceOrEnd c).contains '!'

/-- A tag: a full address, a lone mark, or a suffix behind a handle. -/
def readTag (s : Source) : Except Fault (Token × Source) := do
  let (token, after) ←
    if s.peekAt 1 = '<' then do
      let (uri, after) ← readUri (s.advance 2)
      if after.peek = '>' then .ok (.tag none uri, after.next) else .error .token
    else if isBlankOrEnd (s.peekAt 1) then .ok (.tag none ['!'], s.next)
    else do
      let (handle, after) ← if hasHandle s then readHandle s else .ok (['!'], s.next)
      let (suffix, after) ← readUri after
      .ok (.tag (some handle) suffix, after)
  if isSpaceOrEnd after.peek then .ok (token, after) else .error .token

/-! ### Directives -/

/-- Decimal digits of ASCII. -/
def readDigits (s : Source) : Except Fault (Nat × Source) :=
  let (digits, after) := s.takeWhile fun c => c.isDigit
  if digits.isEmpty then .error .token
  else .ok (digits.foldl (fun n c => 10 * n + (c.toNat - 48)) 0, after)

/-- The end of a line that holds nothing more than a comment. -/
def readLineEnd (s : Source) : Except Fault Source :=
  let s := (s.skipWhile (· == ' ')).skipComment
  if isBreakOrEnd s.peek then .ok ((s.takeBreak.map (·.2)).getD s) else .error .token

/-- A version: two numbers with a point between them. -/
def readVersion (s : Source) : Except Fault (Token × Source) := do
  let (major, s) ← readDigits (s.skipWhile (· == ' '))
  if s.peek != '.' then .error .token
  else
    let (_, s) ← readDigits s.next
    if isSpaceOrEnd s.peek then .ok (.versionDirective major, s) else .error .token

/-- A handle of tags and the address that it stands for. -/
def readTagDirective (s : Source) : Except Fault (Token × Source) := do
  let (handle, s) ← readHandle (s.skipWhile (· == ' '))
  if s.peek != ' ' then .error .token
  else
    let (uri, s) ← readUri (s.skipWhile (· == ' '))
    if isSpaceOrEnd s.peek then .ok (.tagDirective handle uri, s) else .error .token

/-- A directive up to the end of its line. -/
def readDirective (s : Source) : Except Fault (Token × Source) :=
  let (name, s) := s.next.takeWhile isNameChar
  if name.isEmpty || !isSpaceOrEnd s.peek then .error .token
  else do
    let (token, s) ←
      if name = "YAML".toList then readVersion s
      else if name = "TAG".toList then readTagDirective s
      else .ok (.otherDirective, s.skipWhile (!isBreakOrEnd ·))
    let s ← readLineEnd s
    .ok (token, s)

/-! ### Block scalars -/

/-- What becomes of the line breaks at the end of a block scalar. -/
inductive Chomping where
  | strip
  | clip
  | keep
  deriving DecidableEq

/-- The head of a block scalar: what becomes of its end, and how far it is indented. -/
structure BlockHead where
  chomping : Chomping := .clip
  indent : Option Nat := none

/-- A digit that tells the indentation. -/
def readIndent (s : Source) : Except Fault (Option Nat × Source) :=
  if s.peek.isDigit then
    if s.peek = '0' then .error .token else .ok (some (s.peek.toNat - 48), s.next)
  else .ok (none, s)

/-- A sign that tells what becomes of the end. -/
def readChomping (s : Source) : Chomping × Source :=
  if s.peek = '+' then (.keep, s.next)
  else if s.peek = '-' then (.strip, s.next)
  else (.clip, s)

/-- The head of a block scalar; its two parts come in either order. -/
def readBlockHead (s : Source) : Except Fault (BlockHead × Source) := do
  let (head, s) ←
    if s.peek.isDigit then do
      let (indent, s) ← readIndent s
      let (chomping, s) := readChomping s
      .ok (⟨chomping, indent⟩, s)
    else do
      let (chomping, after) := readChomping s
      let (indent, after) ← if after.index = s.index then .ok (none, s) else readIndent after
      .ok (⟨chomping, indent⟩, after)
  if isSpaceOrEnd s.peek then .ok (head, s) else .error .token

/-- Blank lines before the first line of a block scalar, and the widest column of a space among
them. `fuel` bounds the characters. -/
def readLeadingBreaks : Nat → Nat → Source → Text × Nat × Source
  | 0, widest, s => ([], widest, s)
  | fuel + 1, widest, s =>
    if s.peek = ' ' then readLeadingBreaks fuel (max widest s.next.column) s.next
    else
      match s.takeBreak with
      | some (c, after) =>
        let (breaks, widest, last) := readLeadingBreaks fuel widest after
        (c :: breaks, widest, last)
      | none => ([], widest, s)

/-- Skips spaces up to a column. -/
def skipMargin (indent : Nat) : Nat → Source → Source
  | 0, s => s
  | fuel + 1, s => if s.column < indent && s.peek = ' ' then skipMargin indent fuel s.next else s

/-- Line breaks after a line of a block scalar, with the margins after them. -/
def readBreaks (indent : Nat) : Nat → Source → Text × Source
  | 0, s => ([], s)
  | fuel + 1, s =>
    let s := skipMargin indent s.rest.length s
    match s.takeBreak with
    | some (c, after) =>
      let (breaks, last) := readBreaks indent fuel after
      (c :: breaks, last)
    | none => ([], s)

/-- The lines of a block scalar. `breaks` are the line breaks read before this line; the result
ends with the last line break and those after it. -/
def readBlockLines (folded : Bool) (indent : Nat) :
    Nat → (breaks : Text) → (lineBreak : Text) → Source → Text × Text × Text × Source
  | 0, breaks, lineBreak, s => ([], lineBreak, breaks, s)
  | fuel + 1, breaks, lineBreak, s =>
    if s.column = indent && s.peek != endMark then
      let startsBlank := s.peek == ' ' || s.peek == '\t'
      let (line, s) := s.takeWhile (!isBreakOrEnd ·)
      let (ended, s) :=
        match s.takeBreak with
        | some (c, after) => ([c], after)
        | none => ([], s)
      let (more, s) := readBreaks indent (s.rest.length + 1) s
      let goesOn := s.column = indent && s.peek != endMark
      let joint :=
        if !goesOn then []
        else if folded && ended = ['\n'] && !startsBlank && s.peek != ' ' && s.peek != '\t' then
          if more.isEmpty then [' '] else []
        else ended
      let (rest, last, after, s) := readBlockLines folded indent fuel more ended s
      (breaks ++ line ++ joint ++ rest, last, after, s)
    else ([], lineBreak, breaks, s)

/-- A block scalar in a context that is indented by `outer`. -/
def readBlockScalar (folded : Bool) (outer : Int) (s : Source) : Except Fault (Token × Source) := do
  let (head, s) ← readBlockHead s.next
  let s ← readLineEnd s
  let least := (max 1 (outer + 1)).toNat
  let (breaks, indent, s) :=
    match head.indent with
    | none =>
      let (breaks, widest, s) := readLeadingBreaks (s.rest.length + 1) 0 s
      (breaks, max least widest, s)
    | some n =>
      let indent := least + n - 1
      let (breaks, s) := readBreaks indent (s.rest.length + 1) s
      (breaks, indent, s)
  let (text, lineBreak, more, s) := readBlockLines folded indent (s.rest.length + 1) breaks [] s
  let text :=
    match head.chomping with
    | .strip => text
    | .clip => text ++ lineBreak
    | .keep => text ++ lineBreak ++ more
  .ok (.scalar text.raw false, s)

/-! ### Quoted scalars -/

/-- The character that a one-letter escape stands for. -/
def escapeChar? (c : Char) : Option Char :=
  match c with
  | '0' => some '\x00'
  | 'a' => some '\x07'
  | 'b' => some '\x08'
  | 't' | '\t' => some '\t'
  | 'n' => some '\n'
  | 'v' => some '\x0b'
  | 'f' => some '\x0c'
  | 'r' => some '\r'
  | 'e' => some '\x1b'
  | ' ' => some ' '
  | '"' => some '"'
  | '\\' => some '\\'
  | '/' => some '/'
  | 'N' => some '\x85'
  | '_' => some '\xa0'
  | 'L' => some '\u2028'
  | 'P' => some '\u2029'
  | _ => none

/-- How many digits follow the letter of a numeric escape. -/
def escapeWidth? (c : Char) : Option Nat :=
  match c with
  | 'x' => some 2
  | 'u' => some 4
  | 'U' => some 8
  | _ => none

/-- Line breaks inside a quoted scalar, with the blanks before the next text. A document marker
cannot stand there. -/
def readQuotedBreaks : Nat → Source → Except Fault (Text × Source)
  | 0, s => .ok ([], s)
  | fuel + 1, s =>
    if s.atAnyMarker then .error .token
    else
      let s := s.skipWhile fun c => c == ' ' || c == '\t'
      match s.takeBreak with
      | some (c, after) => do
        let (breaks, last) ← readQuotedBreaks fuel after
        .ok (c :: breaks, last)
      | none => .ok ([], s)

/-- A line break and what follows it in a quoted scalar: one break becomes a space, more of them
lose the first. -/
def foldBreaks (first : Char) (breaks : Text) : Text :=
  if first != '\n' then first :: breaks else if breaks.isEmpty then [' '] else breaks

/-- Blanks inside a quoted scalar, which vanish at the ends of lines. -/
def readQuotedBlanks (s : Source) : Except Fault (Text × Source) :=
  let (blanks, s) := s.takeWhile fun c => c == ' ' || c == '\t'
  match s.takeBreak with
  | some (c, after) => do
    let (breaks, last) ← readQuotedBreaks (after.rest.length + 1) after
    .ok (foldBreaks c breaks, last)
  | none => if s.peek = endMark then .error .token else .ok (blanks, s)

/-- An escape behind its backslash. -/
def readEscape (s : Source) : Except Fault (RawText × Source) :=
  let c := s.peek
  match escapeChar? c with
  | some decoded => .ok ([.char decoded], s.next)
  | none =>
    match escapeWidth? c with
    | some width =>
      let digits := s.next.rest.take width
      match if digits.length = width then Text.ofHexDigits? digits else none with
      | none => .error .token
      | some code =>
        if 0x110000 ≤ code then .error (.number "chr() arg not in range(0x110000)")
        else .ok ([.ofCode code], s.advance (width + 1))
    | none =>
      match s.takeBreak with
      | some (_, after) => do
        let (breaks, last) ← readQuotedBreaks (after.rest.length + 1) after
        .ok (breaks.raw, last)
      | none => .error .token

/-- The text of a quoted scalar up to its closing quote. `fuel` bounds its parts. -/
def readQuotedParts (double : Bool) : Nat → Source → Except Fault (RawText × Source)
  | 0, _ => .error .token
  | fuel + 1, s =>
    let c := s.peek
    let go (piece : RawText) (s : Source) : Except Fault (RawText × Source) :=
      (readQuotedParts double fuel s).map fun (text, after) => (piece ++ text, after)
    if c = '"' then if double then .ok ([], s.next) else go [.char '"'] s.next
    else if c = '\'' then
      if double then go [.char '\''] s.next
      else if s.peekAt 1 = '\'' then go [.char '\''] (s.advance 2)
      else .ok ([], s.next)
    else if c = '\\' then
      if double then do
        let (piece, after) ← readEscape s.next
        go piece after
      else go [.char '\\'] s.next
    else if isBlankOrEnd c then do
      let (piece, after) ← readQuotedBlanks s
      go piece.raw after
    else
      let (piece, after) := s.takeWhile fun c =>
        !(c == '"' || c == '\'' || c == '\\' || isBlankOrEnd c)
      go piece.raw after

/-- A quoted scalar. -/
def readQuoted (double : Bool) (s : Source) : Except Fault (Token × Source) := do
  let (text, after) ← readQuotedParts double (s.rest.length + 1) s.next
  .ok (.scalar text false, after)

/-! ### Plain scalars -/

/-- Whether a plain scalar ends before the next character. -/
def endsPlain (inFlow : Bool) (s : Source) : Bool :=
  let c := s.peek
  let after := s.peekAt 1
  isBlankOrEnd c ||
    (c == ':' && (isBlankOrEnd after || (inFlow && ",[]\x7b\x7d".toList.contains after))) ||
    (inFlow && ",?[]\x7b\x7d".toList.contains c)

/-- Characters of a plain scalar without blanks. -/
def readPlainWord (inFlow : Bool) : Nat → Source → Text × Source
  | 0, s => ([], s)
  | fuel + 1, s =>
    if endsPlain inFlow s then ([], s)
    else
      let (word, after) := readPlainWord inFlow fuel s.next
      (s.peek :: word, after)

/-- Line breaks after a word of a plain scalar; `none` in front of a document marker. -/
def readPlainBreaks : Nat → Source → Option Text × Source
  | 0, s => (some [], s)
  | fuel + 1, s =>
    if s.peek = ' ' then readPlainBreaks fuel s.next
    else
      match s.takeBreak with
      | none => (some [], s)
      | some (c, after) =>
        if after.atAnyMarker then (none, after)
        else
          let (breaks?, last) := readPlainBreaks fuel after
          (breaks?.map (c :: ·), last)

/-- What separates two words of a plain scalar, whether it holds a line break, and the place after
it. Nothing separates words in front of a document marker. -/
def readPlainGap (s : Source) : Text × Bool × Source :=
  let (blanks, s) := s.takeWhile (· == ' ')
  match s.takeBreak with
  | none => (blanks, false, s)
  | some (c, after) =>
    if after.atAnyMarker then ([], true, after)
    else
      match readPlainBreaks (after.rest.length + 1) after with
      | (none, last) => ([], true, last)
      | (some breaks, last) => (foldBreaks c breaks, true, last)

/-- The words of a plain scalar after the first, and whether the last gap held a line break.
`indent` is the least column of a further line; `broken` tells of the gap that has been read. -/
def readPlainWords (inFlow : Bool) (indent : Int) :
    Nat → (gap : Text) → (broken : Bool) → Source → Text × Bool × Source
  | 0, _, broken, s => ([], broken, s)
  | fuel + 1, gap, broken, s =>
    if gap.isEmpty || s.peek = '#' || (!inFlow && s.column < indent) || endsPlain inFlow s then
      ([], broken, s)
    else
      let (word, after) := readPlainWord inFlow s.rest.length s
      let (gap', broken', last) := readPlainGap after
      let (words, broken'', last) := readPlainWords inFlow indent fuel gap' broken' last
      (gap ++ word ++ words, broken'', last)

/-- A plain scalar, and whether it ends with a line break behind it. -/
def readPlain (inFlow : Bool) (indent : Int) (s : Source) : Token × Bool × Source :=
  let (word, after) := readPlainWord inFlow s.rest.length s
  let (gap, broken, after) := readPlainGap after
  let (words, broken, after) := readPlainWords inFlow indent (s.rest.length + 1) gap broken after
  (.scalar (word ++ words).raw true, broken, after)

end SourceText.Yaml
