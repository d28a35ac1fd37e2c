import SourceText.Yaml.Token

/-!
# From text to tokens

The tokens of a whole YAML text. Indentation is turned into tokens that open and close blocks. That
something is the key of a mapping shows only at the colon behind it, so places at which a key may
have started are kept, one for every level of brackets, and the tokens for a key are put in there
afterwards. A key stands on one line and is at most 1024 characters long.
-/

namespace SourceText.Yaml

/-- A place at which a key may have started: how many tokens come before it, whether a key has to
start there, and where it is. -/
structure KeyPlace where
  number : Nat
  required : Bool
  index : Nat
  line : Nat
  column : Nat

/-- The tokens so far, the latest first, and what the next token depends on: the depth of brackets,
the column of the open block and of those around it, whether a key may start here, and the places at
which keys may have started. -/
structure Lexer where
  source : Source
  tokens : List Token := []
  depth : Int := 0
  indent : Int := -1
  outer : List Int := []
  keyAllowed : Bool := true
  places : List (Int × KeyPlace) := []

namespace Lexer

/-- Whether brackets are open. -/
def inFlow (l : Lexer) : Bool := l.depth != 0

/-- The column of the next character. -/
def column (l : Lexer) : Int := l.source.column

/-- Adds a token. -/
def add (l : Lexer) (t : Token) : Lexer := { l with tokens := t :: l.tokens }

/-- Adds a token and moves on by `n` characters. -/
def addPast (l : Lexer) (t : Token) (n : Nat) : Lexer :=
  { l.add t with source := l.source.advance n }

/-- Adds a token that has been read. -/
def addRead (l : Lexer) (read : Token × Source) : Lexer :=
  { l.add read.1 with source := read.2 }

/-- Says whether a key may start next. -/
def allowKey (l : Lexer) (allowed : Bool) : Lexer := { l with keyAllowed := allowed }

/-- Puts tokens in behind the first `number` ones. -/
def insert (l : Lexer) (number : Nat) (ts : List Token) : Lexer :=
  let (later, earlier) := l.tokens.splitAt (l.tokens.length - number)
  { l with tokens := later ++ ts.reverse ++ earlier }

/-- The place of a key on the present depth. -/
def place? (l : Lexer) : Option KeyPlace := l.places.lookup l.depth

/-- Forgets the place on the present depth, at which no key may be due. -/
def dropPlace (l : Lexer) : Except Fault Lexer :=
  if l.place?.any (·.required) then .error .token
  else .ok { l with places := l.places.filter (·.1 != l.depth) }

/-- Keeps this place as one at which a key may start. -/
def keepPlace (l : Lexer) : Except Fault Lexer :=
  if l.keyAllowed then do
    let l ← l.dropPlace
    let s := l.source
    let required := !l.inFlow && l.indent == l.column
    let place : KeyPlace := ⟨l.tokens.length, required, s.index, s.line, s.column⟩
    .ok { l with places := (l.depth, place) :: l.places }
  else .ok l

/-- Forgets the places that are too far back for a key. -/
def dropStale (l : Lexer) : Except Fault Lexer :=
  let stale (p : KeyPlace) : Bool := p.line != l.source.line || 1024 < l.source.index - p.index
  if l.places.any fun (_, p) => stale p && p.required then .error .token
  else .ok { l with places := l.places.filter fun (_, p) => !stale p }

/-- Closes the blocks whose column is beyond `column`. -/
def unwindTo (column : Int) : List Int → Lexer → Lexer
  | [], l => l
  | next :: outer, l =>
    if column < l.indent then
      unwindTo column outer { l.add .blockEnd with indent := next, outer := outer }
    else l

/-- Closes the blocks whose column is beyond `column`, outside brackets. -/
def unwind (l : Lexer) (column : Int) : Lexer :=
  if l.inFlow then l else unwindTo column l.outer l

/-- Opens a block at a column beyond that of the open one. -/
def opensBlock (l : Lexer) (column : Int) : Bool := l.indent < column

/-- Opens a block at a column, if it is beyond that of the open one, with a token put in behind the
first `number` ones. -/
def openBlock (l : Lexer) (column : Int) (number : Nat) (t : Token) : Lexer :=
  if l.opensBlock column then
    { l.insert number [t] with indent := column, outer := l.indent :: l.outer }
  else l

/-- Skips blanks, comments and line breaks. `fuel` bounds the lines. -/
def skipBlanks : Nat → Lexer → Lexer
  | 0, l => l
  | fuel + 1, l =>
    let s := (l.source.skipWhile (· == ' ')).skipComment
    match s.takeBreak with
    | some (_, after) =>
      skipBlanks fuel { l with source := after, keyAllowed := l.keyAllowed || !l.inFlow }
    | none => { l with source := s }

/-- The end of the text. -/
def atEnd (l : Lexer) : Except Fault Lexer := do
  let l ← (l.unwind (-1)).dropPlace
  .ok (l.add .streamEnd)

/-- A token that ends all blocks. -/
def between (l : Lexer) : Except Fault Lexer := do
  let l ← (l.unwind (-1)).dropPlace
  .ok (l.allowKey false)

/-- An opening bracket, which may be the start of a key. -/
def openFlow (l : Lexer) (t : Token) : Except Fault Lexer := do
  let l ← l.keepPlace
  .ok ({ l with depth := l.depth + 1, keyAllowed := true }.addPast t 1)

/-- A closing bracket. -/
def closeFlow (l : Lexer) (t : Token) : Except Fault Lexer := do
  let l ← l.dropPlace
  .ok ({ l with depth := l.depth - 1, keyAllowed := false }.addPast t 1)

/-- A comma inside brackets. -/
def flowEntry (l : Lexer) : Except Fault Lexer := do
  let l ← (l.allowKey true).dropPlace
  .ok (l.addPast .flowEntry 1)

/-- A dash before an item of a block. -/
def blockEntry (l : Lexer) : Except Fault Lexer := do
  if !l.inFlow && !l.keyAllowed then .error .token
  else
    let l :=
      if l.inFlow then l else l.openBlock l.column l.tokens.length .blockSequenceStart
    let l ← (l.allowKey true).dropPlace
    .ok (l.addPast .blockEntry 1)

/-- A question mark before a key. -/
def explicitKey (l : Lexer) : Except Fault Lexer := do
  if !l.inFlow && !l.keyAllowed then .error .token
  else
    let l :=
      if l.inFlow then l else l.openBlock l.column l.tokens.length .blockMappingStart
    let l ← (l.allowKey !l.inFlow).dropPlace
    .ok (l.addPast .key 1)

/-- A colon before a value: behind a key that has started at a place that was kept, or alone. -/
def mappingValue (l : Lexer) : Except Fault Lexer := do
  match l.place? with
  | some place =>
    let l := { l with places := l.places.filter (·.1 != l.depth) }
    let l := l.insert place.number [.key]
    let l := if l.inFlow then l else l.openBlock place.column place.number .blockMappingStart
    .ok ((l.allowKey false).addPast .value 1)
  | none =>
    if !l.inFlow && !l.keyAllowed then .error .token
    else
      let l :=
        if l.inFlow then l else l.openBlock l.column l.tokens.length .blockMappingStart
      let l ← (l.allowKey !l.inFlow).dropPlace
      .ok (l.addPast .value 1)

/-- A token that may be a key, or the start of one. -/
def keyLike (l : Lexer) (read : Source → Except Fault (Token × Source)) : Except Fault Lexer := do
  let l ← l.keepPlace
  .ok ((l.allowKey false).addRead (← read l.source))

/-- A block scalar. -/
def blockScalar (l : Lexer) (folded : Bool) : Except Fault Lexer := do
  let l ← (l.allowKey true).dropPlace
  .ok (l.addRead (← readBlockScalar folded l.indent l.source))

/-- A plain scalar, after whose last line break a key may start. -/
def plainScalar (l : Lexer) : Except Fault Lexer := do
  let l ← l.keepPlace
  let (token, broken, after) := readPlain l.inFlow (l.indent + 1) l.source
  .ok { (l.allowKey broken).add token with source := after }

/-- Whether a plain scalar can start here. -/
def startsPlain (l : Lexer) : Bool :=
  let c := l.source.peek
  let indicators := "-?:,[]\x7b\x7d#&*!|>'\"%@\x60".toList
  !(isBlankOrEnd c || indicators.contains c) ||
    (!isBlankOrEnd (l.source.peekAt 1) && (c == '-' || (!l.inFlow && (c == '?' || c == ':'))))

/-- The next token. -/
def token (l : Lexer) : Except Fault Lexer :=
  let s := l.source
  let c := s.peek
  let blankNext := isBlankOrEnd (s.peekAt 1)
  if c = '%' && s.column = 0 then do
    let l ← l.between
    .ok (l.addRead (← readDirective l.source))
  else if s.column = 0 && s.atMarker '-' then do
    .ok ((← l.between).addPast .documentStart 3)
  else if s.column = 0 && s.atMarker '.' then do
    .ok ((← l.between).addPast .documentEnd 3)
  else if c = '[' then l.openFlow .flowSequenceStart
  else if c = '{' then l.openFlow .flowMappingStart
  else if c = ']' then l.closeFlow .flowSequenceEnd
  else if c = '}' then l.closeFlow .flowMappingEnd
  else if c = ',' then l.flowEntry
  else if c = '-' && blankNext then l.blockEntry
  else if c = '?' && (l.inFlow || blankNext) then l.explicitKey
  else if c = ':' && (l.inFlow || blankNext) then l.mappingValue
  else if c = '*' then l.keyLike fun s => (readName s).map fun (n, s) => (.alias n, s)
  else if c = '&' then l.keyLike fun s => (readName s).map fun (n, s) => (.anchor n, s)
  else if c = '!' then l.keyLike readTag
  else if c = '|' && !l.inFlow then l.blockScalar false
  else if c = '>' && !l.inFlow then l.blockScalar true
  else if c = '\'' then l.keyLike (readQuoted false)
  else if c = '"' then l.keyLike (readQuoted true)
  else if l.startsPlain then l.plainScalar
  else .error .token

/-- All tokens up to the end. `fuel` bounds their number. -/
def run : Nat → Lexer → Except Fault (List Token)
  | 0, _ => .error .token
  | fuel + 1, l => do
    let l ← (skipBlanks (l.source.rest.length + 1) l).dropStale
    let l := l.unwind l.column
    if l.source.peek = endMark then
      let l ← l.atEnd
      .ok l.tokens.reverse
    else run fuel (← l.token)

end Lexer

/-- The tokens of a text. -/
def tokenize (text : Text) : Except Fault (List Token) :=
  if text.all isAllowed then
    let start : Source := ⟨text, 0, 0, 0⟩
    let start := if start.peek = '\ufeff' then start.next else start
    Lexer.run (text.length + 2) { source := start }
  else .error .character

end SourceText.Yaml
