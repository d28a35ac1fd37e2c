import SourceText.Detect.Candidate
import SourceText.Record
import SourceText.Unicode.Case
import SourceText.Value.Limit

/-!
# Guesses by lexers

A table of lexers is a model of languages: every lexer scores a text, and the best scores make a
ranked list of guesses. Lexers that take any text are left out. The table is built on first use and
once; without it there are no guesses.
-/

namespace SourceText.Detect

/-- A guess of a model. -/
structure Guess where
  language : String
  confidence : Binary64
  deriving DecidableEq, Repr

/-- A lexer. Its score of a text may be any value, and scoring may fail for a reason. -/
structure Lexer where
  name : String
  aliases : List String
  /-- Whether the lexer is listed only, and cannot be found. -/
  isMissing : Bool
  score : Text → Except String Value

/-- The identifier of a lexer's language. -/
def Lexer.language (l : Lexer) : String :=
  l.aliases.headD (String.ofList (Unicode.lower l.name.toList))

/-- The identifiers of lexers that take any text. -/
def ignoredLanguages : List String := ["text", "output"]

/-- The lexers, and how many guesses of which confidence are wanted. -/
structure LexerTable where
  lexers : List Lexer := []
  /-- Why the lexers cannot be listed, if they cannot. -/
  failure : Option String := none
  maxResults : Int := 5
  minConfidence : Value := .number (Binary64.ofDecimal false 5 (-2))

namespace LexerTable

/-- Why a text is not scored. -/
inductive Fault where
  | lexer (reason : String)
  | misuse (error : Misuse)
  /-- A score is an integer beyond the binary numbers. -/
  | tooLarge
  deriving DecidableEq, Repr

/-- The words for a text that is not scored. -/
def Fault.message : Fault → String
  | lexer reason => reason
  | misuse e => e.message
  | tooLarge => "int too large to convert to float"

/-- The lexers that can be used. -/
def usable (t : LexerTable) : List Lexer :=
  if t.failure.isSome then []
  else t.lexers.filter fun l => l.language ∉ ignoredLanguages && !l.isMissing

/-- Builds the table. -/
def build (t : LexerTable) : Recorded Unit :=
  match t.failure with
  | some reason => .announce .error s!"Failed to initialize Pygments language model: {reason}"
  | none =>
    .announce .info s!"Pygments language model initialized with {t.usable.length} lexers"

/-- Whether the table was built and has lexers. -/
def isAvailable (t : LexerTable) : Recorded Bool := do
  t.build
  pure (t.failure.isNone && !t.usable.isEmpty)

/-- The guess that a lexer makes, if its score is good enough. -/
def guess? (t : LexerTable) (text : Text) (l : Lexer) : Except Fault (Option Guess) := do
  let score ← (l.score text).mapError .lexer
  if !score.isGiven then .ok none
  else if ← (score.isAtLeast t.minConfidence).mapError .misuse then
    match score.toBinary64? with
    | some confidence => .ok (some ⟨l.language, Binary64.minFirst Binary64.one confidence⟩)
    | none => .error .tooLarge
  else .ok none

/-- The first `n` items; for a negative `n` all but so many of the last. -/
def firstItems {α : Type} (n : Int) (items : List α) : List α :=
  items.take (if n < 0 then items.length - n.natAbs else n.toNat)

/-- The guesses for a text, the surest first. -/
def guesses (t : LexerTable) (text : Text) : Recorded (Except Fault (List Guess)) := do
  t.build
  pure do
    let made ← t.usable.mapM (t.guess? text)
    .ok (firstItems t.maxResults (sortByConfidence (·.confidence) (made.filterMap id)))

end LexerTable

end SourceText.Detect
