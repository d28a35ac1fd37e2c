import SourceText.Detect.Lexers
import SourceText.Detect.StandardFingerprints
import SourceText.Language.Standard

/-!
# Engines

An engine wraps a classifier: asked about a text, it proposes a language or has no opinion. Asking
may fail, for a reason in words.
-/

namespace SourceText.Detect

/-- A classifier engine. -/
structure Engine where
  id : String
  isAvailable : Recorded (Except String Bool)
  classify : Text → Recorded (Except String (Option Candidate))

/-- A model that makes ranked guesses. -/
structure Model where
  isAvailable : Recorded (Except String Bool)
  guesses : Text → Recorded (Except String (List Guess))

/-- The model of a table of lexers. -/
def LexerTable.model (t : LexerTable) : Model where
  isAvailable := do pure (.ok (← t.isAvailable))
  guesses text := do pure ((← t.guesses text).mapError Fault.message)

/-- The candidate for a language, unless the language is not known. -/
def candidate? (engine rawLanguage : String) (confidence : Binary64) : Option Candidate :=
  let language := normalizeLanguage (some rawLanguage)
  if language = unknownLanguage then none
  else some ⟨engine, language, clampConfidence confidence⟩

namespace Engine

/-- The weight of guesses: scores of lexers say less than their numbers. -/
def guessWeight : Binary64 := Binary64.ofRatio false 1 2

/-- The candidate of the first guess, with its confidence weighted. -/
def ofGuesses (id : String) (weight : Binary64) (guesses : List Guess) : Option Candidate :=
  guesses.head?.bind fun g => candidate? id g.language (g.confidence * weight)

/-- The engine over a model; only the first guess counts. -/
def statistical (model : Model) (id : String) (weight : Binary64) : Engine where
  id := id
  isAvailable := model.isAvailable
  classify text := do pure ((← model.guesses text).map (ofGuesses id weight))

/-- Why a relevance has no confidence: it is beyond the binary numbers. -/
def relevanceTooLarge : String := "integer division result too large for a float"

/-- The candidate of a relevance; a hundred points make it sure. -/
def ofRelevance (id : String) (r : Relevance) : Except String (Option Candidate) :=
  if r.points ≤ 0 then .ok none
  else
    let confidence := Binary64.ofQuotient r.points 100
    match candidate? id r.language confidence with
    | none => .ok none
    | some c => if confidence.bounded?.isSome then .ok (some c) else .error relevanceTooLarge

/-- The engine over a classifier that gives points. -/
def heuristic (classifier : Text → Recorded (Except String Relevance)) (id : String) : Engine where
  id := id
  isAvailable := pure (.ok true)
  classify text := do pure ((← classifier text).bind (ofRelevance id))

end Engine

/-- The engines that settings can name. -/
inductive EngineKind where
  | statistical
  | heuristic
  deriving DecidableEq, Repr

namespace EngineKind

/-- The name of an engine. -/
def id : EngineKind → String
  | statistical => "pygments"
  | heuristic => "heuristic"

/-- The engines, in the order in which messages name them. -/
def all : List EngineKind := [statistical, heuristic]

/-- Why a value names no engines. -/
inductive Fault where
  | unknown (name : Value)
  | misuse (error : Misuse)
  deriving BEq, Repr

/-- The words for a value that names no engines. -/
def Fault.message : Fault → String
  | unknown name =>
    s!"Unknown detection engine: {name.shown}. Available engines: " ++ ", ".intercalate (all.map id)
  | misuse e => e.message

/-- The engine of a name, whose case and outer blanks do not matter. -/
def ofName (name : Value) : Except Fault EngineKind :=
  match name with
  | .string s =>
    match all.find? (·.id == languageKey s) with
    | some kind => .ok kind
    | none => .error (.unknown name)
  | .halved _ => .error (.unknown name)
  | .bytes _ => .error (.unknown name)
  | _ => .error (.misuse (.lacks name.kind "strip"))

/-- The engines of the names in a value, in order. -/
def ofNames (names : Value) : Except Fault (List EngineKind) := do
  (← (names.items?).mapError .misuse).mapM ofName

/-- The engine of a kind, over the given lexers or the standard fingerprints. -/
def engine (lexers : LexerTable) : EngineKind → Engine
  | statistical => .statistical lexers.model statistical.id Engine.guessWeight
  | heuristic => .heuristic (Detect.classify standardFingerprints) heuristic.id

end EngineKind

end SourceText.Detect
