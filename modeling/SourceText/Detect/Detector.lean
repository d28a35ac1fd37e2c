import SourceText.Detect.Engine

/-!
# Detection

The detector asks every available engine about a text and ranks what they propose by confidence; of
equals the engine that comes first in the list wins. An engine that fails contributes nothing and is
not asked again. Texts that are too short are not looked at.
-/

namespace SourceText.Detect

/-- The engines in the order in which they are asked, and the least number of characters of a text
without the blanks at its ends. -/
structure Detector where
  engines : List Engine
  minChars : Int

/-- What is detected: the best language, and the candidates in ranking order. -/
structure Detection where
  best : String
  candidates : List Candidate
  deriving DecidableEq, Repr

/-- The languages of the candidates, in ranking order. -/
def Detection.possible (d : Detection) : List String := d.candidates.map (·.language)

namespace Detector

/-- Asks the engine at a place in the list about a text. -/
def ask (text : Text) (place : Nat) (engine : Engine) : Recorded (Option Candidate) := do
  let failed (reason : String) : Recorded (Option Candidate) := do
    .log .warning s!"Detection engine {engine.id} failed: {reason}"
    pure none
  .ask place .isAvailable
  match ← engine.isAvailable with
  | .error reason => failed reason
  | .ok false => do
    .log .debug s!"Detection engine {engine.id} unavailable, skipping"
    pure none
  | .ok true =>
    .ask place .classify
    match ← engine.classify text with
    | .error reason => failed reason
    | .ok candidate => pure candidate

/-- Asks the engines from a place in the list on. -/
def askFrom (text : Text) : Nat → List Engine → Recorded (List Candidate)
  | _, [] => pure []
  | place, engine :: engines => do
    let candidate ← ask text place engine
    let candidates ← askFrom text (place + 1) engines
    pure (candidate.toList ++ candidates)

/-- Whether a text is too short to be looked at. -/
def isTooShort (d : Detector) (text : Text) : Bool :=
  text.isEmpty || decide ((text.trim.length : Int) < d.minChars)

/-- The ranking of candidates, if there are any. -/
def rank (candidates : List Candidate) : Option Detection :=
  match sortByConfidence (·.confidence) candidates with
  | [] => none
  | best :: others => some ⟨best.language, best :: others⟩

/-- Detects the language of a text. -/
def detect (d : Detector) (text : Text) : Recorded (Option Detection) :=
  if d.isTooShort text then pure none
  else do pure (rank (← askFrom text 0 d.engines))

/-- The best language of a text. -/
def bestLanguage (d : Detector) (text : Text) : Recorded (Option String) := do
  pure ((← d.detect text).map (·.best))

/-- Asks every engine from a place in the list on whether it is available, so that models are built
before the first text comes. -/
def warmUpFrom : Nat → List Engine → Recorded Unit
  | _, [] => pure ()
  | place, engine :: engines => do
    .ask place .isAvailable
    match ← engine.isAvailable with
    | .error reason =>
      .log .warning s!"Detection engine {engine.id} failed to initialize: {reason}"
    | .ok available =>
      .log .debug s!"Detection engine {engine.id} available={(Value.bool available).shown}"
    warmUpFrom (place + 1) engines

/-- Asks every engine whether it is available. -/
def warmUp (d : Detector) : Recorded Unit := warmUpFrom 0 d.engines

end Detector

end SourceText.Detect
