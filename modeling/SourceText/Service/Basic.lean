import SourceText.Compact.Compactor
import SourceText.Format.Formatter
import SourceText.Layout
import SourceText.Service.Outcome
import SourceText.Value.Limit

/-!
# The service

Four operations on source text: its language is detected, and it is made compact, laid out again or
formatted in the way of that language. All but the first detect the language in the same way, so
that they agree about it.
-/

namespace SourceText

/-- What the operations work with. -/
structure Service where
  engines : List Detect.Engine
  /-- The least number of characters of a text whose language is looked for. There is none if no
  text is long enough, and an error if what was set is no number. -/
  minChars : Except Misuse (Option Int)
  compactor : Compactor
  /-- The indentation of one level. -/
  indentUnit : Text := Layout.defaultUnit
  formatter : Format.Formatter

namespace Service

open Detect

/-- Why an operation fails. -/
inductive Failure where
  /-- A setting is of the wrong kind. -/
  | misuse (error : Misuse)
  /-- A backend of the formatter cannot say what it knows. -/
  | backend (reason : String)
  deriving DecidableEq, Repr

/-- The words for an operation that fails. -/
def Failure.message : Failure → String
  | misuse e => e.message
  | backend reason => reason

/-- Looks for the language of a text. An empty text has none. -/
def detection (s : Service) (text : Text) : Recorded (Except Failure (Option Detection)) :=
  if text.isEmpty then pure (.ok none)
  else
    match s.minChars with
    | .error e => pure (.error (.misuse e))
    | .ok none => pure (.ok none)
    | .ok (some least) => do pure (.ok (← Detector.detect ⟨s.engines, least⟩ text))

/-- The best language of a text. -/
def bestLanguage (s : Service) (text : Text) : Recorded (Except Failure (Option String)) := do
  pure ((← s.detection text).map fun d => d.map (·.best))

/-- Detects the language of a text. -/
def detect (s : Service) (text : Text) : Recorded (Except Failure DetectOutcome) := do
  pure ((← s.detection text).map DetectOutcome.ofDetection)

/-- The language that is given or else that of the text. -/
def languageFor (s : Service) (text : Text) (given : Option String) :
    Recorded (Except Failure (Option String)) :=
  match given with
  | some language => pure (.ok (some language))
  | none => s.bestLanguage text

/-- Makes a text compact for the given language, or else for its own. -/
def compact (s : Service) (text : Text) (given : Option String) :
    Recorded (Except Failure CompactOutcome) :=
  (s.languageFor text given).andThen fun language => do
    let compacted ← s.compactor.compact text language
    pure (.ok (.ofTexts language text compacted))

/-- Formats code of a language. -/
def formatCode (s : Service) (code : Text) (language : Option String) :
    Recorded (Except Failure RawText) := do
  pure ((← s.formatter.formatCode code.raw language).mapError .backend)

/-- Lays a text out again and formats it. -/
def uncompact (s : Service) (text : Text) : Recorded (Except Failure FormatOutcome) :=
  (s.bestLanguage text).andThen fun language => do
    let laidOut ← reformatLogged s.indentUnit text
    (s.formatCode laidOut language).andThen fun formatted =>
      pure (.ok (.ofTexts language text formatted true))

/-- Formats a text. It counts as formatted when that changes it. -/
def format (s : Service) (text : Text) : Recorded (Except Failure FormatOutcome) :=
  (s.bestLanguage text).andThen fun language =>
    (s.formatCode text language).andThen fun formatted =>
      pure (.ok (.ofTexts language text formatted (formatted != text.raw)))

/-- Asks every engine whether it is available. -/
def warmUp (s : Service) : Recorded Unit := Detector.warmUpFrom 0 s.engines

end Service

/-- The four operations as others call them. Each may fail, for a reason in words. -/
structure Operations where
  detect : Text → Recorded (Except String DetectOutcome)
  compact : Text → Option String → Recorded (Except String CompactOutcome)
  uncompact : Text → Recorded (Except String FormatOutcome)
  format : Text → Recorded (Except String FormatOutcome)

/-- The operations of a service. -/
def Service.operations (s : Service) : Operations where
  detect text := do pure ((← s.detect text).mapError Failure.message)
  compact text given := do pure ((← s.compact text given).mapError Failure.message)
  uncompact text := do pure ((← s.uncompact text).mapError Failure.message)
  format text := do pure ((← s.format text).mapError Failure.message)

end SourceText
