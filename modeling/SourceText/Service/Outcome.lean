import SourceText.Detect.Detector
import SourceText.RawText

/-!
# Outcomes

What the operations on source text report: the language that they worked with, the text that they
made of theirs, and how long the two are.
-/

namespace SourceText

/-- What is reported of a language that was or was not detected. -/
def reportedLanguage (language : Option String) : String :=
  match language with
  | some name => if name.isEmpty then unknownLanguage else name
  | none => unknownLanguage

/-- What detection reports. -/
structure DetectOutcome where
  language : String
  /-- The languages of the candidates, in ranking order. -/
  possible : List String
  candidates : List Detect.Candidate
  deriving DecidableEq, Repr

namespace DetectOutcome

/-- The report of a detection. -/
def ofDetection (detection : Option Detect.Detection) : DetectOutcome :=
  match detection with
  | some d => ⟨d.best, d.possible, d.candidates⟩
  | none => ⟨unknownLanguage, [], []⟩

end DetectOutcome

/-- What compaction reports. -/
structure CompactOutcome where
  language : String
  originalLength : Nat
  compactedLength : Nat
  compactedText : RawText
  deriving DecidableEq, Repr

namespace CompactOutcome

/-- The report of a text that was made compact for a language. -/
def ofTexts (language : Option String) (original : Text) (compacted : RawText) :
    CompactOutcome :=
  ⟨reportedLanguage language, original.length, compacted.length, compacted⟩

end CompactOutcome

/-- What formatting reports. -/
structure FormatOutcome where
  language : String
  originalLength : Nat
  formattedLength : Nat
  formattedText : RawText
  /-- Whether the formatter could do something. -/
  success : Bool
  deriving DecidableEq, Repr

namespace FormatOutcome

/-- The report of a text that was formatted for a language. -/
def ofTexts (language : Option String) (original : Text) (formatted : RawText) (success : Bool) :
    FormatOutcome :=
  ⟨reportedLanguage language, original.length, formatted.length, formatted, success⟩

/-- What a person is told about an outcome. -/
def message (o : FormatOutcome) : String :=
  if o.success then "Code formatted successfully."
  else "Language unsupported for robust formatting, returning original text."

end FormatOutcome

end SourceText
