import SourceText.Language.Registry
import SourceText.Number.Decimal
import SourceText.Number.Reader
import SourceText.Record

/-!
# Fingerprints of languages

A fingerprint is a test of a text and the points that it adds to the relevance of its language. The
language with most points wins, and of several the first in the table. A fingerprint counts once.
-/

namespace SourceText.Detect

-- Zero and powers are those of the core library whatever else is imported.
attribute [local instance (high)] Zero.ofOfNat0 instPowNat

/-- A test of a text and the points for passing it. -/
structure Fingerprint where
  test : Text → Bool
  weight : Int

/-- The languages with their fingerprints. -/
abbrev FingerprintTable : Type := List (String × List Fingerprint)

/-- A language and its points. -/
structure Relevance where
  language : String
  points : Int
  deriving DecidableEq, Repr

/-- The points of a language for a text. -/
def points (fingerprints : List Fingerprint) (text : Text) : Int :=
  ((fingerprints.filter (·.test text)).map (·.weight)).sum

/-- The points of every language, in the order of the table. -/
def scores (table : FingerprintTable) (text : Text) : List Relevance :=
  table.map fun (language, fingerprints) => ⟨language, points fingerprints text⟩

/-- Of two languages the one with more points, the first of equals. -/
def Relevance.orBetter (best next : Relevance) : Relevance :=
  if best.points < next.points then next else best

/-- The first of the languages with most points, if it has any. -/
def top (scores : List Relevance) : Relevance := scores.foldl .orBetter ⟨unknownLanguage, 0⟩

/-- The language of a text by its fingerprints. It is logged with its points, and points of too many
digits cannot be written. -/
def classify (table : FingerprintTable) (text : Text) : Recorded (Except String Relevance) :=
  let best := top (scores table text)
  if best.points.natAbs < 10 ^ Number.maxDigits then do
    .log .debug
      s!"Heuristic classification: {best.language} (relevance={integerText best.points})"
    pure (.ok best)
  else pure (.error Number.tooLongToWrite)

end SourceText.Detect
