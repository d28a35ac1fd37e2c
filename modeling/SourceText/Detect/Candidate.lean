import SourceText.Number.Decimal

/-!
# Candidates

What an engine proposes: a language, and how sure the engine is of it.
-/

namespace SourceText.Detect

/-- A proposal of an engine. Its confidence lies between zero and one. -/
structure Candidate where
  engine : String
  language : String
  confidence : Binary64
  deriving DecidableEq, Repr

/-- A confidence brought between zero and one. -/
def clampConfidence (x : Binary64) : Binary64 :=
  Binary64.maxFirst Binary64.zero (Binary64.minFirst Binary64.one x)

/-- A candidate in messages. -/
def Candidate.shown (c : Candidate) : String :=
  s!"DetectionCandidate(engine='{c.engine}', language='{c.language}', " ++
    s!"confidence={c.confidence.fixed 2})"

/-- Sorts by descending confidence; what is equally sure stays in its order. -/
def sortByConfidence {α : Type} (confidence : α → Binary64) (items : List α) : List α :=
  items.mergeSort fun a b => !(confidence a).lt (confidence b)

end SourceText.Detect
