import SourceText.Http.Message
import SourceText.Service.Basic

/-!
# Operations at their paths

Each operation of the service has a path of its own, to which texts are posted. What it reports is
written as a JSON object.
-/

namespace SourceText.Http

/-- An operation that texts are posted to. -/
inductive Operation where
  | detect
  | compact
  | uncompact
  | format
  deriving DecidableEq, Repr

namespace Operation

/-- The operations. -/
def all : List Operation := [detect, compact, uncompact, format]

/-- The path of an operation. -/
def path : Operation → String
  | detect => "/detect"
  | compact => "/compact"
  | uncompact => "/uncompact"
  | format => "/format"

/-- The operation at a path. -/
def ofPath? (path : String) : Option Operation := all.find? (·.path == path)

/-- What is said when a request comes without a text. -/
def missingText : Operation → String
  | detect => "No text provided"
  | _ => "Missing required 'text' field"

end Operation

/-- A count in a report. -/
def count (n : Nat) : Json := .integer n

/-- A candidate in a report. -/
def candidateReport (c : Detect.Candidate) : Json :=
  Json.ofMembers [("engine", Json.ofString c.engine), ("language", Json.ofString c.language),
    ("confidence", .number c.confidence)]

/-- The report of a detection. -/
def detectReport (o : DetectOutcome) : List (String × Json) :=
  [("language", Json.ofString o.language), ("possible", .array (o.possible.map Json.ofString)),
    ("engines", .array (o.candidates.map candidateReport))]

/-- The report of a compaction. -/
def compactReport (o : CompactOutcome) : List (String × Json) :=
  [("language", Json.ofString o.language), ("originalLength", count o.originalLength),
    ("compactedLength", count o.compactedLength), ("compactedText", .string o.compactedText)]

/-- The report of a text that was laid out again. -/
def uncompactReport (o : FormatOutcome) : List (String × Json) :=
  [("language", Json.ofString o.language), ("originalLength", count o.originalLength),
    ("formattedLength", count o.formattedLength), ("formattedText", .string o.formattedText)]

/-- The report of a text that was formatted. -/
def formatReport (o : FormatOutcome) : List (String × Json) :=
  uncompactReport o ++ [("success", .bool o.success), ("message", Json.ofString o.message)]

/-- What an operation reports about a text. -/
def Operation.run (operation : Operation) (operations : Operations) (text : Text) :
    Recorded (Except String (List (String × Json))) :=
  match operation with
  | .detect => do pure ((← operations.detect text).map detectReport)
  | .compact => do pure ((← operations.compact text none).map compactReport)
  | .uncompact => do pure ((← operations.uncompact text).map uncompactReport)
  | .format => do pure ((← operations.format text).map formatReport)

end SourceText.Http
