import SourceText.Format.Backend

/-!
# The formatter

The formatter hands code to the first of its backends that knows the parser of the language. Code
that cannot be formatted stays as it is. Only a backend that cannot say what it knows makes the
formatter fail.
-/

namespace SourceText.Format

/-- The backends, in the order in which they are tried. -/
structure Formatter where
  backends : List Backend

namespace Formatter

/-- The indentation of JSON code. -/
def jsonIndent : Nat := 2

/-- The formatter that lays out JSON here and, if there is a remote service, asks it about all
else. -/
def ofRemote (transport : Transport) (remote : Option Remote)
    (rules : ClientRules := ClientRules.standard) : Formatter :=
  ⟨Backend.json jsonIndent :: (remote.map (Backend.remote transport · rules)).toList⟩

/-- The formatter of an address, a key and the path of the formatter at that address. -/
def create (transport : Transport) (base key endpoint : String)
    (rules : ClientRules := ClientRules.standard) : Except HeaderError Formatter :=
  (Remote.ofSettings? base key endpoint).map (ofRemote transport · rules)

/-- The first backend that knows a parser. -/
def backendFor (parser : String) : List Backend → Except String (Option Backend)
  | [] => .ok none
  | backend :: rest =>
    match backend.supports parser with
    | .error reason => .error reason
    | .ok true => .ok (some backend)
    | .ok false => backendFor parser rest

/-- Formats code of a language. -/
def formatCode (f : Formatter) (code : RawText) (language : Option String) :
    Recorded (Except String RawText) :=
  match parserOf? language with
  | none => pure (.ok code)
  | some parser =>
    match backendFor parser f.backends with
    | .error reason => pure (.error reason)
    | .ok none => do
      .log .debug s!"No formatter backend for parser {parser}"
      pure (.ok code)
    | .ok (some backend) =>
      backend.format parser code >>= fun
        | .ok formatted => pure (.ok formatted)
        | .error failure => do
          .log .error s!"Format error (parser={parser}): {failure.message}"
          pure (.ok code)

end Formatter

end SourceText.Format
