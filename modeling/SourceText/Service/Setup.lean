import SourceText.Format.Header
import SourceText.Service.Basic
import SourceText.Settings.Environment

/-!
# Services from settings

The settings name the engines and say where the remote formatter is. What they say is checked here
as far as building the service needs it; the least length of texts is only found wanting when a text
comes.
-/

namespace SourceText.Service

open Detect Format

/-- What the settings leave open: the lexers, and the way to the remote formatter. -/
structure Equipment where
  lexers : LexerTable
  transport : Transport

/-- Why a service cannot be built. -/
inductive Fault where
  /-- The settings cannot be had. -/
  | settings (fault : Settings.Fault)
  /-- The settings name no engines. -/
  | engines (fault : EngineKind.Fault)
  /-- The key of the remote formatter cannot be sent. -/
  | key (error : HeaderError)
  /-- A setting is of the wrong kind. -/
  | misuse (error : Misuse)
  deriving BEq, Repr

/-- The words for a service that cannot be built. -/
def Fault.message : Fault → String
  | settings fault => fault.message
  | engines fault => fault.message
  | key e => e.message
  | misuse e => e.message

/-- The text of a setting on which the named operation is used. -/
def textOf (operation : String) (value : Value) : Except Fault String :=
  match value with
  | .string s => .ok s
  | .halved s => .error (.misuse (.noBytes s))
  | .bytes _ => .error (.misuse .textInBytes)
  | _ => .error (.misuse (.lacks value.kind operation))

/-- The remote formatter of the settings, if they give an address. -/
def remoteOf (s : Settings) : Except Fault (Option Remote) :=
  if !(s.value .apiUrl).isGiven then .ok none
  else do
    let endpoint ← textOf "startswith" (s.value .endpoint)
    let base ← textOf "rstrip" (s.value .apiUrl)
    let key := if (s.value .apiKey).isGiven then (s.value .apiKey).toText else ""
    (Remote.ofSettings? base key endpoint).mapError .key

/-- The service of the settings. -/
def ofSettings (e : Equipment) (s : Settings) : Except Fault Service := do
  let kinds ← (EngineKind.ofNames (s.value .engines)).mapError .engines
  let remote ← remoteOf s
  .ok
    { engines := kinds.map (EngineKind.engine e.lexers)
      minChars := Value.leastCount (s.value .minDetectChars)
      compactor := Compactor.standard
      formatter := Formatter.ofRemote e.transport remote }

/-- The settings from a file and the environment, and their service. -/
def load (e : Equipment) (surroundings : Settings.Surroundings) (path : Option String) :
    Recorded (Except Fault (Settings × Service)) := do
  match ← Settings.load surroundings path true with
  | .error fault => pure (.error (.settings fault))
  | .ok settings => pure ((ofSettings e settings).map fun service => (settings, service))

end SourceText.Service
