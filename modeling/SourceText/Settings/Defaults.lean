import SourceText.Record
import SourceText.Settings.Fault

/-!
# Default settings

The defaults come from a document. A group or a setting that the document leaves out has its
built-in value.
-/

namespace SourceText.Settings

/-- The document of the defaults that come with the program. -/
def packagedDefaults : Text :=
  ("server:\n  host: 0.0.0.0\n  port: 3000\n\n" ++
    "limits:\n  max_detect_chars: 20000\n  max_body_bytes: 5242880\n  min_detect_chars: 3\n\n" ++
    "detection:\n  engines:\n    - pygments\n    - heuristic\n\n" ++
    "formatter:\n  api_url: \"\"\n  api_key: \"\"\n  endpoint: /format\n  timeout: 10.0\n\n" ++
    "auth:\n  internal_key: \"\"\n  max_skew_ms: 60000\n\n" ++
    "logging:\n  level: INFO\n" ++
    "  format: \"%(asctime)s - %(name)s - %(levelname)s - %(message)s\"\n").toList

/-- The document in the text of the defaults; without one that can be read it is empty. -/
def defaultsDocument (yaml : Yaml.Library) (text : Option Text) : Recorded (Except Fault Value) :=
  match text with
  | none => do
    .announce .warning "Defaults config not found: defaults.yaml"
    pure (.ok (.mapping []))
  | some text =>
    match yaml.read text with
    | .ok document => pure (.ok (if document.isGiven then document else .mapping []))
    | .error .malformed => do
      .announce .error "Failed to parse defaults config"
      pure (.ok (.mapping []))
    | .error fault => pure (.error (.yaml fault))

/-- The entries of a value that has to be a mapping. -/
def entriesOf (value : Value) : Except Misuse (List (Value × Value)) :=
  match value with
  | .mapping entries => .ok entries
  | _ => .error (.lacks value.kind "get")

/-- The entries of a group in the document of the defaults. -/
def defaultEntries (document : Value) (group : Group) : Except Misuse (List (Value × Value)) := do
  let groups ← entriesOf document
  match Value.lookup? group.name groups with
  | none => .ok []
  | some given => if given.isGiven then entriesOf given else .ok []

/-- The default of a setting. The names of engines are the items of what is given. -/
def defaultValue (document : Value) (setting : Setting) : Except Misuse Value := do
  let entries ← defaultEntries document setting.group
  let value := (Value.lookup? setting.key entries).getD setting.builtIn
  if setting = .engines then .ok (.list (← value.items?)) else .ok value

/-- The defaults that a document gives. -/
def ofDefaults (document : Value) : Except Misuse Settings :=
  Setting.all.foldlM (fun s setting => do .ok (s.set setting (← defaultValue document setting)))
    builtIn

/-- The defaults in a text. -/
def readDefaults (yaml : Yaml.Library) (text : Option Text) : Recorded (Except Fault Settings) := do
  match ← defaultsDocument yaml text with
  | .error fault => pure (.error fault)
  | .ok document => pure ((ofDefaults document).mapError .misuse)

end SourceText.Settings
