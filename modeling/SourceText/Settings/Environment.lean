import SourceText.Settings.Document

/-!
# Settings in the environment

Environment variables override settings. Each is read as its setting needs it, in the order of the
settings, and the first that cannot be read ends the reading: the settings before it keep what their
variables gave.
-/

namespace SourceText.Settings

/-- The values of environment variables. -/
abbrev Environment : Type := String → Option String

/-- How the text of a variable is read. -/
inductive Reading where
  | text
  | integer
  | number
  | items
  deriving DecidableEq, Repr

/-- The items of a text that are separated by commas, without blanks around them; blank items are
left out. -/
def parseItems (text : Text) : List Text :=
  ((Text.splitOn (· = ',') text).map Text.trim).filter (!·.isEmpty)

/-- The value that the text of a variable stands for. -/
def Reading.read (reading : Reading) (given : String) : Except Fault Value :=
  match reading with
  | text => .ok (.string given)
  | integer => ((Number.readInteger given.toList).map .integer).mapError (.integer given)
  | number =>
    match Number.readFloat given.toList with
    | some x => .ok (.number x)
    | none => .error (.number given)
  | items => .ok (.list ((parseItems given.toList).map fun item => .string (String.ofList item)))

/-- How the variable of a setting is read; the format of messages has no variable. -/
def reading? : Setting → Option Reading
  | .host | .apiUrl | .apiKey | .endpoint | .internalKey | .logLevel => some .text
  | .port | .maxDetectChars | .maxBodyBytes | .minDetectChars | .maxSkewMs => some .integer
  | .timeout => some .number
  | .engines => some .items
  | .logFormat => none

/-- The variable of a setting. -/
def variableName (setting : Setting) : String :=
  String.ofList
    (("CODETOOLS_" ++ setting.group.name ++ "_" ++ setting.key).toList.map Char.toUpper)

/-- The value that the environment gives to a setting, if it gives one. -/
def override? (environment : Environment) (setting : Setting) : Option (Except Fault Value) := do
  let reading ← reading? setting
  let given ← environment (variableName setting)
  some (reading.read given)

/-- Applies the variables of the given settings, in order, up to the first that cannot be read. -/
def applyVariables (environment : Environment) (s : Settings) :
    List Setting → Settings × Option Fault
  | [] => (s, none)
  | setting :: rest =>
    match override? environment setting with
    | none => applyVariables environment s rest
    | some (.ok value) => applyVariables environment (s.set setting value) rest
    | some (.error fault) => (s, some fault)

/-- The variable under which the gateway shares its secret. -/
def sharedKeyName : String := "INTERNAL_API_KEY"

/-- Takes the secret of the gateway unless the settings give one. -/
def applySharedKey (environment : Environment) (s : Settings) : Settings :=
  match environment sharedKeyName with
  | some key =>
    if key.isEmpty || (s.value .internalKey).isGiven then s else s.set .internalKey (.string key)
  | none => s

/-- Applies the environment to the settings. -/
def applyEnvironment (environment : Environment) (s : Settings) : Settings × Option Fault :=
  match applyVariables environment s Setting.all with
  | (s, none) => (applySharedKey environment s, none)
  | (s, some fault) => (s, some fault)

/-- What settings are loaded from: the defaults, the files and the environment, with a library for
documents in YAML. -/
structure Surroundings where
  yaml : Yaml.Library := Yaml.standard
  defaults : Option Text := some packagedDefaults
  files : Files := {}
  environment : Environment := fun _ => none

/-- The path of the settings if one is given; an empty path is none. -/
def givenPath? (path : Option String) : Option String := path.filter fun path => !path.isEmpty

/-- Loads the settings from a file, if a path is given, and from the environment. -/
def load (surroundings : Surroundings) (path : Option String) (withEnvironment : Bool) :
    Recorded (Except Fault Settings) :=
  let base :=
    match givenPath? path with
    | some path => ofFile surroundings.yaml surroundings.defaults surroundings.files path
    | none => readDefaults surroundings.yaml surroundings.defaults
  base.andThen fun s =>
    pure <|
      if withEnvironment then
        match applyEnvironment surroundings.environment s with
        | (s, none) => .ok s
        | (_, some fault) => .error fault
      else .ok s

end SourceText.Settings
