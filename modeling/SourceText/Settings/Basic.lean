import SourceText.Value.Basic

/-!
# Settings

The settings come in groups. Each has a key inside its group and a value of its own, which can be
anything that a document can hold: what a setting is used for decides later whether it fits.
-/

namespace SourceText

/-- The groups that settings come in. -/
inductive Group where
  | server
  | limits
  | detection
  | formatter
  | auth
  | logging
  deriving DecidableEq, Repr

/-- The settings, in the order in which they are written. -/
inductive Setting where
  | host
  | port
  | maxDetectChars
  | maxBodyBytes
  | minDetectChars
  | engines
  | apiUrl
  | apiKey
  | endpoint
  | timeout
  | internalKey
  | maxSkewMs
  | logLevel
  | logFormat
  deriving DecidableEq, Repr

namespace Group

/-- The name of a group in a document. -/
def name : Group → String
  | server => "server"
  | limits => "limits"
  | detection => "detection"
  | formatter => "formatter"
  | auth => "auth"
  | logging => "logging"

/-- The groups, in the order in which they are written. -/
def all : List Group := [server, limits, detection, formatter, auth, logging]

end Group

namespace Setting

/-- The group of a setting. -/
def group : Setting → Group
  | host | port => .server
  | maxDetectChars | maxBodyBytes | minDetectChars => .limits
  | engines => .detection
  | apiUrl | apiKey | endpoint | timeout => .formatter
  | internalKey | maxSkewMs => .auth
  | logLevel | logFormat => .logging

/-- The key of a setting in its group. -/
def key : Setting → String
  | host => "host"
  | port => "port"
  | maxDetectChars => "max_detect_chars"
  | maxBodyBytes => "max_body_bytes"
  | minDetectChars => "min_detect_chars"
  | engines => "engines"
  | apiUrl => "api_url"
  | apiKey => "api_key"
  | endpoint => "endpoint"
  | timeout => "timeout"
  | internalKey => "internal_key"
  | maxSkewMs => "max_skew_ms"
  | logLevel => "level"
  | logFormat => "format"

/-- The settings, in the order in which they are written. -/
def all : List Setting :=
  [host, port, maxDetectChars, maxBodyBytes, minDetectChars, engines, apiUrl, apiKey, endpoint,
    timeout, internalKey, maxSkewMs, logLevel, logFormat]

theorem mem_all (setting : Setting) : setting ∈ all := by
  cases setting <;> decide

/-- The value that a setting has when nothing gives one. -/
def builtIn : Setting → Value
  | host => .string "0.0.0.0"
  | port => .integer 3000
  | maxDetectChars => .integer 20000
  | maxBodyBytes => .integer 5242880
  | minDetectChars => .integer 3
  | engines => .list [.string "pygments", .string "heuristic"]
  | apiUrl => .string ""
  | apiKey => .string ""
  | endpoint => .string "/format"
  | timeout => .number (Binary64.ofInt 10)
  | internalKey => .string ""
  | maxSkewMs => .integer 60000
  | logLevel => .string "INFO"
  | logFormat => .string "%(asctime)s - %(name)s - %(levelname)s - %(message)s"

/-- Whether a setting is a secret. -/
def isSecret : Setting → Bool
  | apiKey | internalKey => true
  | _ => false

/-- The setting with the given key in a group. -/
def ofKey? (group : Group) (key : String) : Option Setting :=
  all.find? fun setting => setting.group = group && setting.key = key

end Setting

/-- The settings of a group, in order. -/
def Group.settings (group : Group) : List Setting := Setting.all.filter (·.group = group)

/-- A value for every setting. -/
structure Settings where
  value : Setting → Value

namespace Settings

/-- The values that settings have when nothing gives any. -/
def builtIn : Settings := ⟨Setting.builtIn⟩

/-- Gives one setting a value. -/
def set (s : Settings) (setting : Setting) (value : Value) : Settings :=
  ⟨fun other => if other = setting then value else s.value other⟩

@[simp] theorem value_set (s : Settings) (setting other : Setting) (value : Value) :
    (s.set setting value).value other = if other = setting then value else s.value other := rfl

/-- The settings without their secrets. A secret that is not given stays as it is, so that it shows
that there is none. -/
def redacted (s : Settings) : Settings :=
  ⟨fun setting =>
    if setting.isSecret && (s.value setting).isGiven then .string "[REDACTED]"
    else s.value setting⟩

/-- The document of the settings of a group. -/
def groupDocument (s : Settings) (group : Group) : Value :=
  .mapping (group.settings.map fun setting => (.string setting.key, s.value setting))

/-- The document of the settings. -/
def document (s : Settings) : Value :=
  .mapping (Group.all.map fun group => (.string group.name, s.groupDocument group))

end Settings

end SourceText
