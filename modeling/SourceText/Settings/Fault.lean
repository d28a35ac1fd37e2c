import SourceText.Json.Reader
import SourceText.Number.Reader
import SourceText.Settings.Basic
import SourceText.Storage.Files
import SourceText.Text.Quoted
import SourceText.Value.Misuse
import SourceText.Yaml.Library

/-!
# Faults of settings

Why settings cannot be had, and the words for it.
-/

namespace SourceText.Settings

/-- Why a group cannot be taken from a document. -/
inductive GroupFault where
  /-- The group is of the named kind and not a mapping. -/
  | noMapping (kind : String)
  /-- A key is no text. -/
  | keyKind
  /-- A key is the word for the group itself. -/
  | selfKey
  /-- A key names no setting of the group. -/
  | unknownKey (key : String)
  deriving DecidableEq, Repr

/-- The name of a group in messages. -/
def recordName : Group → String
  | .server => "ServerConfig"
  | .limits => "LimitsConfig"
  | .detection => "DetectionConfig"
  | .formatter => "FormatterConfig"
  | .auth => "AuthConfig"
  | .logging => "LoggingConfig"

/-- The words for a group that cannot be taken. -/
def GroupFault.message (group : Group) : GroupFault → String
  | noMapping kind =>
    s!"codetools.core.config.{recordName group}() argument after ** must be a mapping, not {kind}"
  | keyKind => "keywords must be strings"
  | selfKey => s!"{recordName group}.__init__() got multiple values for argument 'self'"
  | unknownKey key => s!"{recordName group}.__init__() got an unexpected keyword argument '{key}'"

/-- Why settings cannot be had. -/
inductive Fault where
  /-- There is no file at the path. -/
  | missing (path : String)
  /-- The file at the path cannot be read. -/
  | file (error : Files.ReadError)
  /-- Files with the suffix hold no settings. -/
  | suffix (given : String)
  /-- The file holds no JSON document. -/
  | json (error : Json.ReadError)
  /-- The file holds no YAML document. -/
  | yaml (fault : LoadFault)
  /-- A group cannot be taken from the document. -/
  | group (group : Group) (fault : GroupFault)
  /-- A variable holds a text that is no integer. -/
  | integer (text : String) (error : Number.IntegerError)
  /-- A variable holds a text that is no number. -/
  | number (text : String)
  /-- A value is of the wrong kind. -/
  | misuse (error : Misuse)
  /-- A value cannot be written. -/
  | unwritable (reason : String)
  /-- The file cannot be written. -/
  | unwritten (error : Files.WriteError)
  deriving DecidableEq, Repr

/-- The words for a text that is no integer. -/
def integerMessage (text : String) : Number.IntegerError → String
  | .malformed => s!"invalid literal for int() with base 10: {quotedString text}"
  | .tooLong digits => Json.tooManyDigits digits

/-- The words for a YAML document that is not read. -/
def yamlMessage : LoadFault → String
  | .malformed => "malformed document"
  | .value reason => reason
  | .crash _ reason => reason

/-- The words for settings that cannot be had. -/
def Fault.message : Fault → String
  | missing path => s!"Configuration file not found: {path}"
  | file e => e.message
  | suffix given => s!"Unsupported config file format: {given}"
  | json e => e.message
  | yaml fault => yamlMessage fault
  | group g fault => fault.message g
  | integer text e => integerMessage text e
  | number text => s!"could not convert string to float: {quotedString text}"
  | misuse e => e.message
  | unwritable reason => reason
  | unwritten e => e.message

end SourceText.Settings
