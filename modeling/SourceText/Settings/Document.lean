import SourceText.Settings.Defaults
import SourceText.Value.Written

/-!
# Settings in documents

Settings are read from YAML and JSON files and written to them. A document may leave out groups and
settings, which then have their defaults; groups that are not known are passed over, and settings
that are not known are refused.
-/

namespace SourceText.Settings

/-! ### Reading -/

/-- Takes one setting of a group from its entry. -/
def takeEntry (group : Group) (s : Settings) (entry : Value × Value) :
    Except GroupFault Settings :=
  match entry.1 with
  | .string key =>
    match Setting.ofKey? group key with
    | some setting => .ok (s.set setting entry.2)
    | none => .error (if key = "self" then .selfKey else .unknownKey key)
  | .halved key => .error (.unknownKey (String.ofList key.shown))
  | _ => .error .keyKind

/-- Takes the settings of a group from a document. -/
def takeGroup (s : Settings) (group : Group) (given : Value) : Except Fault Settings :=
  match given with
  | .mapping entries =>
    if entries.all fun (key, _) => key.isText then
      (entries.foldlM (takeEntry group) s).mapError (.group group)
    else .error (.group group .keyKind)
  | _ => .error (.group group (.noMapping given.kind))

/-- Whether a document that is no mapping has the name of a group in it, so that the group would
have to be taken from it. -/
def mentions (name : String) (document : Value) : Except Misuse Bool :=
  match document with
  | .list items => .ok (items.contains (.string name))
  | .set members => .ok (members.contains (.string name))
  | .string s => .ok (Text.hasInfix name.toList s.toList)
  | .halved s => .ok (Text.hasInfix name.toList s.shown)
  | .bytes _ => .error .textInBytes
  | _ => .error (.notSearchable document.kind)

/-- Takes the settings from a document over their defaults. -/
def takeDocument (defaults : Settings) (document : Value) : Except Fault Settings :=
  match document with
  | .mapping entries =>
    Group.all.foldlM
      (fun s group =>
        match Value.lookup? group.name entries with
        | some given => s.takeGroup group given
        | none => .ok s)
      defaults
  | _ => do
    let mentioned ← (Group.all.mapM fun group => mentions group.name document).mapError .misuse
    if mentioned.any id then .error (.misuse (.noEntries document.kind)) else .ok defaults

/-- The settings that a document gives. -/
def ofDocument (yaml : Yaml.Library) (defaults : Option Text) (document : Value) :
    Recorded (Except Fault Settings) :=
  (readDefaults yaml defaults).andThen fun s => pure (s.takeDocument document)

/-- The kinds of files that hold settings. -/
inductive Format where
  | yaml
  | json
  deriving DecidableEq, Repr

/-- The format of files with a suffix. -/
def Format.ofSuffix (suffix : String) : Except Fault Format :=
  if suffix = ".yaml" || suffix = ".yml" then .ok yaml
  else if suffix = ".json" then .ok json
  else .error (.suffix suffix)

/-- The document in the text of a file. -/
def Format.readDocument (library : Yaml.Library) (format : Format) (text : Text) :
    Except Fault Value :=
  match format with
  | yaml => do
    let document ← (library.read text).mapError .yaml
    .ok (if document.isGiven then document else .mapping [])
  | json =>
    if text.isAllBlank then .ok (.mapping [])
    else ((Json.read text.raw).mapError .json).map Value.ofJson

/-- The document in a file. -/
def readDocument (yaml : Yaml.Library) (files : Files) (path : Path) : Except Fault Value :=
  match files.readText path with
  | .error .missing => .error (.missing path.text)
  | .error e => .error (.file e)
  | .ok text => do (← Format.ofSuffix path.suffix).readDocument yaml text

/-- The settings in a file. -/
def ofFile (yaml : Yaml.Library) (defaults : Option Text) (files : Files) (path : String) :
    Recorded (Except Fault Settings) :=
  match readDocument yaml files (Path.ofString path) with
  | .ok document => ofDocument yaml defaults document
  | .error fault => pure (.error fault)

/-! ### Writing -/

/-- The settings as a YAML document. -/
def toYaml (yaml : Yaml.Library) (s : Settings) : Except Fault Text :=
  (yaml.write s.document).mapError .unwritable

/-- JSON in files is indented by two spaces and has characters of ASCII only. -/
def fileStyle : Json.Style := { indent := some 2, asciiOnly := true }

/-- The settings as a JSON document. -/
def toJson (s : Settings) : Except Fault Text := do
  let json ← s.document.toJson.mapError .misuse
  if s.document.isWritable then .ok (Json.write fileStyle json).chars
  else .error (.unwritable Number.tooLongToWrite)

/-- The settings as a document. -/
def toText (yaml : Yaml.Library) (s : Settings) : Format → Except Fault Text
  | .yaml => s.toYaml yaml
  | .json => s.toJson

/-- The files after the settings were saved, and what was written. -/
def save (yaml : Yaml.Library) (s : Settings) (files : Files) (path : String) :
    Except Fault (Files × Text) := do
  let path := Path.ofString path
  let text ← s.toText yaml (← Format.ofSuffix path.suffix)
  let files ← (files.writeText path text).mapError .unwritten
  .ok (files, text)

end SourceText.Settings
