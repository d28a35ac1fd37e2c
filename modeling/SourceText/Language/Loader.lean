import SourceText.Language.Registry
import SourceText.Value.Misuse
import SourceText.Yaml.Library

/-!
# Loaders of documents

A loader makes an object of the text of a document. Whoever reads a registry from it asks little of
such objects: which of them are mappings, how they are written, and what their items are. Some
objects cannot be written. An object may have itself among its parts.
-/

namespace SourceText

/-- Why an object cannot be written. -/
inductive WriteFault where
  /-- A value in it has no words, for a reason. -/
  | value (reason : String)
  /-- Writing goes wrong in a way of its own: the name of the error, and its words. -/
  | crash (name reason : String)
  deriving DecidableEq, Repr

/-- The words for an object that cannot be written. -/
def WriteFault.message : WriteFault → String
  | value reason => reason
  | crash _ reason => reason

/-- What an object is to someone who looks for mappings. -/
inductive Shape (ω : Type) where
  | nothing
  | mapping (entries : List (ω × ω))
  | other

/-- A loader of documents, and what can be asked of its objects. -/
structure Loader (ω : Type) (ι : Type := String) where
  load : Text → Except LoadFault ω
  shape : ω → Shape ω
  /-- The name of the kind of an object. -/
  kind : ω → String
  /-- Whether an object is the given string. -/
  isString : ω → String → Bool
  /-- Whether an object counts as given. -/
  isGiven : ω → Bool
  /-- The items of an object, or why it has none. -/
  items : ω → Except String (List ω)
  /-- What an object names, or why it cannot be written. -/
  text : ω → Except WriteFault ι
  /-- An object as messages show it, or why it cannot be written. -/
  shown : ω → Except WriteFault String

namespace Loader

variable {ω ι : Type} (l : Loader ω ι)

/-- The object that a mapping has under a string. -/
def member? (name : String) (entries : List (ω × ω)) : Option ω :=
  (entries.find? fun (key, _) => l.isString key name).map (·.2)

/-- The family whose name an object is. -/
def family? (given : ω) : Option Family :=
  Family.all.find? fun family => l.isString given family.name

end Loader

namespace Yaml

/-- The loader of YAML documents. Its objects are values, so that none is a part of itself. -/
def loader : Loader Value where
  load := standard.read
  shape
    | .null => .nothing
    | .mapping entries => .mapping entries
    | _ => .other
  kind := Value.kind
  isString value name :=
    match value with
    | .string s => s == name
    | _ => false
  isGiven := Value.isGiven
  items value := (value.items?).mapError Misuse.message
  text value :=
    if value.isWritable then .ok value.toText else .error (.value Number.tooLongToWrite)
  shown value :=
    if value.isWritable then .ok value.shown else .error (.value Number.tooLongToWrite)

end Yaml

end SourceText
