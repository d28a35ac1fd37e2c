import SourceText.Language.Loader
import SourceText.Record
import SourceText.Storage.Files

/-!
# Registries in documents

A registry can be given as a document that maps languages to their families and aliases. Entries
that make no sense are left out or completed, with a warning.
-/

namespace SourceText.Registry

/-- Why a document gives no registry. -/
inductive DocumentError where
  /-- The file cannot be read. -/
  | file (error : Files.ReadError)
  /-- The loader makes no object of the text. -/
  | load (fault : LoadFault)
  /-- The document is of the named kind and not a mapping. -/
  | noMapping (kind : String)
  /-- Aliases are given that have no items. -/
  | noItems (reason : String)
  /-- Something that is to be written cannot be. -/
  | unwritable (fault : WriteFault)
  deriving DecidableEq, Repr

/-- The words for a document that gives no registry. -/
def DocumentError.message : DocumentError → String
  | file e => e.message
  | load .malformed => "Invalid YAML in languages config"
  | load (.value reason) => reason
  | load (.crash _ reason) => reason
  | noMapping kind => s!"Invalid languages config format: expected dict, got <class '{kind}'>"
  | noItems reason => reason
  | unwritable fault => fault.message

section Loader

variable {ω ι : Type} [Identifier ι] (l : Loader ω ι)

/-- The family that an entry gives; a family that is not known counts as another one, with a warning
that names the language. Looking it up writes it as well, and from there only an error of a way of
its own gets through. -/
def familyEntry (language : ω) (members : List (ω × ω)) : Recorded (Except DocumentError Family) :=
  match l.member? "family" members with
  | none => pure (.ok .other)
  | some given =>
    match l.family? given with
    | some family => pure (.ok family)
    | none =>
      match l.text language, l.shown given with
      | _, .error (.crash name reason) => pure (.error (.unwritable (.crash name reason)))
      | .error fault, _ => pure (.error (.unwritable fault))
      | _, .error fault => pure (.error (.unwritable fault))
      | .ok name, .ok words => do
        .log .warning s!"Unknown family for {Identifier.shown name}: {words}"
        pure (.ok .other)

/-- What an entry gives for its aliases, item by item. -/
def aliasItems (members : List (ω × ω)) : Except String (List ω) :=
  match l.member? "aliases" members with
  | none => .ok []
  | some given => if l.isGiven given then l.items given else .ok []

/-- The aliases that an entry gives. -/
def aliasEntry (members : List (ω × ω)) : Except DocumentError (List ι) := do
  let items ← (aliasItems l members).mapError .noItems
  (items.mapM l.text).mapError .unwritable

/-- Registers what one entry of the document gives. What is no mapping is left out, with a warning
that names the language. -/
def registerEntry (r : Registry ι) (language entry : ω) :
    Recorded (Except DocumentError (Registry ι)) :=
  match l.shape entry with
  | .mapping members => do
    let family ← familyEntry l language members
    pure do
      let family ← family
      let name ← (l.text language).mapError .unwritable
      .ok (r.register name family (← aliasEntry l members))
  | _ =>
    match l.text language with
    | .error fault => pure (.error (.unwritable fault))
    | .ok name => do
      .log .warning
        s!"Invalid entry for {Identifier.shown name}: expected dict, got <class '{l.kind entry}'>"
      pure (.ok r)

/-- Registers what the entries of the document give, in order. -/
def registerEntries (r : Registry ι) :
    List (ω × ω) → Recorded (Except DocumentError (Registry ι))
  | [] => pure (.ok r)
  | (language, entry) :: rest =>
    (registerEntry l r language entry).andThen fun r => registerEntries r rest

/-- The registry that a document gives. -/
def ofDocument (document : ω) : Recorded (Except DocumentError (Registry ι)) :=
  match l.shape document with
  | .nothing => pure (.ok empty)
  | .mapping entries => registerEntries l empty entries
  | .other => pure (.error (.noMapping (l.kind document)))

/-- The registry that the text of a document gives. -/
def ofText (text : Text) : Recorded (Except DocumentError (Registry ι)) :=
  match l.load text with
  | .ok document => ofDocument l document
  | .error .malformed => do
    .log .error "Failed to parse languages config"
    pure (.error (.load .malformed))
  | .error fault => pure (.error (.load fault))

/-- The registry in a file; a file that is not there gives the empty one. -/
def ofFile (files : Files) (path : String) : Recorded (Except DocumentError (Registry ι)) :=
  let path := Path.ofString path
  match files.readText path with
  | .ok text => ofText l text
  | .error .missing => do
    .log .warning s!"Languages config not found: {path.text}, using empty registry"
    pure (.ok empty)
  | .error e => pure (.error (.file e))

end Loader

end SourceText.Registry
