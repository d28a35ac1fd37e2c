import SourceText.Storage.Path
import SourceText.Unicode.Utf8

/-!
# Files

The files that are known, and their bytes. A directory is there when a file is in it; the directory
that paths start in is always there, and so are those above it.
-/

namespace SourceText

/-- Files with their bytes. -/
structure Files where
  contents : List (Path × List UInt8) := []
  deriving Repr

namespace Files

/-- What a path can lead to. -/
inductive Entry where
  | file (bytes : List UInt8)
  | directory
  deriving DecidableEq, Repr

/-- Why a file cannot be read as a text. -/
inductive ReadError where
  | missing
  | directory (path : String)
  | encoding (error : Unicode.DecodeError)
  deriving DecidableEq, Repr

/-- Why no file can be written. -/
inductive WriteError where
  /-- A directory is at the path. -/
  | directory (path : String)
  /-- A file is where the directory of the path is to be. -/
  | occupied (path : String)
  /-- The directory of the path is to be below a file. -/
  | noDirectory (path : String)
  deriving DecidableEq, Repr

/-- The words for a path with a directory where a file is to be. -/
def directoryMessage (path : String) : String := s!"[Errno 21] Is a directory: '{path}'"

/-- The words for a file that cannot be read. -/
def ReadError.message : ReadError → String
  | missing => "No such file or directory"
  | directory path => directoryMessage path
  | encoding e => e.message

/-- The words for a file that cannot be written. -/
def WriteError.message : WriteError → String
  | directory path => directoryMessage path
  | occupied path => s!"[Errno 17] File exists: '{path}'"
  | noDirectory path => s!"[Errno 20] Not a directory: '{path}'"

/-- The files of the given names. -/
def ofList (named : List (String × List UInt8)) : Files :=
  ⟨named.map fun (name, bytes) => (Path.ofString name, bytes)⟩

/-- Whether a file is known in the directory of a path. -/
def hasBelow (fs : Files) (p : Path) : Bool :=
  fs.contents.any fun (file, _) => file.root == p.root && p.parts.isPrefixOf file.parts

/-- What is at a path. -/
def entryAt? (fs : Files) (p : Path) : Option Entry :=
  match fs.contents.lookup p with
  | some bytes => some (.file bytes)
  | none => if p.leadsUp || fs.hasBelow p then some .directory else none

/-- Goes along the names from `here`, through directories. -/
def walk? (fs : Files) (here : Path) : List String → Option Entry
  | [] => fs.entryAt? here
  | name :: names =>
    if fs.entryAt? here == some .directory then fs.walk? (here.enter name) names else none

/-- What a path leads to. A file is found under the path that it is known by. -/
def entry? (fs : Files) (p : Path) : Option Entry :=
  match fs.contents.lookup p with
  | some bytes => some (.file bytes)
  | none => fs.walk? p.start p.parts

/-- Whether a path leads to a file. -/
def isFile (fs : Files) (p : Path) : Bool :=
  match fs.entry? p with
  | some (.file _) => true
  | _ => false

/-- The text of a file. -/
def readText (fs : Files) (p : Path) : Except ReadError Text :=
  match fs.entry? p with
  | none => .error .missing
  | some .directory => .error (.directory p.text)
  | some (.file bytes) =>
    match Unicode.decodeUtf8 bytes with
    | .ok text => .ok (Text.unifyLineEnds text)
    | .error e => .error (.encoding e)

/-- Whether there is a file on the way from `here` along the names. -/
def isBarred (fs : Files) (here : Path) : List String → Bool
  | [] => false
  | name :: names =>
    match fs.entryAt? (here.enter name) with
    | some (.file _) => true
    | _ => fs.isBarred (here.enter name) names

/-- What keeps a file from being written, when the directories that it is in are made first. -/
def obstacle? (fs : Files) (p : Path) : Option WriteError :=
  if fs.isFile p.parent then some (.occupied p.parent.text)
  else if fs.isBarred p.parent.start p.parent.parts then some (.noDirectory p.parent.text)
  else if fs.entry? p == some .directory then some (.directory p.text)
  else none

/-- The files after a text was written to a path. -/
def writeText (fs : Files) (p : Path) (text : Text) : Except WriteError Files :=
  match fs.obstacle? p with
  | some e => .error e
  | none => .ok ⟨(p, Unicode.encodeUtf8 text) :: fs.contents.filter fun (file, _) => file != p⟩

end Files

end SourceText
