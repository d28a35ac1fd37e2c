import SourceText.Number.Binary64
import SourceText.RawText

/-!
# JSON values

A JSON document as a value. Integers are exact and of any size, other numbers are binary
floating-point numbers, texts may have halves of pairs in them, and an object keeps the order of its
members and has each name once.
-/

namespace SourceText

/-- A JSON value. -/
inductive Json where
  | null
  | bool (value : Bool)
  | integer (value : Int)
  | number (value : Binary64)
  | string (value : RawText)
  | array (elements : List Json)
  | object (members : List (RawText × Json))
  deriving BEq, Repr, Inhabited

namespace Json

/-- A string value. -/
def ofString (s : String) : Json := .string (.ofString s)

/-- An object with the given members. -/
def ofMembers (members : List (String × Json)) : Json :=
  .object (members.map fun (name, value) => (RawText.ofString name, value))

/-- Puts a member into an object: in the place of the member of that name, else at the end. -/
def insertMember (name : RawText) (value : Json) : List (RawText × Json) → List (RawText × Json)
  | [] => [(name, value)]
  | (n, v) :: rest =>
    if n = name then (n, value) :: rest else (n, v) :: insertMember name value rest

/-- The members of an object, each name once: the last value of a name in the place of its first
appearance. -/
def mergeMembers (members : List (RawText × Json)) : List (RawText × Json) :=
  members.foldl (fun merged (name, value) => insertMember name value merged) []

/-- The member of an object with the given name. -/
def member? (name : String) : Json → Option Json
  | object members => (members.find? fun (n, _) => n = RawText.ofString name).map (·.2)
  | _ => none

end Json

end SourceText
