import SourceText.Json.Value
import SourceText.Value.Timestamp

/-!
# Values of documents

What a settings document can hold: the values of JSON, and dates, bytes, sets and pairs besides.
The keys of a mapping are values themselves. Texts with halves of pairs in them are apart from all
others.
-/

namespace SourceText

/-- A value of a document. -/
inductive Value where
  | null
  | bool (value : Bool)
  | integer (value : Int)
  | number (value : Binary64)
  | string (value : String)
  /-- A text with halves of pairs in it. -/
  | halved (value : RawText)
  | list (items : List Value)
  | mapping (entries : List (Value × Value))
  | timestamp (value : Timestamp)
  | bytes (value : List UInt8)
  | pair (first second : Value)
  | set (members : List Value)
  deriving Repr, Inhabited, BEq

namespace Value

/-- The value of a text. -/
def ofRaw (raw : RawText) : Value :=
  match raw.text? with
  | some text => string (String.ofList text)
  | none => halved raw

mutual

/-- The value of a JSON value. -/
def ofJson : Json → Value
  | .null => null
  | .bool b => bool b
  | .integer n => integer n
  | .number x => number x
  | .string s => ofRaw s
  | .array elements => list (ofElements elements)
  | .object members => mapping (ofMembers members)

/-- The values of the elements of an array. -/
def ofElements : List Json → List Value
  | [] => []
  | element :: elements => ofJson element :: ofElements elements

/-- The entries of the members of an object. -/
def ofMembers : List (RawText × Json) → List (Value × Value)
  | [] => []
  | (name, value) :: members => (ofRaw name, ofJson value) :: ofMembers members

end

/-- The name of the kind of a value. -/
def kind : Value → String
  | null => "NoneType"
  | bool _ => "bool"
  | integer _ => "int"
  | number _ => "float"
  | string _ => "str"
  | halved _ => "str"
  | list _ => "list"
  | mapping _ => "dict"
  | timestamp t => if t.time.isSome then "datetime.datetime" else "datetime.date"
  | bytes _ => "bytes"
  | pair .. => "tuple"
  | set _ => "set"

/-- Whether a value counts as given: zeros and empty values do not. -/
def isGiven : Value → Bool
  | null => false
  | bool b => b
  | integer n => n != 0
  | number x => !x.isZero
  | string s => !s.isEmpty
  | halved s => !s.isEmpty
  | list items => !items.isEmpty
  | mapping entries => !entries.isEmpty
  | bytes bs => !bs.isEmpty
  | set members => !members.isEmpty
  | timestamp _ => true
  | pair .. => true

/-- Whether a value is a text. -/
def isText : Value → Bool
  | string _ => true
  | halved _ => true
  | _ => false

/-- The integer that a truth value or an integer stands for. -/
def toInt? : Value → Option Int
  | bool b => some (if b then 1 else 0)
  | integer n => some n
  | _ => none

/-- Whether two values are the same key of a mapping. Numbers of all kinds are compared as
numbers. -/
def sameKey (a b : Value) : Bool :=
  match a, b with
  | number x, number y => Binary64.same x y
  | number x, _ => b.toInt?.any fun n => Binary64.compareInt? x n == some .eq
  | _, number y => a.toInt?.any fun n => Binary64.compareInt? y n == some .eq
  | null, null => true
  | string s, string t => s == t
  | halved s, halved t => s == t
  | timestamp s, timestamp t => s == t
  | bytes s, bytes t => s == t
  | _, _ =>
    match a.toInt?, b.toInt? with
    | some m, some n => m == n
    | _, _ => false

/-- Whether a value can be the key of a mapping. -/
def isKey : Value → Bool
  | list _ => false
  | mapping _ => false
  | set _ => false
  | _ => true

/-- Puts an entry into a mapping: the value of a key that is there already is replaced. -/
def insertEntry (key value : Value) : List (Value × Value) → List (Value × Value)
  | [] => [(key, value)]
  | (k, v) :: rest =>
    if sameKey k key then (k, value) :: rest else (k, v) :: insertEntry key value rest

/-- The value of a key of a mapping. -/
def lookup? (key : String) (entries : List (Value × Value)) : Option Value :=
  (entries.find? fun (k, _) => sameKey k (string key)).map (·.2)

end Value

end SourceText
