import SourceText.Json.Writer
import SourceText.Value.Misuse

/-!
# Values as JSON

The JSON value of a document's value. Dates, bytes and sets have none, and names of members are
texts, numbers and truth values.
-/

namespace SourceText.Value

/-- The name of a member that a key stands for. -/
def memberName : Value → Except Misuse RawText
  | string s => .ok (.ofString s)
  | halved s => .ok s
  | integer n => .ok (.ofString (integerText n))
  | number x => .ok (.ofString (x.text Json.numberStyle))
  | bool b => .ok (.ofString (if b then "true" else "false"))
  | null => .ok (.ofString "null")
  | key => .error (.notJsonName key.kind)

mutual

/-- The JSON value of a value. -/
def toJson : Value → Except Misuse Json
  | null => .ok .null
  | bool b => .ok (.bool b)
  | integer n => .ok (.integer n)
  | number x => .ok (.number x)
  | string s => .ok (.ofString s)
  | halved s => .ok (.string s)
  | list items => do .ok (.array (← toElements items))
  | mapping entries => do .ok (.object (← toMembers entries))
  | pair first second => do .ok (.array [← toJson first, ← toJson second])
  | value => .error (.notJson value.kind)

/-- The JSON values of the items of a list. -/
def toElements : List Value → Except Misuse (List Json)
  | [] => .ok []
  | item :: items => do
    let element ← toJson item
    .ok (element :: (← toElements items))

/-- The members of an object with the entries of a mapping. -/
def toMembers : List (Value × Value) → Except Misuse (List (RawText × Json))
  | [] => .ok []
  | (key, value) :: entries => do
    let name ← memberName key
    let member ← toJson value
    .ok ((name, member) :: (← toMembers entries))

end

end SourceText.Value
