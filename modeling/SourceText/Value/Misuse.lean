import SourceText.Value.Shown

/-!
# Values of the wrong kind

Settings and identifiers come from documents, where anything can stand. What a value of the wrong
kind cannot do is found out when it is used, and has a name of its own here.
-/

namespace SourceText

/-- What a value of the wrong kind was to do. -/
inductive Misuse where
  /-- A value of the kind has no operation of that name. -/
  | lacks (kind operation : String)
  /-- A value of the kind has no items. -/
  | noItems (kind : String)
  /-- A value of the kind is nothing to search in. -/
  | notSearchable (kind : String)
  /-- Bytes were searched for a text. -/
  | textInBytes
  /-- A value of the kind has no entries under names. -/
  | noEntries (kind : String)
  /-- Values of two kinds have no order. -/
  | unordered (relation left right : String)
  /-- A value of the kind is no text to find a pattern in. -/
  | noPatternText (kind : String)
  /-- A value of the kind has no place in a JSON text. -/
  | notJson (kind : String)
  /-- A value of the kind cannot name a member of a JSON object. -/
  | notJsonName (kind : String)
  /-- A text with halves of pairs in it has no bytes. -/
  | noBytes (text : RawText)
  deriving DecidableEq, Repr

namespace Misuse

/-- Whether an operation was missing; otherwise a value was of no use where it stood. -/
def isLack : Misuse → Bool
  | lacks .. => true
  | _ => false

/-- The words for a misuse. -/
def message : Misuse → String
  | lacks kind operation => s!"'{kind}' object has no attribute '{operation}'"
  | noItems kind => s!"'{kind}' object is not iterable"
  | notSearchable kind => s!"argument of type '{kind}' is not iterable"
  | textInBytes => "a bytes-like object is required, not 'str'"
  | noEntries "list" => "list indices must be integers or slices, not str"
  | noEntries "str" => "string indices must be integers, not 'str'"
  | noEntries kind => s!"'{kind}' object is not subscriptable"
  | unordered relation left right =>
    s!"'{relation}' not supported between instances of '{left}' and '{right}'"
  | noPatternText "bytes" => "cannot use a string pattern on a bytes-like object"
  | noPatternText kind => s!"expected string or bytes-like object, got '{kind}'"
  | notJson kind => s!"Object of type {kind} is not JSON serializable"
  | notJsonName kind => s!"keys must be str, int, float, bool or None, not {kind}"
  | noBytes text => text.encodeFault

end Misuse

namespace Value

/-- The items of a value: those of a list, the keys of a mapping, the characters of a text. -/
def items? : Value → Except Misuse (List Value)
  | list items => .ok items
  | string s => .ok (s.toList.map fun c => string (String.singleton c))
  | halved s => .ok (s.map fun point => ofRaw [point])
  | mapping entries => .ok (entries.map (·.1))
  | bytes bs => .ok (bs.map fun b => integer b.toNat)
  | set members => .ok members
  | pair first second => .ok [first, second]
  | value => .error (.noItems value.kind)

end Value

end SourceText
