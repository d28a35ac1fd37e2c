import SourceText.Value.Basic

/-!
# Equality of values

Values are equal when they say the same: numbers of all kinds are compared as numbers, and the order
of the entries of a mapping does not matter.
-/

namespace SourceText.Value

mutual

/-- Whether two values say the same. -/
def isEqual : Value → Value → Bool
  | list items, other =>
    match other with
    | list others => itemsEqual items others
    | _ => false
  | mapping entries, other =>
    match other with
    | mapping others => entries.length == others.length && entriesEqual entries others
    | _ => false
  | set members, other =>
    match other with
    | set others => members.length == others.length && members.all fun m => others.any (sameKey m)
    | _ => false
  | pair first second, other =>
    match other with
    | pair first' second' => isEqual first first' && isEqual second second'
    | _ => false
  | value, other => sameKey value other

/-- Whether the items of two lists are equal, one by one. -/
def itemsEqual : List Value → List Value → Bool
  | [], others => others.isEmpty
  | item :: items, others =>
    match others with
    | [] => false
    | other :: others => isEqual item other && itemsEqual items others

/-- Whether entries have equal ones of the same keys among others. -/
def entriesEqual : List (Value × Value) → List (Value × Value) → Bool
  | [], _ => true
  | (key, value) :: entries, others =>
    (match others.find? fun (k, _) => sameKey k key with
      | some (_, other) => isEqual value other
      | none => false) && entriesEqual entries others

end

end SourceText.Value
