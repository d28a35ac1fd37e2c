import SourceText.Number.Reader
import SourceText.Text.Quoted
import SourceText.Value.Basic

/-!
# Values in messages

How a value of a document is shown inside a message, and how it is written where a text is expected:
the two differ for texts and timestamps alone.
-/

namespace SourceText.Value

/-- One byte inside quotes. -/
def shownByte (quote : Char) (b : UInt8) : Text :=
  let c := Char.ofNat b.toNat
  if c = quote || c = '\\' then ['\\', c]
  else if c = '\t' then ['\\', 't']
  else if c = '\n' then ['\\', 'n']
  else if c = '\r' then ['\\', 'r']
  else if 32 ≤ b.toNat && b.toNat < 127 then [c]
  else '\\' :: 'x' :: Text.hexDigits 2 b.toNat

/-- Bytes in quotes. -/
def shownBytes (bs : List UInt8) : String :=
  let quote := Text.quoteFor (bs.map fun b => Char.ofNat b.toNat)
  String.ofList ('b' :: quote :: bs.flatMap (shownByte quote) ++ [quote])

/-- An offset from universal time. -/
def shownOffset (minutes : Int) : String :=
  if minutes = 0 then "datetime.timezone.utc"
  else s!"datetime.timezone({Timestamp.shownSpan minutes})"

/-- A timestamp by its numbers. -/
def shownTimestamp (t : Timestamp) : String :=
  let date := s!"{t.year}, {t.month}, {t.day}"
  match t.time with
  | none => s!"datetime.date({date})"
  | some c =>
    let seconds :=
      if c.microsecond != 0 then s!", {c.second}, {c.microsecond}"
      else if c.second != 0 then s!", {c.second}"
      else ""
    let zone := (c.offset.map fun o => ", tzinfo=" ++ shownOffset o).getD ""
    s!"datetime.datetime({date}, {c.hour}, {c.minute}{seconds}{zone})"

mutual

/-- A value as it is shown inside a message. -/
def shown : Value → String
  | null => "None"
  | bool b => if b then "True" else "False"
  | integer n => integerText n
  | number x => x.text Binary64.plainStyle
  | string s => quotedString s
  | halved s => String.ofList (Text.quotedRaw s)
  | list items => "[" ++ ", ".intercalate (shownItems items) ++ "]"
  | mapping entries => "\x7b" ++ ", ".intercalate (shownEntries entries) ++ "\x7d"
  | timestamp t => shownTimestamp t
  | bytes bs => shownBytes bs
  | pair a b => "(" ++ shown a ++ ", " ++ shown b ++ ")"
  | set members =>
    if members.isEmpty then "set()"
    else "\x7b" ++ ", ".intercalate (shownItems members) ++ "\x7d"

/-- The items of a list as they are shown. -/
def shownItems : List Value → List String
  | [] => []
  | item :: items => shown item :: shownItems items

/-- The entries of a mapping as they are shown. -/
def shownEntries : List (Value × Value) → List String
  | [] => []
  | (key, value) :: entries => (shown key ++ ": " ++ shown value) :: shownEntries entries

end

/-- A value where a text is expected. -/
def toText : Value → String
  | string s => s
  | halved s => String.ofList s.shown
  | timestamp t => t.isoText " "
  | value => shown value

/-! ### Values that cannot be shown

Integers have a largest count of digits where they are written as well, wherever in a value they
stand. Longer ones can be read, since in a base that is a power of two there may be any number of
digits.
-/

-- Powers are those of the core library whatever else is imported.
attribute [local instance (high)] instPowNat

mutual

/-- Whether a value can be shown and written. -/
def isWritable : Value → Bool
  | null => true
  | bool _ => true
  | integer n => n.natAbs < 10 ^ Number.maxDigits
  | number _ => true
  | string _ => true
  | halved _ => true
  | list items => areWritable items
  | mapping entries => areWritableEntries entries
  | timestamp _ => true
  | bytes _ => true
  | pair a b => isWritable a && isWritable b
  | set members => areWritable members

/-- Whether the items of a list can be shown. -/
def areWritable : List Value → Bool
  | [] => true
  | item :: items => isWritable item && areWritable items

/-- Whether the entries of a mapping can be shown. -/
def areWritableEntries : List (Value × Value) → Bool
  | [] => true
  | (key, value) :: entries => isWritable key && isWritable value && areWritableEntries entries

end

end SourceText.Value
