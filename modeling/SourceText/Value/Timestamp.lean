import SourceText.Number.Decimal

/-!
# Dates and times

Calendar dates, with a time of day and an offset from universal time if they are given.
-/

namespace SourceText

/-- A time of day. `offset` is the distance from universal time in minutes. -/
structure TimeOfDay where
  hour : Nat
  minute : Nat
  second : Nat
  microsecond : Nat := 0
  offset : Option Int := none
  deriving DecidableEq, Repr

/-- A date, or a date with a time. -/
structure Timestamp where
  year : Nat
  month : Nat
  day : Nat
  time : Option TimeOfDay := none
  deriving DecidableEq, Repr

namespace Timestamp

/-- A span of minutes, shown in whole days and the seconds beyond them. -/
def shownSpan (minutes : Int) : String :=
  let days := Int.fdiv minutes 1440
  let seconds := (minutes - 1440 * days) * 60
  let shownDays := if days = 0 then [] else ["days=" ++ integerText days]
  let shownSeconds := if seconds = 0 then [] else ["seconds=" ++ integerText seconds]
  "datetime.timedelta(" ++ ", ".intercalate (shownDays ++ shownSeconds) ++ ")"

/-- Why numbers make no timestamp. -/
inductive Fault where
  | year (given : Nat)
  | month
  | day
  | hour
  | minute
  | second
  /-- An offset of so many minutes, which is a day or more. -/
  | offset (minutes : Int)
  deriving DecidableEq, Repr

/-- The words for numbers that make no timestamp. -/
def Fault.message : Fault → String
  | year given => s!"year {given} is out of range"
  | month => "month must be in 1..12"
  | day => "day is out of range for month"
  | hour => "hour must be in 0..23"
  | minute => "minute must be in 0..59"
  | second => "second must be in 0..59"
  | offset minutes => "offset must be a timedelta strictly between -timedelta(hours=24) and " ++
      "timedelta(hours=24), not " ++ shownSpan minutes ++ "."

/-- Whether a year has a leap day. -/
def isLeapYear (year : Nat) : Bool := year % 4 == 0 && (year % 100 != 0 || year % 400 == 0)

/-- The number of days of a month. -/
def daysInMonth (year month : Nat) : Nat :=
  if month = 2 then if isLeapYear year then 29 else 28
  else if month = 4 || month = 6 || month = 9 || month = 11 then 30
  else 31

/-- Checks the numbers of a timestamp, the offset first and then from the year down. -/
def check (t : Timestamp) : Except Fault Timestamp :=
  let offset := (t.time.bind (·.offset)).getD 0
  if 1440 ≤ offset.natAbs then .error (.offset offset)
  else if t.year = 0 then .error (.year t.year)
  else if t.month = 0 || 12 < t.month then .error .month
  else if t.day = 0 || daysInMonth t.year t.month < t.day then .error .day
  else if t.time.any fun c => 23 < c.hour then .error .hour
  else if t.time.any fun c => 59 < c.minute then .error .minute
  else if t.time.any fun c => 59 < c.second then .error .second
  else .ok t

/-- A number with at least `width` digits. -/
def padded (width n : Nat) : String :=
  let digits := Nat.repr n
  String.ofList (List.replicate (width - digits.length) '0') ++ digits

/-- An offset from universal time. -/
def offsetText (minutes : Int) : String :=
  (if minutes < 0 then "-" else "+") ++ padded 2 (minutes.natAbs / 60) ++ ":" ++
    padded 2 (minutes.natAbs % 60)

/-- The time of day, with a fraction of the second and an offset if there are any. -/
def timeText (c : TimeOfDay) : String :=
  padded 2 c.hour ++ ":" ++ padded 2 c.minute ++ ":" ++ padded 2 c.second ++
    (if c.microsecond = 0 then "" else "." ++ padded 6 c.microsecond) ++
    (c.offset.map offsetText).getD ""

/-- The date alone. -/
def dateText (t : Timestamp) : String :=
  padded 4 t.year ++ "-" ++ padded 2 t.month ++ "-" ++ padded 2 t.day

/-- The standard text of a timestamp, with `separator` between date and time. -/
def isoText (separator : String) (t : Timestamp) : String :=
  t.dateText ++ (t.time.map fun c => separator ++ timeText c).getD ""

end Timestamp

end SourceText
