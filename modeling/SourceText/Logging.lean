import SourceText.Record
import SourceText.Settings.Basic
import SourceText.Text.Quoted
import SourceText.Unicode.Case
import SourceText.Unicode.Digit
import SourceText.Unicode.Word
import SourceText.Value.Misuse

/-!
# Logging

The level from which messages are shown and the format in which they are shown, as the settings give
them. A level that is not known is replaced, with a warning; a format has to have a place for a part
of the message.
-/

namespace SourceText.Logging

/-- The numbers of the levels that have names. -/
def levels : List (String × Nat) :=
  [("CRITICAL", 50), ("FATAL", 50), ("ERROR", 40), ("WARNING", 30), ("WARN", 30), ("INFO", 20),
    ("DEBUG", 10), ("NOTSET", 0)]

/-- The level that replaces one that is not known. -/
def defaultLevel : Nat := 20

/-- The format that replaces an empty one. -/
def defaultFormat : String := "%(message)s"

/-- What is shown, and how. -/
structure Configuration where
  level : Nat
  format : String
  deriving DecidableEq, Repr

/-- Why logging cannot be configured. -/
inductive Fault where
  | format (given : String)
  | misuse (error : Misuse)
  deriving DecidableEq, Repr

/-- The words for logging that cannot be configured. -/
def Fault.message : Fault → String
  | format given => s!"Invalid format '{given}' for '%' style"
  | misuse e => e.message

/-- The level of a value: its name, in any case. -/
def levelOf (value : Value) : Recorded (Except Fault Nat) :=
  let unknown : Recorded (Except Fault Nat) := do
    .log .warning s!"Unknown log level {value.shown}, using INFO"
    pure (.ok defaultLevel)
  match value with
  | .string name =>
    match levels.lookup (String.ofList (Unicode.upper name.toList)) with
    | some level => pure (.ok level)
    | none => unknown
  | .halved _ => unknown
  | .bytes _ => unknown
  | _ => pure (.error (.misuse (.lacks value.kind "upper")))

/-- The digits or the asterisk of a width, which may be missing. -/
def skipWidth : Text → Text
  | '*' :: rest => rest
  | text => text.dropWhile Unicode.isDigit

/-- Whether the text starts with flags, a width, a precision and a letter for the type. -/
def startsWithType (text : Text) : Bool :=
  let wide := skipWidth (text.dropWhile ("#0+ -".toList.contains ·))
  let precise :=
    match wide with
    | '.' :: '*' :: rest => rest
    | '.' :: c :: rest => if Unicode.isDigit c then rest.dropWhile Unicode.isDigit else wide
    | _ => wide
  match precise with
  | c :: _ => "diouxefgcrsa%".toList.contains c.toLower
  | [] => false

/-- Whether the text starts with a part of the message: its name in parentheses behind a percent
sign, and a type. -/
def startsWithPart : Text → Bool
  | '%' :: '(' :: text =>
    match text.dropWhile Unicode.isWord with
    | ')' :: rest => text.head?.any Unicode.isWord && startsWithType rest
    | _ => false
  | _ => false

/-- Whether a format has a place for a part of the message. -/
def hasPart : Text → Bool
  | [] => false
  | c :: rest => startsWithPart (c :: rest) || hasPart rest

/-- The format of a value. -/
def formatOf (value : Value) : Except Fault String :=
  if !value.isGiven then .ok defaultFormat
  else
    match value with
    | .string format => if hasPart format.toList then .ok format else .error (.format format)
    | .halved raw =>
      let format := String.ofList raw.shown
      if hasPart raw.shown then .ok format else .error (.format format)
    | _ => .error (.misuse (.noPatternText value.kind))

/-- The configuration that a level and a format give. -/
def configure (level format : Value) : Recorded (Except Fault Configuration) :=
  (levelOf level).andThen fun level =>
    pure ((formatOf format).map fun format => ⟨level, format⟩)

/-- The configuration that the settings give. -/
def ofSettings (s : Settings) : Recorded (Except Fault Configuration) :=
  configure (s.value .logLevel) (s.value .logFormat)

end SourceText.Logging
