import SourceText.Number.Reader
import SourceText.Value.Shown
import SourceText.Yaml.Reader
import SourceText.Yaml.Writer

/-!
# Libraries for YAML

Settings come from YAML documents and go into them by way of a library. What it makes of a text, and
the text that it has for a value, are up to it.
-/

namespace SourceText

/-- Why nothing is made of the text of a document. -/
inductive LoadFault where
  /-- The text is no document. -/
  | malformed
  /-- A word of the document stands for no value, for a reason in words. -/
  | value (reason : String)
  /-- The reader goes wrong in a way of its own: the name of the error, and its words. -/
  | crash (name reason : String)
  deriving DecidableEq, Repr

namespace Yaml

/-- What becomes of those who read a document with a fault in it. -/
def Fault.asLoadFault : Fault → LoadFault
  | number reason => .value reason
  | noDigits => .crash "IndexError" "string index out of range"
  | truthValue => .crash "KeyError" ""
  | date => .crash "AttributeError" ""
  | _ => .malformed

/-- A library for YAML documents. -/
structure Library where
  read : Text → Except LoadFault Value
  /-- The text of a value, or why it cannot be written. -/
  write : Value → Except String Text

/-- The library of the reader and the writer that are given here. -/
def standard : Library where
  read text := (read text).mapError Fault.asLoadFault
  write value := if value.isWritable then .ok (write value) else .error Number.tooLongToWrite

end Yaml

end SourceText
