import SourceText.RawText
import SourceText.Text.Hexadecimal
import SourceText.Unicode.Printable

/-!
# Quoted texts

How a text is shown inside a message: in single quotes, or in double quotes when it holds a single
quote and no double one. The quote, the backslash and characters that do not show are escaped.
-/

namespace SourceText.Text

/-- The quote that a text is shown in. -/
def quoteFor (text : Text) : Char :=
  if text.any (· == '\'') && !text.any (· == '"') then '"' else '\''

/-- One character of a quoted text. -/
def quoteChar (quote c : Char) : Text :=
  if c = quote || c = '\\' then ['\\', c]
  else if c = '\n' then ['\\', 'n']
  else if c = '\r' then ['\\', 'r']
  else if c = '\t' then ['\\', 't']
  else if Unicode.isPrintable c then [c]
  else if c.toNat < 0x100 then '\\' :: 'x' :: hexDigits 2 c.toNat
  else if c.toNat < 0x10000 then '\\' :: 'u' :: hexDigits 4 c.toNat
  else '\\' :: 'U' :: hexDigits 8 c.toNat

/-- A text as it is shown inside a message. -/
def quoted (text : Text) : Text :=
  let quote := quoteFor text
  quote :: text.flatMap (quoteChar quote) ++ [quote]

/-- One code point of a quoted text. -/
def quotePoint (quote : Char) (point : Point) : Text :=
  match point with
  | .char c => quoteChar quote c
  | .half _ => '\\' :: 'u' :: hexDigits 4 point.code

/-- A text as it is shown inside a message, halves of pairs included. -/
def quotedRaw (raw : RawText) : Text :=
  let quote := quoteFor raw.chars
  quote :: raw.flatMap (quotePoint quote) ++ [quote]

end SourceText.Text

namespace SourceText

/-- A string as it is shown inside a message. -/
def quotedString (s : String) : String := String.ofList (Text.quoted s.toList)

end SourceText
