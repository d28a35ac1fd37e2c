import SourceText.Text.Hexadecimal
import SourceText.Text

/-!
# Headers

A header holds characters of ASCII only. What cannot be written is reported by the first run of
other characters.
-/

namespace SourceText.Format

/-- The first run of characters that a header cannot hold, and its position. -/
structure HeaderError where
  position : Nat
  characters : Text
  deriving DecidableEq, Repr

/-- Whether a header can hold a character. -/
def isHeaderChar (c : Char) : Bool := c.toNat < 128

/-- Checks that a header can hold a text. -/
def checkHeader (text : Text) : Except HeaderError Unit :=
  let fit := text.takeWhile isHeaderChar
  match text.drop fit.length with
  | [] => .ok ()
  | rest => .error ⟨fit.length, rest.takeWhile fun c => !isHeaderChar c⟩

/-- A character by its number, with as many digits as it needs. -/
def codeText (c : Char) : Text :=
  let code := c.toNat
  if code < 0x100 then '\\' :: 'x' :: Text.hexDigits 2 code
  else if code < 0x10000 then '\\' :: 'u' :: Text.hexDigits 4 code
  else '\\' :: 'U' :: Text.hexDigits 8 code

/-- The words for a text that a header cannot hold. -/
def HeaderError.message (e : HeaderError) : String :=
  let reason := "ordinal not in range(128)"
  match e.characters with
  | [c] =>
    let code := String.ofList (codeText c)
    s!"'ascii' codec can't encode character '{code}' in position {e.position}: {reason}"
  | cs =>
    let last := e.position + cs.length - 1
    s!"'ascii' codec can't encode characters in position {e.position}-{last}: {reason}"

end SourceText.Format
