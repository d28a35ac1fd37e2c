import SourceText.Text
import SourceText.Text.Hexadecimal

/-!
# Texts with halves of pairs

Some characters are written as a pair of code units. Either half of such a pair is a code point of
its own, and an escape or a reader of bytes that is not strict can leave it in a text without the
other one. Such a half is no character and no encoding takes it, but it is carried along like one.
-/

namespace SourceText

/-- A code point: a character, or half of a pair, counted from the first one. -/
inductive Point where
  | char (c : Char)
  | half (offset : Fin 0x800)
  deriving DecidableEq, Repr

/-- A text in which halves of pairs may stand. -/
abbrev RawText := List Point

namespace Point

/-- The code point of a number; what is no number of a code point counts as zero. -/
def ofCode (code : Nat) : Point :=
  if h : 0xD800 ≤ code ∧ code < 0xE000 then .half ⟨code - 0xD800, by omega⟩
  else .char (Char.ofNat code)

/-- The number of a code point. -/
def code : Point → Nat
  | char c => c.toNat
  | half offset => 0xD800 + offset

/-- Whether a code point is a character. -/
def isChar : Point → Bool
  | char _ => true
  | half _ => false

/-- The character that a code point is. -/
def char? : Point → Option Char
  | char c => some c
  | half _ => none

/-- The character that stands for a code point where only characters can stand. -/
def shown : Point → Char
  | char c => c
  | half _ => '\ufffd'

/-- Whether a code point separates words; a half of a pair does not. -/
def isBlank : Point → Bool
  | char c => SourceText.isBlank c
  | half _ => false

end Point

/-- A text of characters as one in which halves of pairs may stand. -/
def Text.raw (text : Text) : RawText := text.map .char

namespace RawText

/-- The code points of a string. -/
def ofString (s : String) : RawText := Text.raw s.toList

/-- The characters of a text, without the halves of pairs in it. -/
def chars (raw : RawText) : Text := raw.filterMap Point.char?

/-- The characters of a text that has no half of a pair in it. -/
def text? (raw : RawText) : Option Text := if raw.all Point.isChar then some raw.chars else none

/-- The characters before the first half of a pair. -/
def leading (raw : RawText) : Text := chars (raw.takeWhile Point.isChar)

/-- The text from its first half of a pair on. -/
def afterLeading (raw : RawText) : RawText := raw.dropWhile Point.isChar

/-- The characters of a text, with a replacement for every half of a pair. -/
def shown (raw : RawText) : Text := raw.map Point.shown

/-- Whether every code point is blank; so is the empty text. -/
def isAllBlank (raw : RawText) : Bool := raw.all Point.isBlank

/-- The words for a text that has no bytes, because of the first halves of pairs in it. -/
def encodeFault (raw : RawText) : String :=
  let position := raw.findIdx (!·.isChar)
  let halves := (raw.drop position).takeWhile (!·.isChar)
  let place :=
    match halves with
    | [half] =>
      "character '\\u" ++ String.ofList (Text.hexDigits 4 half.code) ++ s!"' in position {position}"
    | _ => s!"characters in position {position}-{position + halves.length - 1}"
  s!"'utf-8' codec can't encode {place}: surrogates not allowed"

end RawText

namespace Text

@[simp] theorem raw_nil : raw [] = [] := rfl

@[simp] theorem raw_cons (c : Char) (text : Text) : raw (c :: text) = .char c :: raw text := rfl

@[simp] theorem raw_append (a b : Text) : raw (a ++ b) = raw a ++ raw b := List.map_append

@[simp] theorem length_raw (text : Text) : (raw text).length = text.length := List.length_map _

end Text

end SourceText
