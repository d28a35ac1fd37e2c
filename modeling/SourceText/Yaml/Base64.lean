import SourceText.Text

/-!
# Bytes as text of 64 characters

Every four characters stand for three bytes. Characters outside the alphabet are passed over, and
the text ends where equals signs fill up a group.
-/

namespace SourceText.Yaml

/-- The six bits that a character stands for. -/
def sextet? (c : Char) : Option Nat :=
  if c.isUpper then some (c.toNat - 65)
  else if c.isLower then some (c.toNat - 71)
  else if c.isDigit then some (c.toNat + 4)
  else if c = '+' then some 62
  else if c = '/' then some 63
  else none

/-- The bytes that a text stands for; `none` when a group is not filled up. `place` is the number of
characters of the group that have come, `bits` are the bits of them that are in no byte yet, and
`pads` is the number of equals signs that have just come. -/
def decodeBase64From (place bits pads : Nat) : Text → Option (List UInt8)
  | [] => if place = 0 then some [] else none
  | c :: rest =>
    if c = '=' then
      if 2 ≤ place then
        if 4 ≤ place + pads + 1 then some [] else decodeBase64From place bits (pads + 1) rest
      else decodeBase64From place bits pads rest
    else
      match sextet? c with
      | none => decodeBase64From place bits pads rest
      | some six =>
        match place with
        | 0 => decodeBase64From 1 six 0 rest
        | 1 =>
          (decodeBase64From 2 (six % 16) 0 rest).map (UInt8.ofNat (bits * 4 + six / 16) :: ·)
        | 2 =>
          (decodeBase64From 3 (six % 4) 0 rest).map (UInt8.ofNat (bits * 16 + six / 4) :: ·)
        | _ => (decodeBase64From 0 0 0 rest).map (UInt8.ofNat (bits * 64 + six) :: ·)

/-- The bytes that a text stands for. -/
def decodeBase64 (text : Text) : Option (List UInt8) := decodeBase64From 0 0 0 text

end SourceText.Yaml
