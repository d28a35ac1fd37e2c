import SourceText.Text.Hexadecimal

/-!
# Text as bytes

The encoding of text as bytes of eight bits, and its reading, which says where bytes stand for no
text and why.
-/

namespace SourceText.Unicode

-- Powers are those of the core library whatever else is imported.
attribute [local instance (high)] instPowNat

/-- Why bytes stand for no text. -/
inductive DecodeReason where
  | invalidStart
  | invalidContinuation
  | unexpectedEnd
  | truncated
  | outOfRange
  deriving DecidableEq, Repr

/-- The words for such a reason. -/
def DecodeReason.message : DecodeReason → String
  | invalidStart => "invalid start byte"
  | invalidContinuation => "invalid continuation byte"
  | unexpectedEnd => "unexpected end of data"
  | truncated => "truncated data"
  | outOfRange => "code point not in range(0x110000)"

/-- Bytes that stand for no text: the first of them, its position, how many there are, and why. -/
structure DecodeError where
  encoding : String
  first : UInt8
  position : Nat
  count : Nat
  reason : DecodeReason
  deriving DecidableEq, Repr

/-- The words for such bytes. -/
def DecodeError.message (e : DecodeError) : String :=
  let place :=
    if e.count = 1 then
      "byte 0x" ++ String.ofList (Text.hexDigits 2 e.first.toNat) ++ s!" in position {e.position}"
    else s!"bytes in position {e.position}-{e.position + e.count - 1}"
  s!"'{e.encoding}' codec can't decode {place}: {e.reason.message}"

/-- Whether a byte continues a character. -/
def isContinuation (b : UInt8) : Bool := 0x80 ≤ b.toNat && b.toNat < 0xC0

/-- The six bits that a continuation adds. -/
def continuationBits (b : UInt8) : Nat := b.toNat % 64

/-- Whether a second byte can come after a first byte: not all of them make the shortest form of a
character. -/
def fitsSecond (first second : UInt8) : Bool :=
  isContinuation second &&
    (if first = 0xE0 then 0xA0 ≤ second.toNat
    else if first = 0xED then second.toNat < 0xA0
    else if first = 0xF0 then 0x90 ≤ second.toNat
    else if first = 0xF4 then second.toNat < 0x90
    else true)

/-- How many continuations come after a first byte; `none` for a byte that starts no character. -/
def continuations? (first : UInt8) : Option Nat :=
  let b := first.toNat
  if b < 0x80 then some 0
  else if b < 0xC2 then none
  else if b < 0xE0 then some 1
  else if b < 0xF0 then some 2
  else if b < 0xF5 then some 3
  else none

/-- The bits of a first byte, apart from those that tell the number of continuations. -/
def leadBits (first : UInt8) : Nat → Nat
  | 0 => first.toNat
  | 1 => first.toNat % 32
  | 2 => first.toNat % 16
  | _ => first.toNat % 8

/-- Reads `n` further bytes of a character whose bits so far are `code`. Failing, it tells how many
bytes were in order and whether the bytes broke off. -/
def readContinuations (first : UInt8) (second : Bool) :
    (n code read : Nat) → List UInt8 → Except (Nat × Bool) (Nat × List UInt8)
  | 0, code, _, rest => .ok (code, rest)
  | _ + 1, _, read, [] => .error (read, true)
  | n + 1, code, read, b :: rest =>
    if if second then fitsSecond first b else isContinuation b then
      readContinuations first false n (64 * code + continuationBits b) (read + 1) rest
    else .error (read, false)

/-- The character at the start of bytes, of which `first` is the first one, how many bytes it takes
besides, and the bytes after it. `position` is the number of bytes before them. -/
def decodeChar (position : Nat) (first : UInt8) (rest : List UInt8) :
    Except DecodeError (Char × Nat × List UInt8) :=
  match continuations? first with
  | none => .error ⟨"utf-8", first, position, 1, .invalidStart⟩
  | some n =>
    match readContinuations first true n (leadBits first n) 1 rest with
    | .ok (code, after) => .ok (Char.ofNat code, n, after)
    | .error (read, true) => .error ⟨"utf-8", first, position, read, .unexpectedEnd⟩
    | .error (read, false) => .error ⟨"utf-8", first, position, read, .invalidContinuation⟩

/-- The characters that bytes stand for, put behind those of `before`, which come latest first.
`position` is the number of bytes read; `fuel` bounds the characters. -/
def decodeUtf8From : (fuel position : Nat) → (before : List Char) → List UInt8 →
    Except DecodeError (List Char)
  | _, _, before, [] => .ok before.reverse
  | 0, _, before, _ => .ok before.reverse
  | fuel + 1, position, before, first :: rest =>
    match decodeChar position first rest with
    | .error e => .error e
    | .ok (c, n, after) => decodeUtf8From fuel (position + n + 1) (c :: before) after

/-- The text that bytes stand for. -/
def decodeUtf8 (bytes : List UInt8) : Except DecodeError (List Char) :=
  decodeUtf8From bytes.length 0 [] bytes

/-- The characters that bytes stand for, with a replacement for every run of bytes that stands for
none. `fuel` bounds the characters. -/
def decodeLossyFrom : (fuel : Nat) → List UInt8 → List Char
  | _, [] => []
  | 0, _ => []
  | fuel + 1, first :: rest =>
    match continuations? first with
    | none => '\ufffd' :: decodeLossyFrom fuel rest
    | some n =>
      match readContinuations first true n (leadBits first n) 1 rest with
      | .ok (code, after) => Char.ofNat code :: decodeLossyFrom fuel after
      | .error (read, _) => '\ufffd' :: decodeLossyFrom fuel (rest.drop (read - 1))

/-- The text that bytes stand for, as far as they stand for any. -/
def decodeLossy (bytes : List UInt8) : List Char := decodeLossyFrom bytes.length bytes

/-- The bytes of a character. -/
def encodeChar (c : Char) : List UInt8 :=
  let code := c.toNat
  let tail (shift : Nat) : UInt8 := UInt8.ofNat (0x80 + code / 2 ^ shift % 64)
  if code < 0x80 then [UInt8.ofNat code]
  else if code < 0x800 then [UInt8.ofNat (0xC0 + code / 64), tail 0]
  else if code < 0x10000 then [UInt8.ofNat (0xE0 + code / 4096), tail 6, tail 0]
  else [UInt8.ofNat (0xF0 + code / 262144), tail 12, tail 6, tail 0]

/-- The bytes of a text. -/
def encodeUtf8 (text : List Char) : List UInt8 := text.flatMap encodeChar

theorem encodeUtf8_append (a b : List Char) :
    encodeUtf8 (a ++ b) = encodeUtf8 a ++ encodeUtf8 b := by
  simp [encodeUtf8]

end SourceText.Unicode
