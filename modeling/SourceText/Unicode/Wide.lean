import SourceText.RawText
import SourceText.Unicode.Utf8

/-!
# Bytes with halves of pairs

Readers of bytes that are not strict let halves of pairs pass that stand alone. Text can be in units
of eight, sixteen or thirty-two bits, the wider ones with the high or the low byte first.
-/

namespace SourceText.Unicode

/-! ### Units of eight bits -/

/-- A half of a pair, in the three bytes that its number would take, and the bytes after it. -/
def decodeHalf? : List UInt8 → Option (Point × List UInt8)
  | first :: second :: third :: rest =>
    if first = 0xED && 0xA0 ≤ second.toNat && isContinuation second && isContinuation third then
      let code := 0xD000 + 64 * continuationBits second + continuationBits third
      some (.ofCode code, rest)
    else none
  | _ => none

/-- The code points that bytes stand for, put behind those of `before`, which come latest first.
`position` is the number of bytes read; `fuel` bounds the code points. -/
def decodePassingFrom : (fuel position : Nat) → (before : RawText) → List UInt8 →
    Except DecodeError RawText
  | _, _, before, [] => .ok before.reverse
  | 0, _, before, _ => .ok before.reverse
  | fuel + 1, position, before, first :: rest =>
    match decodeHalf? (first :: rest) with
    | some (half, after) => decodePassingFrom fuel (position + 3) (half :: before) after
    | none =>
      match decodeChar position first rest with
      | .error e => .error e
      | .ok (c, n, after) => decodePassingFrom fuel (position + n + 1) (.char c :: before) after

/-- The text that bytes stand for, halves of pairs included. -/
def decodePassing (bytes : List UInt8) : Except DecodeError RawText :=
  decodePassingFrom bytes.length 0 [] bytes

/-! ### Wider units -/

/-- Which byte of a unit comes first. -/
inductive ByteOrder where
  | highFirst
  | lowFirst
  deriving DecidableEq, Repr

/-- The end of an encoding's name. -/
def ByteOrder.name : ByteOrder → String
  | highFirst => "be"
  | lowFirst => "le"

/-- The number in the bytes of a unit. -/
def unitValue (order : ByteOrder) (bytes : List UInt8) : Nat :=
  let highFirst := match order with | .highFirst => bytes | .lowFirst => bytes.reverse
  highFirst.foldl (fun n b => 256 * n + b.toNat) 0

/-- The code points of sixteen-bit units. A pair of units stands for one character. -/
def pointsOfUnits : List Nat → RawText
  | [] => []
  | high :: low :: rest =>
    if 0xD800 ≤ high && high < 0xDC00 && 0xDC00 ≤ low && low < 0xE000 then
      .char (Char.ofNat (0x10000 + 0x400 * (high - 0xD800) + (low - 0xDC00))) :: pointsOfUnits rest
    else .ofCode high :: pointsOfUnits (low :: rest)
  | [unit] => [.ofCode unit]

/-- The sixteen-bit units of bytes; `position` is the number of bytes before them. -/
def units16 (order : ByteOrder) (position : Nat) : List UInt8 → Except DecodeError (List Nat)
  | [] => .ok []
  | [b] => .error ⟨"utf-16-" ++ order.name, b, position, 1, .truncated⟩
  | a :: b :: rest => do
    let units ← units16 order (position + 2) rest
    .ok (unitValue order [a, b] :: units)

/-- The text of sixteen-bit units that start after `position` bytes. -/
def decodeUtf16 (order : ByteOrder) (position : Nat) (bytes : List UInt8) :
    Except DecodeError RawText := do
  .ok (pointsOfUnits (← units16 order position bytes))

/-- The text of thirty-two-bit units that start after `position` bytes. -/
def decodeUtf32 (order : ByteOrder) (position : Nat) : List UInt8 → Except DecodeError RawText
  | [] => .ok []
  | a :: b :: c :: d :: rest =>
    let code := unitValue order [a, b, c, d]
    if 0x110000 ≤ code then .error ⟨"utf-32-" ++ order.name, a, position, 4, .outOfRange⟩
    else do
      let text ← decodeUtf32 order (position + 4) rest
      .ok (.ofCode code :: text)
  | a :: rest => .error ⟨"utf-32-" ++ order.name, a, position, rest.length + 1, .truncated⟩

end SourceText.Unicode
