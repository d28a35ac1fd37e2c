/-!
# The digest SHA-256

Bytes are padded to whole blocks of sixteen words, and every block is mixed into a state of eight
words. The final state is the digest.
-/

namespace SourceText.Auth.Sha256

-- Powers are those of the core library whatever else is imported.
attribute [local instance (high)] instPowNat

/-- The number of bytes in a block. -/
def blockSize : Nat := 64

/-- Rotates a word to the right. -/
def rotate (n : UInt32) (w : UInt32) : UInt32 := (w >>> n) ||| (w <<< (32 - n))

/-- The words of the state between two blocks. -/
structure State where
  a : UInt32
  b : UInt32
  c : UInt32
  d : UInt32
  e : UInt32
  f : UInt32
  g : UInt32
  h : UInt32
  deriving DecidableEq, Repr

/-- The state before the first block: fractions of the square roots of the first eight primes. -/
def initial : State where
  a := 0x6a09e667
  b := 0xbb67ae85
  c := 0x3c6ef372
  d := 0xa54ff53a
  e := 0x510e527f
  f := 0x9b05688c
  g := 0x1f83d9ab
  h := 0x5be0cd19

/-- The words of the rounds: fractions of the cube roots of the first sixty-four primes. -/
def roundWords : List UInt32 :=
  [0x428a2f98, 0x71374491, 0xb5c0fbcf, 0xe9b5dba5, 0x3956c25b, 0x59f111f1, 0x923f82a4, 0xab1c5ed5,
    0xd807aa98, 0x12835b01, 0x243185be, 0x550c7dc3, 0x72be5d74, 0x80deb1fe, 0x9bdc06a7, 0xc19bf174,
    0xe49b69c1, 0xefbe4786, 0x0fc19dc6, 0x240ca1cc, 0x2de92c6f, 0x4a7484aa, 0x5cb0a9dc, 0x76f988da,
    0x983e5152, 0xa831c66d, 0xb00327c8, 0xbf597fc7, 0xc6e00bf3, 0xd5a79147, 0x06ca6351, 0x14292967,
    0x27b70a85, 0x2e1b2138, 0x4d2c6dfc, 0x53380d13, 0x650a7354, 0x766a0abb, 0x81c2c92e, 0x92722c85,
    0xa2bfe8a1, 0xa81a664b, 0xc24b8b70, 0xc76c51a3, 0xd192e819, 0xd6990624, 0xf40e3585, 0x106aa070,
    0x19a4c116, 0x1e376c08, 0x2748774c, 0x34b0bcb5, 0x391c0cb3, 0x4ed8aa4a, 0x5b9cca4f, 0x682e6ff3,
    0x748f82ee, 0x78a5636f, 0x84c87814, 0x8cc70208, 0x90befffa, 0xa4506ceb, 0xbef9a3f7, 0xc67178f2]

/-- The bytes of a number, `count` of them, the highest first. -/
def bigEndian (count n : Nat) : List UInt8 :=
  (List.range count).reverse.map fun place => UInt8.ofNat (n / 256 ^ place)

/-- What is put behind a message of `length` bytes: one bit, zeros up to a whole number of blocks,
and the count of bits in the message. -/
def padding (length : Nat) : List UInt8 :=
  0x80 :: List.replicate ((119 - length % blockSize) % blockSize) 0 ++ bigEndian 8 (8 * length)

/-- The words of bytes, four by four. -/
def wordsOf : List UInt8 → List UInt32
  | a :: b :: c :: d :: rest =>
    (a.toUInt32 <<< 24 ||| b.toUInt32 <<< 16 ||| c.toUInt32 <<< 8 ||| d.toUInt32) :: wordsOf rest
  | _ => []

/-- The next word of the schedule after the words before it, which come latest first. -/
def scheduled (before : List UInt32) : UInt32 :=
  let word (back : Nat) : UInt32 := before.getD (back - 1) 0
  let low := word 15
  let high := word 2
  word 16 + (rotate 7 low ^^^ rotate 18 low ^^^ (low >>> 3)) + word 7 +
    (rotate 17 high ^^^ rotate 19 high ^^^ (high >>> 10))

/-- Continues the schedule by `n` words. The words before come latest first. -/
def extend : Nat → List UInt32 → List UInt32
  | 0, before => before
  | n + 1, before => extend n (scheduled before :: before)

/-- The schedule of a block: its sixteen words and forty-eight that follow from them. -/
def schedule (block : List UInt32) : List UInt32 := (extend 48 block.reverse).reverse

/-- One round. -/
def round (s : State) (words : UInt32 × UInt32) : State :=
  let choice := (s.e &&& s.f) ^^^ (~~~s.e &&& s.g)
  let majority := (s.a &&& s.b) ^^^ (s.a &&& s.c) ^^^ (s.b &&& s.c)
  let first :=
    s.h + (rotate 6 s.e ^^^ rotate 11 s.e ^^^ rotate 25 s.e) + choice + words.1 + words.2
  let second := (rotate 2 s.a ^^^ rotate 13 s.a ^^^ rotate 22 s.a) + majority
  ⟨first + second, s.a, s.b, s.c, s.d + first, s.e, s.f, s.g⟩

/-- Mixes a block into the state. -/
def compress (s : State) (block : List UInt32) : State :=
  let t := (roundWords.zip (schedule block)).foldl round s
  ⟨s.a + t.a, s.b + t.b, s.c + t.c, s.d + t.d, s.e + t.e, s.f + t.f, s.g + t.g, s.h + t.h⟩

/-- Mixes the blocks of the words into the state, one after another. -/
def absorb (s : State) (words : List UInt32) : State :=
  if words.isEmpty then s else absorb (compress s (words.take 16)) (words.drop 16)
termination_by words.length
decreasing_by
  cases words with
  | nil => simp_all
  | cons w ws =>
    simp only [List.length_drop, List.length_cons]
    omega

/-- The words of a state. -/
def State.words (s : State) : List UInt32 := [s.a, s.b, s.c, s.d, s.e, s.f, s.g, s.h]

/-- The digest of a message. -/
def digest (message : List UInt8) : List UInt8 :=
  (absorb initial (wordsOf (message ++ padding message.length))).words.flatMap fun w =>
    bigEndian 4 w.toNat

end SourceText.Auth.Sha256
