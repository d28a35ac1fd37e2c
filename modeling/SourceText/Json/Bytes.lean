import SourceText.Json.Reader
import SourceText.Unicode.Wide

/-!
# JSON in bytes

The bytes of a JSON document say themselves how they are encoded: by a mark at their start, or by
the zero bytes that the first characters, which are always of ASCII, leave in wide units.
-/

namespace SourceText.Json

/-- Why bytes are no JSON document. -/
inductive BytesError where
  | encoding (error : Unicode.DecodeError)
  | document (error : ReadError)
  deriving DecidableEq, Repr

/-- The words for such a reason. -/
def BytesError.message : BytesError → String
  | encoding e => e.message
  | document e => e.message

/-- The text of bytes that may start with a mark of their encoding. -/
def decodeMarked? (bytes : List UInt8) : Option (Except Unicode.DecodeError RawText) :=
  match bytes with
  | 0x00 :: 0x00 :: 0xFE :: 0xFF :: rest => some (Unicode.decodeUtf32 .highFirst 4 rest)
  | 0xFF :: 0xFE :: 0x00 :: 0x00 :: rest => some (Unicode.decodeUtf32 .lowFirst 4 rest)
  | 0xFE :: 0xFF :: rest => some (Unicode.decodeUtf16 .highFirst 2 rest)
  | 0xFF :: 0xFE :: rest => some (Unicode.decodeUtf16 .lowFirst 2 rest)
  | 0xEF :: 0xBB :: 0xBF :: rest => some (Unicode.decodePassing rest)
  | _ => none

/-- The text of bytes without a mark. -/
def decodeUnmarked (bytes : List UInt8) : Except Unicode.DecodeError RawText :=
  match bytes with
  | a :: b :: c :: d :: _ =>
    if a = 0 then
      if b = 0 then Unicode.decodeUtf32 .highFirst 0 bytes
      else Unicode.decodeUtf16 .highFirst 0 bytes
    else if b = 0 then
      if c = 0 && d = 0 then Unicode.decodeUtf32 .lowFirst 0 bytes
      else Unicode.decodeUtf16 .lowFirst 0 bytes
    else Unicode.decodePassing bytes
  | [a, b] =>
    if a = 0 then Unicode.decodeUtf16 .highFirst 0 bytes
    else if b = 0 then Unicode.decodeUtf16 .lowFirst 0 bytes
    else Unicode.decodePassing bytes
  | _ => Unicode.decodePassing bytes

/-- The text of the bytes of a JSON document. -/
def decodeBytes (bytes : List UInt8) : Except Unicode.DecodeError RawText :=
  (decodeMarked? bytes).getD (decodeUnmarked bytes)

/-- The value of the bytes of a JSON document. A second mark is no part of a document. -/
def readBytes (bytes : List UInt8) : Except BytesError Json :=
  match decodeBytes bytes with
  | .error e => .error (.encoding e)
  | .ok (.char '\ufeff' :: _) => .error (.document (.fault .noValue 1 1 0))
  | .ok text => (read text).mapError .document

end SourceText.Json
