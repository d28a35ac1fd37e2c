import SourceText.Auth.Hmac
import SourceText.Number.Reader
import SourceText.Text.Hexadecimal
import SourceText.Unicode.Case
import SourceText.Unicode.Utf8

/-!
# Signatures of requests

A gateway signs every request: the keyed digest of the time of sending and the body, under a secret
that it shares. The time is given in milliseconds and signed as it was sent, and a request that is
too old or too new is refused.
-/

namespace SourceText.Auth

/-- Why a request is refused. -/
inductive Rejection where
  /-- The signature or the time is missing or empty. -/
  | missing
  /-- The time is no integer. -/
  | timestamp
  /-- The time is too far away. -/
  | expired
  /-- The signature is not that of the request. -/
  | signature
  deriving DecidableEq, Repr

/-- The words for a refusal, which are safe to be shown to the sender. -/
def Rejection.reason : Rejection → String
  | missing => "Missing auth headers"
  | timestamp => "Invalid timestamp"
  | expired => "Request expired"
  | signature => "Invalid Signature"

/-- The message that is signed. -/
def signedMessage (timestamp : String) (body : List UInt8) : List UInt8 :=
  Unicode.encodeUtf8 timestamp.toList ++ body

/-- Bytes in hexadecimal. -/
def hexText (bytes : List UInt8) : Text := bytes.flatMap fun b => Text.hexDigits 2 b.toNat

/-- The signature of a request. -/
def sign (secret timestamp : String) (body : List UInt8) : Text :=
  hexText (keyedDigest (Unicode.encodeUtf8 secret.toList) (signedMessage timestamp body))

/-- The time of sending of a request whose headers are there. -/
def sentAt (signature timestamp : Option String) : Except Rejection (String × String × Int) :=
  match signature.filter (!·.isEmpty), timestamp.filter (!·.isEmpty) with
  | some signature, some timestamp =>
    match Number.readInteger timestamp.toList with
    | .ok sent => .ok (signature, timestamp, sent)
    | .error _ => .error .timestamp
  | _, _ => .error .missing

/-- Whether a time is farther from another one than is allowed; without a bound it never is. -/
def isExpired (maxSkewMs : Option Int) (now sent : Int) : Bool :=
  maxSkewMs.any fun bound => bound < ((now - sent).natAbs : Int)

/-- Checks the signature and the time that came with a body. The case of the signature does not
matter. -/
def verify (secret : String) (signature timestamp : Option String) (body : List UInt8)
    (maxSkewMs : Option Int) (now : Int) : Except Rejection Unit := do
  let (signature, timestamp, sent) ← sentAt signature timestamp
  if isExpired maxSkewMs now sent then .error .expired
  else if Unicode.lower signature.toList = sign secret timestamp body then .ok ()
  else .error .signature

end SourceText.Auth
