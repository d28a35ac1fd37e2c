import SourceText.Auth.Signature
import SourceText.Http.Framework
import SourceText.Http.Operation
import SourceText.Json.Bytes
import SourceText.Settings.Basic
import SourceText.Value.Written

/-!
# Admission of requests

A posted request is served when it passes a number of checks: the size of its body, its signature,
the form of its body, the text in it, and the length of that text. The first that it fails decides
the response.
-/

namespace SourceText.Http

/-- Why a request is not served. -/
inductive Refusal where
  /-- The body has more bytes than the limit. -/
  | tooLarge (limit : Value)
  /-- The signature is not accepted. -/
  | unauthorized (reason : Auth.Rejection)
  /-- The body is no JSON document. -/
  | notJson
  /-- There is no text in the body. -/
  | noText
  /-- The text has more characters than the limit. -/
  | tooLong (limit : Value)
  /-- A setting is of the wrong kind, so that the request cannot be checked. -/
  | misuse (error : Misuse)
  deriving BEq, Repr

/-- The header with the signature of a request. -/
def signatureHeader : String := "x-auth-signature"

/-- The header with the time at which a request was sent. -/
def timestampHeader : String := "x-auth-timestamp"

/-- Whether a count is more than a limit. -/
def exceeds (n : Nat) (limit : Value) : Except Misuse Bool := do
  .ok ((← limit.greatestCount).any fun greatest => decide (greatest < (n : Int)))

/-- Checks the size of the body. -/
def checkSize (s : Settings) (r : Request) : Except Refusal Unit := do
  let limit := s.value .maxBodyBytes
  if ← (exceeds r.body.length limit).mapError .misuse then .error (.tooLarge limit) else .ok ()

/-- The text of a secret. -/
def secretOf (value : Value) : Except Misuse String :=
  match value with
  | .string secret => .ok secret
  | .halved secret => .error (.noBytes secret)
  | _ => .error (.lacks value.kind "encode")

/-- Checks the signature. Settings of the wrong kind show only when all that does not depend on them
is in order. -/
def checkSignature (s : Settings) (r : Request) (now : Int) : Except Refusal Unit :=
  let key := s.value .internalKey
  let signature := r.header? signatureHeader
  let timestamp := r.header? timestampHeader
  if !key.isGiven then .ok ()
  else
    match (s.value .maxSkewMs).greatestCount, secretOf key with
    | .ok bound, .ok secret =>
      (Auth.verify secret signature timestamp r.body bound now).mapError .unauthorized
    | bound, secret => do
      let (_, _, sent) ← (Auth.sentAt signature timestamp).mapError .unauthorized
      if Auth.isExpired (← bound.mapError .misuse) now sent then .error (.unauthorized .expired)
      else (secret.mapError .misuse).map fun _ => ()

/-- The document in the body; an empty body says nothing. -/
def readDocument (r : Request) : Except Refusal Json :=
  if r.body.isEmpty then .ok .null else (Json.readBytes r.body).mapError fun _ => .notJson

/-- The text in a document. The operations know characters only, so that halves of pairs in it are
replaced. -/
def textIn (document : Json) : Except Refusal Text :=
  match document.member? "text" with
  | some (.string text) => if text.isEmpty then .error .noText else .ok text.shown
  | _ => .error .noText

/-- Checks the length of a text; only detection has a limit. -/
def checkLength (s : Settings) (operation : Operation) (text : Text) : Except Refusal Unit :=
  match operation with
  | .detect => do
    let limit := s.value .maxDetectChars
    if ← (exceeds text.length limit).mapError .misuse then .error (.tooLong limit) else .ok ()
  | _ => .ok ()

/-- The text of a request that passes all checks. -/
def acceptedText (s : Settings) (operation : Operation) (r : Request) (now : Int) :
    Except Refusal Text := do
  checkSize s r
  checkSignature s r now
  let text ← textIn (← readDocument r)
  checkLength s operation text
  .ok text

/-- A limit as it is shown. -/
def limitJson (limit : Value) : Json :=
  match limit.toJson with
  | .ok value => value
  | .error _ => .null

/-- Refuses a request. There is no response when the settings are to blame, and none to a request
without a good signature that has no path either, since a log message names the path. -/
def Refusal.respond (framework : Framework) (operation : Operation) (r : Request) :
    Refusal → Recorded (Option Response)
  | tooLarge limit => pure (some (.ofError 413 "Payload too large" [("maxBytes", limitJson limit)]))
  | unauthorized reason =>
    match framework.path? r with
    | some path => do
      .log .warning s!"Rejected request to {path}: {reason.reason}"
      pure (some (.ofError 401 reason.reason []))
    | none => pure none
  | notJson => pure (some (.ofError 400 "Invalid JSON body" []))
  | noText => pure (some (.ofError 400 operation.missingText []))
  | tooLong limit => pure (some (.ofError 413 "Text too long" [("maxChars", limitJson limit)]))
  | misuse _ => pure none

end SourceText.Http
