import SourceText.Format.Address
import SourceText.Format.Header
import SourceText.Format.Parser
import SourceText.Json.Bytes
import SourceText.Json.Writer
import SourceText.Record
import SourceText.Value.Basic

/-!
# Backends of the formatter

A backend formats code with a parser. JSON is laid out here; code of all other languages goes to a
remote service, which answers with a JSON object.
-/

namespace SourceText.Format

/-- Why code is not formatted. -/
inductive Failure where
  /-- The code is no JSON document. -/
  | json (error : Json.ReadError)
  /-- The client does not send the request. -/
  | refused (reason : String)
  /-- The service cannot be reached. -/
  | unreachable (reason : String) (address : Address)
  /-- The service answers that something is wrong. -/
  | status (code : Nat) (body : Text)
  /-- The answer is no JSON document. -/
  | malformed (error : Json.BytesError)
  /-- The answer is of the named kind and no object. -/
  | noObject (kind : String)
  /-- The answer has no formatted text in it. -/
  | noText
  deriving DecidableEq, Repr

/-- The words for a failure. -/
def Failure.message : Failure → String
  | json (.tooLong digits) => Json.tooManyDigits digits
  | json e => s!"Invalid JSON: {e.message}"
  | refused reason => reason
  | unreachable reason address =>
    s!"Formatter HTTP error: {reason} (base={address.baseText}, endpoint={address.endpointText})"
  | status code body => s!"Formatter API error: status={code}, body={String.ofList body}"
  | malformed e => s!"Formatter returned an invalid response: {e.message}"
  | noObject kind =>
    s!"Formatter returned an invalid response: '{kind}' object has no attribute 'get'"
  | noText => "Formatter response has no 'formatted' string"

/-- A backend. It may fail to say whether it knows a parser. -/
structure Backend where
  supports : (parser : String) → Except String Bool
  format : (parser : String) → (code : RawText) → Recorded (Except Failure RawText)

/-- The layout of JSON code: elements and members on lines of their own. -/
def layOutJson (indent : Nat) (code : RawText) : Except Failure RawText :=
  match Json.read code with
  | .ok value => .ok (Json.write { indent := some indent } value ++ [.char '\n'])
  | .error e => .error (.json e)

/-- The backend for JSON. -/
def Backend.json (indent : Nat) : Backend where
  supports parser := .ok (parser == jsonParser)
  format _ code := pure (layOutJson indent code)

/-- What the service answers. -/
structure Reply where
  status : Nat
  body : List UInt8
  deriving DecidableEq, Repr

/-- The way to the service: its answer to a request, or why there is none. -/
abbrev Transport : Type := RemoteRequest → Except String Reply

/-- The formatted text in an answer. -/
def readReply (reply : Reply) : Except Failure RawText :=
  if reply.status != 200 then .error (.status reply.status (Unicode.decodeLossy reply.body))
  else
    match Json.readBytes reply.body with
    | .error e => .error (.malformed e)
    | .ok (.object members) =>
      match (Json.object members).member? "formatted" with
      | some (.string text) => .ok text
      | _ => .error .noText
    | .ok value => .error (.noObject (Value.ofJson value).kind)

/-- How the service is reached. -/
structure Remote where
  address : Address
  /-- The key that the service wants, empty if it wants none. -/
  key : String

/-- The words by which requests show the key, if the service wants one. -/
def Remote.authorization (r : Remote) : Option String :=
  if r.key.isEmpty then none else some ("Bearer " ++ r.key)

/-- The remote service of an address, a key and the path of the formatter, if there is an address.
The header of the requests has to hold the key. -/
def Remote.ofSettings? (base key endpoint : String) : Except HeaderError (Option Remote) :=
  if base.isEmpty then .ok none
  else
    let remote : Remote := ⟨Address.ofSettings base endpoint, key⟩
    (checkHeader (remote.authorization.getD "").toList).map fun _ => some remote

/-- The request for code to be formatted. -/
def Remote.request (r : Remote) (parser : String) (code : RawText) : RemoteRequest :=
  { url := r.address.url
    authorization := r.authorization
    parser := parser
    code := code }

/-- The payload of the request for code to be formatted. -/
def payload (parser : String) (code : RawText) : RawText :=
  Json.write Json.minified (.ofMembers [("parser", .ofString parser), ("code", .string code)])

/-- The rules of the client that sends requests: why it sends none to an address with a payload, if
it sends none. -/
abbrev ClientRules : Type := Address → (payload : RawText) → Option String

/-- The client sends nothing to an address that cannot be one, and no payload that has no bytes. -/
def ClientRules.standard : ClientRules := fun address payload =>
  match address.fault? with
  | some reason => some reason
  | none => if payload.all Point.isChar then none else some payload.encodeFault

/-- The backend that asks the remote service, unless the rules of the client refuse the request. -/
def Backend.remote (transport : Transport) (r : Remote)
    (rules : ClientRules := ClientRules.standard) : Backend where
  supports parser := .ok (isParser parser)
  format parser code :=
    match rules r.address (payload parser code) with
    | some reason => pure (.error (.refused reason))
    | none =>
      let request := r.request parser code
      { events := [.requested request]
        value :=
          match transport request with
          | .error reason => .error (.unreachable reason r.address)
          | .ok reply => readReply reply }

end SourceText.Format
