import SourceText.Http.Message
import SourceText.Number.Reader
import SourceText.Text.Hexadecimal

/-!
# What the server stands on

The server stands on a framework that takes requests apart and writes responses. Asked for the path
of a request, it puts an address together from the host that the request names, and takes that apart
again: a malformed host leaves the request without a path. Not every document can be sent.
-/

namespace SourceText.Http

/-- A framework. -/
structure Framework where
  /-- The path in the address of a request, if its address can be taken apart. -/
  path? : Request → Option String
  /-- Whether a document can be sent. -/
  sends : Json → Bool

/-- Whether a response can be sent; one in words always can. -/
def Framework.delivers (framework : Framework) (response : Response) : Bool :=
  match response.body with
  | .json document => framework.sends document
  | .text _ => true

/-! ### Hosts in brackets -/

/-- Whether a text is one of the four numbers of a short address: up to 255, without needless
zeros. -/
def isShortPart (part : Text) : Bool :=
  !part.isEmpty && part.all Char.isDigit && (part.length = 1 || part.head? ≠ some '0') &&
    Number.ofDigits (Number.spanDigits part).1 ≤ 255

/-- Whether a text is an address of four numbers. -/
def isShortAddress (text : Text) : Bool :=
  let parts := Text.splitOn (· == '.') text
  parts.length = 4 && parts.all isShortPart

/-- Whether a text is an address of eight groups of hexadecimal digits. A short address may stand
for the last two, and an empty group in the middle for one or more; a zone may follow. -/
def isLongAddress (text : Text) : Bool :=
  let address := text.takeWhile (· != '%')
  let zone := text.drop address.length
  let parts := Text.splitOn (· == ':') address
  let last := parts.getLast?.getD []
  let groups := if isShortAddress last then parts.dropLast ++ [['0'], ['0']] else parts
  let full := groups.filter (!·.isEmpty)
  let inner := (groups.drop 1).dropLast
  let isComplete :=
    match inner.count [] with
    | 0 => groups.length = 8 && full.length = 8
    | 1 =>
      full.length < 8 && (groups.head? ≠ some [] || inner.head? = some []) &&
        (groups.getLast? ≠ some [] || inner.getLast? = some [])
    | _ => false
  2 < parts.length && full.all (fun group => group.length ≤ 4 && group.all Text.isHexDigit) &&
    isComplete && (zone.isEmpty || (1 < zone.length && !(zone.drop 1).contains '%'))

/-- Whether a text is an address of a version to come: its number, a point and a name. -/
def isFutureAddress : Text → Bool
  | 'v' :: rest =>
    let version := rest.takeWhile Text.isHexDigit
    match rest.drop version.length with
    | '.' :: name => !version.isEmpty && !name.isEmpty
    | _ => false
  | _ => false

/-- Whether a host with brackets in it is well-formed: they stand around an address, which a name
may precede and a port may follow. -/
def isBracketed (host : Text) : Bool :=
  let isAddress (name : Text) := isFutureAddress name || isLongAddress name
  let place := (host.reverse.takeWhile (· != '@')).reverse
  match place with
  | '[' :: rest =>
    let name := rest.takeWhile (· != ']')
    let after := rest.drop (name.length + 1)
    host.contains ']' && isAddress name && (after.isEmpty || after.head? = some ':')
  | _ =>
    host.contains '[' && host.contains ']' && !place.contains '[' &&
      isAddress (place.takeWhile (· != ':'))

/-- The path of a request in its address, where the host comes before it. -/
def Request.addressPath? (r : Request) : Option String :=
  match r.header? "host" with
  | none => some r.path
  | some named =>
    let address := (named.toList ++ r.path.toList).filter fun c => !"\t\n\r".toList.contains c
    let host := address.takeWhile fun c => !"/?#".toList.contains c
    let path := (address.drop host.length).takeWhile fun c => !"?#".toList.contains c
    if (host.contains '[' || host.contains ']') && !isBracketed host then none
    else some (String.ofList path)

end Http

/-! ### Documents that can be sent -/

namespace Json

-- Powers are those of the core library whatever else is imported.
attribute [local instance (high)] instPowNat

mutual

/-- Whether a document can be sent: it has no halves of pairs in it, no number that is infinite or
none, and no integer of too many digits. -/
def isSendable : Json → Bool
  | null => true
  | bool _ => true
  | integer n => n.natAbs < 10 ^ Number.maxDigits
  | number (.finite _ _ _) => true
  | number _ => false
  | string text => text.all Point.isChar
  | array elements => areSendable elements
  | object members => areSendableMembers members

/-- Whether the elements of an array can be sent. -/
def areSendable : List Json → Bool
  | [] => true
  | element :: elements => isSendable element && areSendable elements

/-- Whether the members of an object can be sent. -/
def areSendableMembers : List (RawText × Json) → Bool
  | [] => true
  | (name, value) :: members =>
    name.all Point.isChar && isSendable value && areSendableMembers members

end

end Json

/-- The framework of the server. -/
def Http.Framework.standard : Framework := ⟨Request.addressPath?, Json.isSendable⟩

end SourceText
