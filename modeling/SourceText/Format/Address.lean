import SourceText.Text
import SourceText.Text.Hexadecimal
import SourceText.Text.Quoted
import SourceText.Unicode.Utf8

/-!
# Addresses

The address of the remote formatter is put together from a base and an endpoint. Characters that an
address cannot hold are written as bytes in hexadecimal, and a port is left out where it is the one
that the scheme has anyway. Nothing is sent to an address with control characters in it.
-/

namespace SourceText.Format

/-- The visible characters that a query cannot hold. -/
def queryEscapes : List Char := ['"', '#', '<', '>']

/-- The visible characters that a path cannot hold. -/
def pathEscapes : List Char := queryEscapes ++ ['?', '`', '{', '}']

/-- Whether a character of a path stands for itself. -/
def isPathChar (c : Char) : Bool :=
  0x20 < c.toNat && c.toNat < 0x7F && !pathEscapes.contains c

/-- Whether a character of a query stands for itself. -/
def isQueryChar (c : Char) : Bool :=
  0x20 < c.toNat && c.toNat < 0x7F && !queryEscapes.contains c

/-- The bytes of a character in hexadecimal. -/
def escapedChar (c : Char) : Text :=
  (Unicode.encodeChar c).flatMap fun b => '%' :: Text.upperHexDigits 2 b.toNat

/-- The text with escapes for the characters that do not stand for themselves. -/
def escape (isPlain : Char → Bool) (text : Text) : Text :=
  text.flatMap fun c => if isPlain c then [c] else escapedChar c

/-- A path and a query as they stand in an address; a fragment is left out. -/
def escapeTarget (target : Text) : Text :=
  let body := target.takeWhile (· != '#')
  let path := body.takeWhile (· != '?')
  match body.drop path.length with
  | [] => escape isPathChar path
  | _ :: query => escape isPathChar path ++ '?' :: escape isQueryChar query

/-- The text without the slashes at its end. -/
def dropSlashes (text : Text) : Text := (text.reverse.dropWhile (· = '/')).reverse

/-- The ports of schemes. -/
def schemePorts : List (Text × Text) :=
  [("http".toList, ":80".toList), ("https".toList, ":443".toList)]

/-- A host without its port, if the port is that of the scheme. -/
def hostText (scheme host : Text) : Text :=
  let host := host.map Char.toLower
  match schemePorts.lookup scheme with
  | some port => if port.isSuffixOf host then host.take (host.length - port.length) else host
  | none => host

/-- The largest length of an address and of its parts. -/
def maxAddressLength : Nat := 65536

/-- The characters of ASCII that do not show. -/
def isControlChar (c : Char) : Bool := c.toNat < 0x20 || c.toNat == 0x7F

/-- Where the remote formatter is: the base of its address, and the path of the formatter there. -/
structure Address where
  /-- The scheme and the host. -/
  origin : Text
  /-- The path of the base, without slashes at its end. -/
  path : Text
  /-- The path of the formatter from there, with a slash at its start. -/
  endpoint : Text
  deriving DecidableEq, Repr

namespace Address

/-- Splits a base into its origin and its path. -/
def splitBase (base : Text) : Text × Text :=
  let scheme := base.takeWhile (· != ':')
  match base.drop scheme.length with
  | ':' :: '/' :: '/' :: rest =>
    let scheme := scheme.map Char.toLower
    let host := rest.takeWhile fun c => c != '/' && c != '?' && c != '#'
    (scheme ++ "://".toList ++ hostText scheme host, escapeTarget (rest.drop host.length))
  | _ => ([], escapeTarget base)

/-- The address of a base and an endpoint. -/
def ofSettings (base endpoint : String) : Address :=
  let (origin, path) := splitBase (dropSlashes base.toList)
  let endpoint := endpoint.toList
  { origin := origin
    path := path
    endpoint := if endpoint.head? = some '/' then endpoint else '/' :: endpoint }

/-- The base as messages show it: a path ends in a slash. -/
def baseText (a : Address) : String :=
  String.ofList (a.origin ++ if a.path.isEmpty then [] else a.path ++ ['/'])

/-- The endpoint as messages show it. -/
def endpointText (a : Address) : String := String.ofList a.endpoint

/-- The whole address. -/
def url (a : Address) : String := String.ofList (a.origin ++ a.path ++ escapeTarget a.endpoint)

/-- Why no request can go to the address, if none can. -/
def fault? (a : Address) : Option String :=
  if maxAddressLength < a.endpoint.length then some "URL too long"
  else
    match a.endpoint.find? isControlChar with
    | some c =>
      let character := quotedString (String.singleton c)
      let position := a.endpoint.idxOf c
      some s!"Invalid non-printable ASCII character in URL, {character} at position {position}."
    | none =>
      let target := a.path ++ escapeTarget a.endpoint
      let path := target.takeWhile (· != '?')
      if maxAddressLength < path.length then some "URL component 'path' too long"
      else if maxAddressLength < target.length - path.length - 1 then
        some "URL component 'query' too long"
      else none

end Address

end SourceText.Format
