import SourceText.Json.Value

/-!
# Requests and responses

What the server is sent and what it answers. The names of headers are not sensitive to case, and
neither is the method of a request; its path is.
-/

namespace SourceText.Http

/-- What the server is sent. -/
structure Request where
  method : String
  /-- The path and what follows it. -/
  target : String
  /-- The headers in the order in which they were sent. -/
  headers : List (String × String) := []
  body : List UInt8 := []
  deriving DecidableEq, Repr

namespace Request

/-- The method in capitals. -/
def verb (r : Request) : String := String.ofList (r.method.toList.map Char.toUpper)

/-- The path, without a query. -/
def path (r : Request) : String := String.ofList (r.target.toList.takeWhile (· != '?'))

/-- The first header of a name, which is given in small letters. -/
def header? (r : Request) (name : String) : Option String :=
  (r.headers.find? fun header => header.1.toList.map Char.toLower == name.toList).map (·.2)

end Request

/-- What a response says. -/
inductive Body where
  | json (value : Json)
  | text (text : Text)

/-- What the server answers. -/
structure Response where
  status : Nat
  body : Body
  headers : List (String × String) := []

namespace Response

/-- A response with a JSON object. -/
def ofMembers (status : Nat) (members : List (String × Json)) : Response :=
  ⟨status, .json (Json.ofMembers members), []⟩

/-- A response with an error in words and more about it. -/
def ofError (status : Nat) (error : String) (more : List (String × Json)) : Response :=
  ofMembers status (("error", Json.ofString error) :: more)

/-- The response with a header more. -/
def withHeader (r : Response) (name value : String) : Response :=
  { r with headers := r.headers ++ [(name, value)] }

/-- The response when the server itself failed. -/
def crashed : Response := ⟨500, .text "Internal Server Error".toList, []⟩

/-- The response as it goes out: a request that asks for the headers gets no body. -/
def sentFor (r : Response) (request : Request) : Response :=
  if request.verb = "HEAD" then { r with body := .text [] } else r

end Response

end SourceText.Http
