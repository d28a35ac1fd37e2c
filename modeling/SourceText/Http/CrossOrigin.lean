import SourceText.Http.Message

/-!
# Requests from pages of other origins

Every page may use the server. A browser that acts for a page names the origin of the page, and
before some requests asks whether they are allowed.
-/

namespace SourceText.Http

/-- The header that says which origin may read a response. -/
def allowOrigin : String := "access-control-allow-origin"

/-- The methods that pages may use, by name. -/
def allowedMethods : List String := ["DELETE", "GET", "HEAD", "OPTIONS", "PATCH", "POST", "PUT"]

/-- For how many seconds a browser may remember that a request is allowed. -/
def maxAge : String := "600"

/-- The method that a browser asks about, if it asks. -/
def requestedMethod? (r : Request) : Option String :=
  if r.verb = "OPTIONS" && (r.header? "origin").isSome then
    r.header? "access-control-request-method"
  else none

/-- The answer to a browser that asks whether a method is allowed. All headers are. -/
def permission (r : Request) (method : String) : Response :=
  let isAllowed := allowedMethods.contains method
  let headers :=
    [(allowOrigin, "*"), ("access-control-allow-methods", ", ".intercalate allowedMethods),
      ("access-control-max-age", maxAge)]
  { status := if isAllowed then 200 else 400
    body := .text (if isAllowed then "OK" else "Disallowed CORS method").toList
    headers :=
      match r.header? "access-control-request-headers" with
      | some requested => headers ++ [("access-control-allow-headers", requested)]
      | none => headers }

/-- Allows the page for which a request came to read the response. A page that the user is known to
is named. -/
def Response.sharedWith (response : Response) (request : Request) : Response :=
  match request.header? "origin" with
  | some origin =>
    response.withHeader allowOrigin (if (request.header? "cookie").isSome then origin else "*")
  | none => response

end SourceText.Http
