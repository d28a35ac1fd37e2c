import SourceText.Http.Admission
import SourceText.Http.CrossOrigin

/-!
# The server

The server takes posted texts to the operations, and says how long it has been up. Whatever happens,
it has an answer, if only that it failed.
-/

namespace SourceText.Http

/-- The two clocks of a server: the time of day in milliseconds, and the readings in seconds of a
clock that only goes forward. Without a reading that clock stands at zero. -/
structure Clock where
  now : Int := 0
  readings : List Binary64 := []
  deriving Repr

namespace Clock

/-- The next reading. -/
def read (c : Clock) : Binary64 := c.readings.headD Binary64.zero

/-- The clock after a reading. -/
def tick (c : Clock) : Clock := { c with readings := c.readings.tail }

end Clock

/-- A server. -/
structure Server where
  settings : Settings
  operations : Operations
  /-- The reading of the clock when the server was started. -/
  startedAt : Binary64
  framework : Framework := .standard

/-- The path at which the server says how it is. -/
def healthPath : String := "/health"

namespace Server

/-- The response when an operation failed. -/
def failureResponse (reason : String) : Response :=
  .ofError 500 "Internal server error" [("details", Json.ofString reason)]

/-- The answer to a request that was posted to an operation. -/
def serve (s : Server) (now : Int) (operation : Operation) (r : Request) :
    Recorded (Option Response) :=
  match acceptedText s.settings operation r now with
  | .error refusal => refusal.respond s.framework operation r
  | .ok text => do
    match ← operation.run s.operations text with
    | .ok report => pure (some (.ofMembers 200 report))
    | .error reason => do
      .log .error s!"Error in {operation.path}: {reason}"
      pure (some (failureResponse reason))

/-- The answer at a path that is not there. -/
def notFound : Response := .ofError 404 "Not Found" []

/-- The answer to a method that is not the one of the path. -/
def wrongMethod (allowed : String) : Response :=
  (Response.ofError 405 "Method Not Allowed" []).withHeader "allow" allowed

/-- The answer to the question how the server is. -/
def health (s : Server) (reading : Binary64) : Response :=
  .ofMembers 200 [("status", Json.ofString "OK"), ("uptime", .number (reading - s.startedAt))]

/-- Whether a request asks how the server is. -/
def isHealthRequest (r : Request) : Bool := r.path == healthPath && r.verb == "GET"

/-- The answer to a request by its path and method. -/
def route (s : Server) (clock : Clock) (r : Request) : Recorded (Option Response) :=
  if isHealthRequest r then pure (some (s.health clock.read))
  else if r.path = healthPath then pure (some (wrongMethod "GET"))
  else
    match Operation.ofPath? r.path with
    | none => pure (some notFound)
    | some operation =>
      if r.verb = "POST" then s.serve clock.now operation r
      else pure (some (wrongMethod "POST"))

/-- What goes out for a response. Without one, and when it cannot be sent, the server failed. -/
def dispatch (s : Server) (r : Request) : Option Response → Response
  | some response => if s.framework.delivers response then response.sharedWith r else .crashed
  | none => .crashed

/-- The answer to a request, and the clock after it. -/
def answer (s : Server) (clock : Clock) (r : Request) : Recorded (Response × Clock) :=
  match requestedMethod? r with
  | some method => pure (permission r method, clock)
  | none => do
    let response := s.dispatch r (← s.route clock r)
    pure (response.sentFor r, if isHealthRequest r then clock.tick else clock)

/-- The answers to requests in order. -/
def answerAll (s : Server) : Clock → List Request → Recorded (List Response)
  | _, [] => pure []
  | clock, r :: rs => do
    let (response, clock) ← s.answer clock r
    pure (response :: (← answerAll s clock rs))

/-- The server of some settings, started now, and the clock after that. -/
def start (settings : Settings) (operations : Operations) (clock : Clock) : Server × Clock :=
  ({ settings, operations, startedAt := clock.read }, clock.tick)

end Server

end SourceText.Http
