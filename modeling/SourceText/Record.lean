import SourceText.RawText

/-!
# Records of what a computation did

A computation returns its result together with the events that others can observe, in order: the
messages that it logged, the requests that it sent to a remote service, and the questions that it
asked of classifier engines.
-/

namespace SourceText

/-- How serious a log message is. -/
inductive Severity where
  | debug
  | info
  | warning
  | error
  deriving DecidableEq, Repr

/-- The name of a severity. -/
def Severity.name : Severity → String
  | debug => "DEBUG"
  | info => "INFO"
  | warning => "WARNING"
  | error => "ERROR"

/-- A request to the remote formatter. -/
structure RemoteRequest where
  url : String
  authorization : Option String
  parser : String
  code : RawText
  deriving DecidableEq, Repr

/-- A question to a classifier engine. -/
inductive Question where
  | isAvailable
  | classify
  deriving DecidableEq, Repr

/-- Something that a computation did. -/
inductive Event where
  /-- A log message. -/
  | logged (severity : Severity) (message : String)
  /-- A log message that is shown the first time only, however often its cause comes back. -/
  | announced (severity : Severity) (message : String)
  /-- A request that was sent. -/
  | requested (request : RemoteRequest)
  /-- A question to the engine at a place in the list of engines. -/
  | asked (engine : Nat) (question : Question)
  deriving DecidableEq, Repr

namespace Event

/-- The log messages among some events, announcements the first time only. `announced` holds those
made before. -/
def messagesFrom (before : List (Severity × String)) : List Event → List (Severity × String)
  | [] => []
  | logged severity message :: rest => (severity, message) :: messagesFrom before rest
  | announced severity message :: rest =>
    if (severity, message) ∈ before then messagesFrom before rest
    else (severity, message) :: messagesFrom ((severity, message) :: before) rest
  | _ :: rest => messagesFrom before rest

/-- The log messages among some events. -/
def messages (events : List Event) : List (Severity × String) := messagesFrom [] events

/-- The requests among some events. -/
def requests (events : List Event) : List RemoteRequest :=
  events.filterMap fun
    | requested request => some request
    | _ => none

/-- The questions among some events. -/
def questions (events : List Event) : List (Nat × Question) :=
  events.filterMap fun
    | asked engine question => some (engine, question)
    | _ => none

end Event

/-- A result and the events on the way to it. -/
structure Recorded (α : Type) where
  value : α
  events : List Event := []
  deriving Repr

namespace Recorded

instance : Monad Recorded where
  pure value := ⟨value, []⟩
  bind x f := ⟨(f x.value).value, x.events ++ (f x.value).events⟩

@[simp] theorem value_pure {α : Type} (a : α) : (pure a : Recorded α).value = a := rfl

@[simp] theorem events_pure {α : Type} (a : α) : (pure a : Recorded α).events = [] := rfl

@[simp] theorem value_bind {α β : Type} (x : Recorded α) (f : α → Recorded β) :
    (x >>= f).value = (f x.value).value := rfl

@[simp] theorem events_bind {α β : Type} (x : Recorded α) (f : α → Recorded β) :
    (x >>= f).events = x.events ++ (f x.value).events := rfl

/-- Does nothing but log a message. -/
def log (severity : Severity) (message : String) : Recorded Unit :=
  ⟨(), [.logged severity message]⟩

/-- Does nothing but announce a message. -/
def announce (severity : Severity) (message : String) : Recorded Unit :=
  ⟨(), [.announced severity message]⟩

/-- Does nothing but ask a question of the engine at a place in the list. -/
def ask (engine : Nat) (question : Question) : Recorded Unit :=
  ⟨(), [.asked engine question]⟩

/-- Goes on with the value of a success, and keeps a failure. -/
def andThen {ε α β : Type} (x : Recorded (Except ε α)) (f : α → Recorded (Except ε β)) :
    Recorded (Except ε β) :=
  x >>= fun
    | .ok a => f a
    | .error e => pure (.error e)

end Recorded

end SourceText
