import SourceText.Command.Arguments
import SourceText.Console.Page
import SourceText.Logging
import SourceText.Service.Setup

/-!
# Commands

A command reads its text, builds the service from the settings, and prints what the service reports.
Whatever goes wrong on the way is printed as an error.
-/

namespace SourceText.Command

open Console

/-- What a command works with. -/
structure Workplace where
  surroundings : Settings.Surroundings
  equipment : Service.Equipment
  /-- The bytes of the standard input. -/
  input : List UInt8
  /-- The rules of the console that is printed on. -/
  console : Rules := .plain

/-- How a server is to be started. -/
structure Listening where
  host : Value
  port : Value
  logLevel : String

/-- What comes of a command: the exit code, what was printed, and the server that is to be started.
-/
structure Result where
  exitCode : Nat
  printed : Text
  server : Option Listening := none

/-- Why a command fails. -/
inductive Fault where
  /-- There is no file of the name. -/
  | missing (file : String)
  | file (error : Files.ReadError)
  /-- The standard input is no text. -/
  | input (error : Unicode.DecodeError)
  | service (fault : Service.Fault)
  | logging (fault : Logging.Fault)
  | operation (failure : Service.Failure)

/-- The words for a command that fails. -/
def Fault.message : Fault → String
  | missing name => s!"File not found: {name}"
  | file e => e.message
  | input e => e.message
  | service fault => fault.message
  | logging fault => fault.message
  | operation failure => failure.message

/-! ### Printing -/

/-- What is printed in order; it ends with the first page that cannot be printed. -/
def printed : List (Option Text) → Result
  | [] => ⟨0, [], none⟩
  | none :: _ => ⟨1, [], none⟩
  | some text :: rest =>
    let r := printed rest
    { r with printed := text ++ r.printed }

/-- What comes of a command that fails. -/
def failed (console : Rules) (fault : Fault) : Result :=
  let error := "[bold red]Error:[/bold red] " ++ fault.message
  { printed [console.message error.toList] with exitCode := 1 }

/-- The row of a candidate. -/
def candidateRow (c : Detect.Candidate) : List Text :=
  [c.engine.toList, c.language.toList, (c.confidence.fixed 2).toList]

/-- The table of candidates. -/
def candidateTable (candidates : List Detect.Candidate) : Table where
  title := "Candidates".toList
  columns := [⟨"Engine".toList, .left⟩, ⟨"Language".toList, .left⟩, ⟨"Confidence".toList, .right⟩]
  rows := candidates.map candidateRow

/-- What is printed about a detection. -/
def printDetection (console : Rules) (o : DetectOutcome) : Result :=
  let language := "[bold]Language:[/bold] [green]" ++ o.language ++ "[/green]"
  printed
    [console.message language.toList,
      if o.candidates.isEmpty then
        console.message "[yellow]No engine produced a candidate.[/yellow]".toList
      else console.table (candidateTable o.candidates)]

/-- What is printed of a compact text. -/
def printCompact (console : Rules) (o : CompactOutcome) : Result :=
  printed [console.program o.compactedText]

/-- What is printed of a text that was laid out again. -/
def printUncompact (console : Rules) (o : FormatOutcome) : Result :=
  printed [console.program o.formattedText]

/-- What is printed of a formatted text. -/
def printFormat (console : Rules) (o : FormatOutcome) : Result :=
  if o.success then printed [console.program o.formattedText]
  else
    printed [console.message ("[yellow]" ++ o.message ++ "[/yellow]").toList,
      console.program o.formattedText]

/-! ### Running -/

/-- The text of the standard input. -/
def readInput (w : Workplace) : Except Fault Text :=
  match Unicode.decodeUtf8 w.input with
  | .ok text => .ok (Text.unifyLineEnds text)
  | .error e => .error (.input e)

/-- The text of a file or of the standard input. -/
def readSource (w : Workplace) (file : String) : Except Fault Text :=
  if file = "-" then readInput w
  else
    let files := w.surroundings.files
    let path := Path.ofString file
    if files.isFile path then (files.readText path).mapError .file else .error (.missing file)

/-- The settings and the service, once logging is configured as well. An empty path for the settings
is that of the directory that paths start in. -/
def prepare (w : Workplace) (settings : Option String) :
    Recorded (Except Fault (Settings × Service)) := do
  let settings := settings.map fun path => (Path.ofString path).text
  match ← Service.load w.equipment w.surroundings settings with
  | .error fault => pure (.error (.service fault))
  | .ok (s, service) =>
    pure (((← Logging.ofSettings s).mapError .logging).map fun _ => (s, service))

/-- What an operation of the service reports about the text of a file. -/
def report {α : Type} (w : Workplace) (settings : Option String) (file : String)
    (operation : Service → Text → Recorded (Except Service.Failure α)) :
    Recorded (Except Fault α) :=
  match readSource w file with
  | .error fault => pure (.error fault)
  | .ok text =>
    (prepare w settings).andThen fun (_, service) => do
      pure ((← operation service text).mapError .operation)

/-- What comes of a report. -/
def conclude {α : Type} (console : Rules) (print : Rules → α → Result) : Except Fault α → Result
  | .ok outcome => print console outcome
  | .error fault => failed console fault

/-- The small letters of the text of a value. -/
def lowered : Value → String
  | .string s => String.ofList (Unicode.lower s.toList)
  | .halved s => String.ofList (Unicode.lower s.shown)
  | _ => ""

/-- How the server of the settings is to be started. -/
def listening (s : Settings) (host : Option String) (port : Option Int) : Listening where
  host := (host.map Value.string).getD (s.value .host)
  port := (port.map Value.integer).getD (s.value .port)
  logLevel := lowered (s.value .logLevel)

/-- What is printed before a server starts. -/
def printListening (console : Rules) (l : Listening) : Result :=
  let address := s!"http://{l.host.toText}:{l.port.toText}"
  let r := printed
    [console.message ("[bold green]Starting API server at " ++ address ++ "[/bold green]").toList]
  if r.exitCode = 0 then { r with server := some l } else r

/-- Runs a command. -/
def run (w : Workplace) (i : Invocation) : Recorded Result :=
  match i.action with
  | .detect file => do
    pure (conclude w.console printDetection (← report w i.settings file Service.detect))
  | .compact file language => do
    pure (conclude w.console printCompact
      (← report w i.settings file fun service text => service.compact text language))
  | .uncompact file => do
    pure (conclude w.console printUncompact (← report w i.settings file Service.uncompact))
  | .format file => do
    pure (conclude w.console printFormat (← report w i.settings file Service.format))
  | .serve host port => do
    pure (conclude w.console (fun console (s, _) => printListening console (listening s host port))
      (← prepare w i.settings))

end SourceText.Command
