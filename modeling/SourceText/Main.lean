import SourceText.Command.Run

/-!
# The program

Reads what a command needs from the surroundings, runs it, and prints what it prints. There is no
network here: the remote formatter cannot be reached, and a server is announced only.
-/

namespace SourceText.Program

open Command

/-- How the program is used. -/
def usage : String :=
  "Usage: [--config FILE] COMMAND\n\n" ++
    "  detect FILE                      name the language of a text\n" ++
    "  compact [--language NAME] FILE   leave out comments and blanks\n" ++
    "  uncompact FILE                   lay out a compact text again\n" ++
    "  format FILE                      format a text\n" ++
    "  serve [--host HOST] [--port PORT]\n"

/-- What lies around the program: no lexers, and no way to the remote formatter. -/
def equipment : Service.Equipment where
  lexers := {}
  transport := fun _ => .error "there is no network"

/-- The name of the file that a command is about. -/
def sourceOf : Action → Option String
  | .detect name | .compact name _ | .uncompact name | .format name => some name
  | .serve .. => none

/-- The file of a name, if there is one. -/
def readFile (name : String) : IO (List (String × List UInt8)) := do
  try
    pure [(name, (← IO.FS.readBinFile name).toList)]
  catch _ => pure []

/-- The value of an environment variable, if it has one. -/
def readVariable (name : String) : IO (List (String × String)) := do
  pure ((← IO.getEnv name).toList.map fun value => (name, value))

/-- What is left of a stream, behind what was read of it. -/
partial def readStream (stream : IO.FS.Stream) (read : ByteArray) : IO ByteArray := do
  let more ← stream.read 65536
  if more.isEmpty then pure read else readStream stream (read ++ more)

/-- What a command works with. -/
def workplace (i : Invocation) : IO Workplace := do
  let source := sourceOf i.action
  let files ← (i.settings.toList ++ source.toList).mapM readFile
  let names := Settings.sharedKeyName :: Setting.all.map Settings.variableName
  let overrides ← names.mapM readVariable
  let input ← if source = some "-" then readStream (← IO.getStdin) ByteArray.empty else pure .empty
  pure
    { surroundings :=
        { files := Files.ofList files.flatten
          environment := fun name => overrides.flatten.lookup name }
      equipment := equipment
      input := input.toList }

/-- Shows the messages of some events. -/
def showMessages (events : List Event) : IO Unit := do
  for (severity, message) in Event.messages events do
    IO.eprintln (severity.name ++ ": " ++ message)

/-- Runs the command that was asked for, and gives its exit code. -/
def run (i : Invocation) : IO UInt32 := do
  let { events, value := result } := Command.run (← workplace i) i
  showMessages events
  IO.print (String.ofList result.printed)
  if result.server.isSome then
    IO.eprintln "There is no network to serve."
    pure 1
  else pure (UInt32.ofNat result.exitCode)

end SourceText.Program

/-- The program. -/
def main (words : List String) : IO UInt32 :=
  match SourceText.Command.Invocation.read words with
  | .ok i => SourceText.Program.run i
  | .error .help => do
    IO.print SourceText.Program.usage
    pure 0
  | .error .wrong => do
    IO.eprint SourceText.Program.usage
    pure 2
