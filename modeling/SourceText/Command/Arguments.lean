import SourceText.Number.Reader
import SourceText.Text

/-!
# Arguments

What the program is told on its command line: options with values, a command, and the options and
arguments of that command. An option that is given more than once has its last value.
-/

namespace SourceText.Command

/-- What the program is to do. A file may be a dash, which stands for the standard input. -/
inductive Action where
  | detect (file : String)
  | compact (file : String) (language : Option String)
  | uncompact (file : String)
  | format (file : String)
  | serve (host : Option String) (port : Option Int)
  deriving DecidableEq, Repr

/-- What is to be done, and the file with the settings. -/
structure Invocation where
  settings : Option String
  action : Action
  deriving DecidableEq, Repr

/-- Why there is no command. -/
inductive UsageError where
  /-- The arguments ask for help. -/
  | help
  /-- The arguments do not make sense. -/
  | wrong
  deriving DecidableEq, Repr

/-! ### Options -/

/-- An option, which has a value. -/
structure Flag where
  long : String
  short : Option Char := none
  deriving DecidableEq, Repr

/-- What was found on a command line: the values of options, the last one first, the arguments, and
whether there is a call for help. -/
structure Found where
  values : List (String × String) := []
  arguments : List String := []
  asksHelp : Bool := false
  deriving DecidableEq, Repr

namespace Found

/-- What was found, and the value of one more option. -/
def add (f : Found) (long value : String) : Found := { f with values := (long, value) :: f.values }

/-- The value of an option. -/
def value? (f : Found) (long : String) : Option String := f.values.lookup long

end Found

/-- What one word is among the options of a command. -/
inductive Word where
  /-- The end of the options. -/
  | endOfOptions
  | help
  /-- An option with its value. -/
  | given (long value : String)
  /-- An option whose value is the next word. -/
  | awaits (long : String)
  | argument
  | unknown
  deriving DecidableEq, Repr

/-- The word for help. -/
def helpWord : String := "--help"

/-- What a word with two dashes is. -/
def longWord (flags : List Flag) (word : Text) : Word :=
  let name := String.ofList (word.takeWhile (· != '='))
  let value := (word.drop name.length).tail?
  if name = helpWord then if value.isNone then .help else .unknown
  else
    match flags.find? (·.long == name), value with
    | some flag, some value => .given flag.long (String.ofList value)
    | some flag, none => .awaits flag.long
    | none, _ => .unknown

/-- What a word is. -/
def classify (flags : List Flag) (word : String) : Word :=
  match word.toList with
  | ['-', '-'] => .endOfOptions
  | '-' :: '-' :: _ => longWord flags word.toList
  | '-' :: c :: rest =>
    match flags.find? (·.short == some c) with
    | some flag => if rest.isEmpty then .awaits flag.long else .given flag.long (String.ofList rest)
    | none => .unknown
  | _ => .argument

/-- What is found among some words. When options may not follow arguments, the first argument ends
them. -/
def find (flags : List Flag) (isMixed : Bool) (found : Found) :
    List String → Except UsageError Found
  | [] => .ok found
  | word :: words =>
    match classify flags word with
    | .endOfOptions => .ok { found with arguments := found.arguments ++ words }
    | .help => find flags isMixed { found with asksHelp := true } words
    | .given long value => find flags isMixed (found.add long value) words
    | .awaits long =>
      match words with
      | value :: words => find flags isMixed (found.add long value) words
      | [] => .error .wrong
    | .argument =>
      if isMixed then find flags isMixed { found with arguments := found.arguments ++ [word] } words
      else .ok { found with arguments := found.arguments ++ word :: words }
    | .unknown => .error .wrong

/-! ### Commands -/

/-- The option for the file with the settings. -/
def settingsFlag : Flag := ⟨"--config", some 'c'⟩

/-- The option for the language of a text. -/
def languageFlag : Flag := ⟨"--language", some 'l'⟩

/-- The option for the host of the server. -/
def hostFlag : Flag := ⟨"--host", none⟩

/-- The option for the port of the server. -/
def portFlag : Flag := ⟨"--port", some 'p'⟩

/-- The options and the arguments of a command, unless they ask for help. -/
def findOwn (flags : List Flag) (words : List String) : Except UsageError Found := do
  let found ← find flags true {} words
  if found.asksHelp then .error .help else .ok found

/-- The only argument. -/
def theArgument (found : Found) : Except UsageError String :=
  match found.arguments with
  | [file] => .ok file
  | _ => .error .wrong

/-- The port that an option gives. -/
def portOf (found : Found) : Except UsageError (Option Int) :=
  match found.value? portFlag.long with
  | none => .ok none
  | some given =>
    match Number.readInteger given.toList with
    | .ok port => .ok (some port)
    | .error _ => .error .wrong

/-- The command of a name, with its options and arguments. -/
def readAction (name : String) (words : List String) : Except UsageError Action := do
  match name with
  | "detect" => .ok (.detect (← theArgument (← findOwn [] words)))
  | "compact" =>
    let found ← findOwn [languageFlag] words
    .ok (.compact (← theArgument found) (found.value? languageFlag.long))
  | "uncompact" => .ok (.uncompact (← theArgument (← findOwn [] words)))
  | "format" => .ok (.format (← theArgument (← findOwn [] words)))
  | "serve" =>
    let found ← findOwn [hostFlag, portFlag] words
    if found.arguments.isEmpty then .ok (.serve (found.value? hostFlag.long) (← portOf found))
    else .error .wrong
  | _ => .error .wrong

/-- What the words of a command line ask for. -/
def Invocation.read (words : List String) : Except UsageError Invocation := do
  let found ← find [settingsFlag] false {} words
  if found.asksHelp then .error .help
  else
    match found.arguments with
    | [] => .error .wrong
    | name :: words => .ok ⟨found.value? settingsFlag.long, ← readAction name words⟩

end SourceText.Command
