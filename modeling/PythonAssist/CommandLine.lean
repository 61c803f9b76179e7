import PythonAssist.CommandLine.Options
import PythonAssist.Configuration
import PythonAssist.Session
import PythonAssist.Worker.Link
import PythonAssist.Wire.Pieces

set_option autoImplicit false

namespace PythonAssist

structure ServerArguments where
  config : Option Path
  python : Option String
  worker : Option String
  logLevel : Option String
  deriving DecidableEq, Repr

namespace ServerArguments

def forms : CommandLine.OptionForms :=
  { forms :=
      ["config", "python", "worker", "log-level"].map fun name =>
        { name, takesValue := true, repeats := false }
    hasVersion := true }

def ofGiven (given : List GivenOption) : Option ServerArguments :=
  let config := CommandLine.value? given "config"
  if config = some "" then none
  else
    some
      { config := config.map Path.ofString, python := CommandLine.value? given "python"
        worker := CommandLine.value? given "worker"
        logLevel := CommandLine.value? given "log-level" }

end ServerArguments

inductive StartError where
  | logLevel
  | logDirective
  | emptyWorker
  | configuration (cause : ConfigurationError)
  deriving DecidableEq, Repr

def StartError.message : StartError → String
  | .logLevel =>
    "error parsing level filter: expected one of \"off\", \"error\", \"warn\", \"info\", " ++
      "\"debug\", \"trace\", or a number 0-5"
  | .logDirective => "invalid filter directive"
  | .emptyWorker => "--worker command cannot be empty"
  | .configuration cause => cause.message

namespace CommandLine

def levels : List String := ["error", "warn", "info", "debug", "trace", "off"]

def isLevel (word : List Char) : Bool :=
  word.isEmpty || levels.contains (String.ofList (word.map Char.toLower)) ||
    (unsigned? 6 word).isSome

-- A level is a word or a number. Only further commas and blanks may follow a comma behind it.
def checkLogLevel (text : String) : Except StartError Unit :=
  let word := text.toList.takeWhile (· != ',')
  if !isLevel word then throw .logLevel
  else if (trimBack (text.toList.drop word.length)).all (· == ',') then return ()
  else throw .logDirective

def wordsFrom : List Char → List Char → List String
  | word, [] => if word.isEmpty then [] else [String.ofList word]
  | word, c :: rest =>
    if isWhiteSpace c then
      (if word.isEmpty then [] else [String.ofList word]) ++ wordsFrom [] rest
    else wordsFrom (word ++ [c]) rest

def workerCommand (text : String) : List String := wordsFrom [] text.toList

def configure (host : Host) (arguments : ServerArguments) : Except StartError Configuration := do
  arguments.logLevel.forM checkLogLevel
  let configuration ← (Configuration.load host arguments.config).mapError .configuration
  let configuration :=
    match arguments.python with
    | some python => { configuration with python }
    | none => configuration
  match arguments.worker.map workerCommand with
  | none => return configuration
  | some [] => throw .emptyWorker
  | some command => return { configuration with workerCommand := some command }

def standardWorker (python : String) : List String := [python, "-m", "pyls_bridge_worker"]

end CommandLine

structure ServerRun where
  exitCode : Nat
  text : String
  sent : List Outgoing
  error : Option String

namespace ServerRun

variable {P : Type}

def ofText (exitCode : Nat) (text : String) : ServerRun :=
  { exitCode, text, sent := [], error := none }

def failed (e : StartError) : ServerRun :=
  { exitCode := 1, text := "", sent := [], error := some ("Error: " ++ e.message) }

def session (configuration : Configuration) : Session (WorkerLink P) :=
  .create configuration.python configuration.settings
    (.idle (configuration.workerCommand.getD (CommandLine.standardWorker configuration.python)))

def serve (host : Host) (program : Program P) (configuration : Configuration) (input : Bytes) :
    ServerRun :=
  let handler := Session.handler { launcher := WorkerLink.launcher program, host }
  let server := Server.run handler (reads input) (.start (session configuration))
  { exitCode := if server.isClean then 0 else 1, text := "", sent := server.sent, error := none }

def ofArguments (host : Host) (program : Program P) (arguments : List String) (input : Bytes) :
    ServerRun :=
  match CommandLine.read ServerArguments.forms arguments with
  | .version => ofText 0 (serverName ++ " " ++ serverVersion ++ "\n")
  | .help => ofText 0 ("Usage: " ++ serverName ++ " [OPTIONS]\n")
  | .invalid => ofText CommandLine.invalidCode ""
  | .options given =>
    match ServerArguments.ofGiven given with
    | none => ofText CommandLine.invalidCode ""
    | some arguments =>
      match CommandLine.configure host arguments with
      | .error e => failed e
      | .ok configuration => serve host program configuration input

end ServerRun

end PythonAssist
