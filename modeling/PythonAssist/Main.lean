import PythonAssist.CommandLine
import PythonAssist.TextEngine.Program

set_option autoImplicit false

namespace PythonAssist

namespace ServerProgram

def variableNames : List String :=
  ["HOME", "XDG_CONFIG_HOME", "PYLS_BRIDGE_PYTHON", "PYLS_BRIDGE_WORKER_COMMAND",
    "PYLS_BRIDGE_SETTINGS__PYFLAKES_ERRORS", "PYLS_BRIDGE_SETTINGS__PYCODESTYLE_CONFIG",
    "PYLS_BRIDGE_SETTINGS__HELP_ON_HOVER", "PYLS_BRIDGE_SETTINGS__MYPY_ENABLED"]

def readVariables : List String → IO (List (String × String))
  | [] => return []
  | name :: rest => do
    let others ← readVariables rest
    match ← IO.getEnv name with
    | some value => return (name, value) :: others
    | none => return others

def readFiles : List String → IO (List (Path × Bytes))
  | [] => return []
  | name :: rest => do
    let others ← readFiles rest
    try
      let content ← IO.FS.readBinFile name
      return (.ofString name, content.toList) :: others
    catch _ => return others

def configFiles (arguments : ServerArguments) (envVariables : List (String × String)) :
    List String :=
  let host : Host :=
    { disk := .ofFiles [], envVariables, check := fun _ _ => .notStarted TextEngine.notFound }
  let user := host.configDirectory?.map fun directory =>
    ((directory.join "pyls-bridge").join "config.toml").display
  user.toList ++ (arguments.config.map Path.display).toList

def readHost (arguments : ServerArguments) : IO Host := do
  let envVariables ← readVariables variableNames
  let files ← readFiles (configFiles arguments envVariables)
  return { disk := .ofFiles files, envVariables, check := fun _ _ => .notStarted TextEngine.notFound }

def write (output : IO.FS.Stream) (messages : List Outgoing) : IO Unit := do
  for message in messages do
    output.write ⟨(Frame.encode (Json.write message.toJson)).toArray⟩
  output.flush

partial def serve {S : Type} (handler : Handler S) (input output : IO.FS.Stream) (buffer : Bytes)
    (server : Server S) : IO UInt32 := do
  let code := if server.isClean then 0 else 1
  if server.exited then
    return code
  let piece ← input.read readSize.toUSize
  if piece.isEmpty then
    return code
  let (buffer, server) := server.readPiece handler buffer piece.toList
  write output server.sent
  serve handler input output buffer { server with sent := [] }

def start (arguments : ServerArguments) : IO UInt32 := do
  let host ← readHost arguments
  match CommandLine.configure host arguments with
  | .error e =>
    IO.eprintln ("Error: " ++ e.message)
    return 1
  | .ok configuration =>
    let launcher := WorkerLink.launcher (TextEngine.program "mockengine")
    serve (Session.handler { launcher, host }) (← IO.getStdin) (← IO.getStdout) []
      (.start (ServerRun.session configuration))

end ServerProgram

end PythonAssist

def main (arguments : List String) : IO UInt32 := do
  match PythonAssist.CommandLine.read PythonAssist.ServerArguments.forms arguments with
  | .options given =>
    match PythonAssist.ServerArguments.ofGiven given with
    | some arguments => PythonAssist.ServerProgram.start arguments
    | none => return 2
  | .version =>
    IO.println (PythonAssist.serverName ++ " " ++ PythonAssist.serverVersion)
    return 0
  | .help =>
    IO.println ("Usage: " ++ PythonAssist.serverName ++ " [OPTIONS]")
    return 0
  | .invalid => return 2
