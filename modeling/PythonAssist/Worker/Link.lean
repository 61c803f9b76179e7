import PythonAssist.Engine.Codec
import PythonAssist.Wire.Pieces
import PythonAssist.Worker.Client

set_option autoImplicit false

namespace PythonAssist

structure Program (P : Type) where
  start : List String → Except String P
  feed : Bytes → P → List Bytes × P
  hasEnded : P → Bool

structure WorkerLink (P : Type) where
  command : List String
  running : Option (WorkerClient × P)

namespace WorkerLink

variable {P A : Type}

def idle (command : List String) : WorkerLink P := { command, running := none }

-- The worker reads what is sent, and everything it writes is read.
def transmit (program : Program P) (bytes : Bytes) (client : WorkerClient) (worker : P) :
    WorkerClient × P :=
  if program.hasEnded worker then (client, worker)
  else
    let (written, worker) := program.feed bytes worker
    let client := (written.flatMap reads).foldl WorkerClient.receive client
    (if program.hasEnded worker then client.close else client, worker)

def request (program : Program P) (method : String) (params : Json) :
    Answered (WorkerLink P) Json :=
  fun link =>
    match link.running with
    | none => (.error WorkerClient.exited, link)
    | some (client, worker) =>
      if !client.alive then (.error WorkerClient.exited, link)
      else
        let ((id, bytes), client) := client.request method params
        let (client, worker) := transmit program bytes client worker
        (client.outcome id method, { link with running := some (client.abandon id, worker) })

def call (program : Program P) (method : String) (params : Json) (decode : Json → Decoded A) :
    Answered (WorkerLink P) A :=
  fun link =>
    match request program method params link with
    | (.error e, link) => (.error e, link)
    | (.ok value, link) =>
      match decode value with
      | .ok result => (.ok result, link)
      | .error cause => (.error (.malformed cause), link)

def notify (program : Program P) (method : String) (params : Json) (link : WorkerLink P) :
    WorkerLink P :=
  match link.running with
  | none => link
  | some (client, worker) =>
    { link with running := some (transmit program (WorkerClient.notification method params)
        client worker) }

def scriptToJson (script : ScriptId) : List (String × Json) := [("handle", .nat script)]

def placeToJson (script : ScriptId) (place : Place) : Json :=
  .object [("column", .uint32 place.column), ("handle", .nat script), ("line", .uint32 place.line)]

def codeToJson (code : String) (path : Option Path) : Json :=
  .object [("code", .string code), ("path", .option Path.toJson path)]

def decodeOpened : Json → Decoded ScriptId :=
  Reader.decode (UInt64.toNat <$> Reader.required "handle" Json.decodeUInt64) "struct Opened"

def asked (program : Program P) (method : String) (decode : Json → Decoded A)
    (script : ScriptId) (place : Place) : Answered (WorkerLink P) A :=
  call program method (placeToJson script place) decode

def engine (program : Program P) : Engine (WorkerLink P) :=
  { openScript := fun code path =>
      call program "script/open" (codeToJson code path) decodeOpened
    release := fun script => notify program "script/release" (.object (scriptToJson script))
    syntaxErrors := fun script =>
      call program "script/syntax_errors" (.object (scriptToJson script))
        (Json.decodeList SyntaxErrorSpan.decode)
    complete := asked program "script/complete" (Json.decodeList Completion.decode)
    help := asked program "script/help" (Json.decodeList Name.decode)
    infer := asked program "script/infer" (Json.decodeList Name.decode)
    signatures := asked program "script/signatures" (Json.decodeList Signature.decode)
    goto := asked program "script/goto" (Json.decodeList Name.decode)
    references := asked program "script/references" (Json.decodeList Name.decode)
    names := fun script allScopes =>
      call program "script/names"
        (.object [("all_scopes", .bool allScopes), ("handle", .nat script)])
        (Json.decodeList SymbolName.decode)
    inlineAt := asked program "script/inline" Refactoring.decode
    unusedNames := fun code path =>
      call program "pyflakes/check" (codeToJson code path) (Json.decodeList FlakeReport.decode)
    styleCheck := fun path lines options =>
      call program "pycodestyle/check"
        (.object [("lines", .strings lines), ("options", options.toJson),
          ("path", .option Path.toJson path)])
        (Json.decodeList StyleFinding.decode) }

def connect (program : Program P) (venv root : Option Path) : Answered (WorkerLink P) Environment :=
  call program "initialize"
    (.object [("project_root", .option Path.toJson root), ("venv", .option Path.toJson venv)])
    Environment.decode

def launch (program : Program P) (venv root : Option Path) (link : WorkerLink P) :
    Except String Environment × WorkerLink P :=
  match link.command with
  | [] => (.error "worker command is empty", link)
  | name :: arguments =>
    match program.start (name :: arguments) with
    | .error reason =>
      (.error ("Failed to spawn analysis worker: " ++ name ++ ": " ++ reason), link)
    | .ok worker =>
      match connect program venv root { link with running := some (.fresh, worker) } with
      | (.ok environment, link) => (.ok environment, link)
      | (.error e, link) =>
        (.error ("analysis worker failed to initialize: " ++ e.report), link)

def launcher (program : Program P) : Launcher (WorkerLink P) :=
  { launch := launch program, engine := engine program }

end WorkerLink

end PythonAssist
