import PythonAssist.Session.Background
import PythonAssist.Session.Notices
import PythonAssist.Session.Queries
import PythonAssist.Server

set_option autoImplicit false

namespace PythonAssist

def serverName : String := "pyls-bridge"

def serverVersion : String := "0.4.2"

def serverCapabilities : Json :=
  .ofFields [
    ("textDocumentSync",
      .ofFields [("openClose", .bool true), ("change", .nat 2),
        ("save", .object [("includeText", .bool false)])]),
    ("completionProvider", .object [("triggerCharacters", .strings ["."])]),
    ("hoverProvider", .bool true),
    ("signatureHelpProvider", .object [("triggerCharacters", .strings ["(", ","])]),
    ("definitionProvider", .bool true),
    ("referencesProvider", .bool true),
    ("documentSymbolProvider", .bool true),
    ("codeActionProvider",
      .object [("codeActionKinds", .strings ["refactor.inline", "refactor.extract"])]),
    ("workspace",
      .object [("workspaceFolders",
        .ofFields [("supported", .bool true), ("changeNotifications", .bool true)])])]

namespace Session

variable {W A : Type}

-- The styles and the workspace stay set even if the engine does not start.
def connect (surroundings : Surroundings W) (params : InitializeParams) : Action W Json := do
  modify fun session =>
    { session with
      workspace := .ofOffer params.offer
      completionStyle := some (if params.styles.snippets then .snippets else .plain)
      symbolStyle := if params.styles.nestedSymbols then .hierarchical else .flat }
  let session ← get
  let (result, world) :=
    surroundings.launcher.launch params.venv session.workspace.root session.world
  set { session with world }
  match result with
  | .error reason => fail (.launch reason)
  | .ok environment =>
    modify fun session => { session with environment := some environment }
    return .object [("capabilities", serverCapabilities),
      ("serverInfo", .object [("name", .string serverName), ("version", .string serverVersion)])]

def shutdown (surroundings : Surroundings W) : Action W Unit := do
  changeChecks Schedule.cancelAll
  let session ← get
  setHandles (session.handles.clear surroundings.launcher.engine session.world)

def perform (action : Action W A) (session : Session W) : Outcome (Session W) A :=
  let (result, session) := action.run session
  { result := result.mapError SessionError.message
    notices := session.notices
    state := { session with notices := [] } }

def handler (surroundings : Surroundings W) : Handler (Session W) :=
  { connect := fun params => perform (connect surroundings params)
    shutdown := perform (shutdown surroundings)
    answer := fun query => perform (answer surroundings.launcher.engine query)
    receive := fun notice => perform (receive surroundings notice) }

end Session

end PythonAssist
