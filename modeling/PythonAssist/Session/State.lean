import PythonAssist.Answer.CompletionItem
import PythonAssist.Answer.Symbol
import PythonAssist.Answer.WorkspaceEdit
import PythonAssist.FolderCache
import PythonAssist.Handle
import PythonAssist.Schedule
import PythonAssist.Settings
import PythonAssist.TypeCheck
import PythonAssist.Workspace

set_option autoImplicit false

namespace PythonAssist

-- A type check under way: what it will publish, behind the findings of the pass that began it.
structure PendingCheck where
  check : TypeCheck
  base : List Diagnostic
  version : Int
  deriving DecidableEq, Repr

structure Session (W : Type) where
  world : W
  python : String
  settings : Settings
  revision : SettingsRevision
  environment : Option Environment
  documents : DocumentStore
  handles : HandleCache
  workspace : Workspace
  completionStyle : Option CompletionStyle
  symbolStyle : SymbolStyle
  styleOptions : FolderCache StyleOptions
  typeConfigs : FolderCache String
  checks : Schedule PendingCheck
  notices : List ClientNotice

structure Surroundings (W : Type) where
  launcher : Launcher W
  host : Host

inductive SessionError where
  | notStarted
  | launch (reason : String)
  | handle (cause : HandleError)
  | engine (cause : EngineError)
  | symbols (cause : ParentAfterChild)
  | edits (cause : DocumentEditError)
  | settings (cause : SettingsError)
  deriving DecidableEq, Repr

def SessionError.message : SessionError → String
  | .notStarted => "Analysis engine not started"
  | .launch reason => "Failed to start the analysis engine: " ++ reason
  | .handle cause => cause.report
  | .engine cause => cause.report
  | .symbols cause => cause.message
  | .edits cause => cause.message
  | .settings cause => cause.message

-- A failed action keeps what it has changed.
abbrev Action (W A : Type) := ExceptT SessionError (StateM (Session W)) A

namespace Session

variable {W A : Type}

def create (python : String) (settings : Settings) (world : W) : Session W :=
  { world, python, settings
    revision := .start, environment := none
    documents := .empty, handles := .empty, workspace := .empty
    completionStyle := none, symbolStyle := .flat
    styleOptions := .empty, typeConfigs := .empty, checks := .empty, notices := [] }

def fail (e : SessionError) : Action W A := throw e

def started : Action W Environment := do
  match (← get).environment with
  | some environment => return environment
  | none => fail .notStarted

def send (notice : ClientNotice) : Action W Unit :=
  modify fun session => { session with notices := session.notices ++ [notice] }

def setHandles (result : HandleCache × W) : Action W Unit :=
  modify fun session => { session with handles := result.1, world := result.2 }

def ask (call : Answered W A) : Action W A := do
  let (result, world) := call (← get).world
  modify fun session => { session with world }
  match result with
  | .ok value => return value
  | .error cause => fail (.engine cause)

def evict (engine : Engine W) (uri : Uri) : Action W Unit := do
  let session ← get
  setHandles (session.handles.evict engine uri session.world)

def keepHandle (result : Except HandleError DocumentHandle × HandleCache × W) :
    Action W DocumentHandle := do
  setHandles result.2
  match result.1 with
  | .ok handle => return handle
  | .error cause => fail (.handle cause)

def handleFor (engine : Engine W) (uri : Uri) : Action W DocumentHandle := do
  let _ ← started
  let session ← get
  keepHandle (session.handles.obtain engine session.documents uri session.world)

def rebuildHandle (engine : Engine W) (uri : Uri) : Action W DocumentHandle := do
  let _ ← started
  let session ← get
  keepHandle (session.handles.build engine session.documents uri session.world)

def openDocument (uri : Uri) : Action W Document := do
  match (← get).documents.find? uri with
  | some document => return document
  | none => fail (.handle (.notOpen uri))

def storeDocuments (uri : Uri) (documents : Option DocumentStore) : Action W Unit := do
  match documents with
  | some documents => modify fun session => { session with documents }
  | none => fail (.handle (.notOpen uri))

def changeChecks (f : Schedule PendingCheck → Schedule PendingCheck) : Action W Unit :=
  modify fun session => { session with checks := f session.checks }

end Session

end PythonAssist
