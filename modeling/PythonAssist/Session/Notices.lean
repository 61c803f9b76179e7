import PythonAssist.Session.Validation
import PythonAssist.Wire.Params

set_option autoImplicit false

namespace PythonAssist

namespace Session

variable {W : Type}

def didOpen (surroundings : Surroundings W) (item : DocumentItem) : Action W Unit := do
  modify fun session => { session with documents := session.documents.openItem item }
  evict surroundings.launcher.engine item.uri
  validate surroundings item.uri

def didChange (surroundings : Surroundings W) (uri : Uri) (version : Int)
    (changes : List ContentChange) : Action W Unit := do
  storeDocuments uri ((← get).documents.change uri version changes)
  changeChecks fun checks => checks.cancel uri
  let _ ← rebuildHandle surroundings.launcher.engine uri

def didClose (surroundings : Surroundings W) (uri : Uri) : Action W Unit := do
  modify fun session => { session with documents := session.documents.close uri }
  evict surroundings.launcher.engine uri
  changeChecks fun checks => checks.forget uri

def didSave (surroundings : Surroundings W) (uri : Uri) (text : Option String) :
    Action W Unit := do
  storeDocuments uri ((← get).documents.save uri text)
  if text.isSome then
    evict surroundings.launcher.engine uri
  validate surroundings uri

-- Documents that cannot be validated do not keep others from it.
def validateEach (surroundings : Surroundings W) : List Uri → Action W Unit
  | [] => return
  | uri :: rest => do
    tryCatch (validate surroundings uri) fun _ => return
    validateEach surroundings rest

def applySettings (surroundings : Surroundings W) (update : List (String × Json)) :
    Action W Unit := do
  let session ← get
  match session.settings.apply update with
  | .error cause => fail (.settings cause)
  | .ok (settings, change) =>
    set { session with settings, revision := session.revision.bump change }
    if change.needsRevalidation then
      validateEach surroundings session.documents.uris

def didChangeConfiguration (surroundings : Surroundings W) (settings : Json) : Action W Unit :=
  match settings.get? Settings.settingsNamespace with
  | some (.object update) => applySettings surroundings update
  | _ => return

def didChangeFolders (change : FoldersChange) : Action W Unit :=
  modify fun session => { session with workspace := session.workspace.apply change }

def receive (surroundings : Surroundings W) : Notice → Action W Unit
  | .didOpen item => didOpen surroundings item
  | .didChange uri version changes => didChange surroundings uri version changes
  | .didClose uri => didClose surroundings uri
  | .willSave _ => return
  | .didSave uri text => didSave surroundings uri text
  | .didChangeConfiguration settings => didChangeConfiguration surroundings settings
  | .didChangeFolders change => didChangeFolders change

end Session

end PythonAssist
