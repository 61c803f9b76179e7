import PythonAssist.Session

set_option autoImplicit false

namespace PythonAssist.Session

variable {W : Type}

abbrev OptionsSource (W : Type) := Host → Option Path → Action W StyleOptions

def loadOptionsFor : OptionsSource W := fun host folder => do
  return StyleOptions.load host.disk folder (← get).settings.styleConfig

def validateBy (source : OptionsSource W) (surroundings : Surroundings W) (uri : Uri) :
    Action W Unit := do
  let environment ← started
  let engine := surroundings.launcher.engine
  let handle ← handleFor engine uri
  let document ← openDocument uri
  let folder := (← get).workspace.folderPathFor uri
  let options ← source surroundings.host folder
  let validation ← examine engine handle document.path options
  publish handle validation.diagnostics
  match document.path, (← get).settings.typeCheck && validation.isSound with
  | some file, true =>
    beginCheck surroundings.host environment handle file folder validation.diagnostics
  | _, _ => changeChecks fun checks => checks.cancel uri

def passEach (pass : Uri → Action W Unit) : List Uri → Action W Unit
  | [] => return
  | uri :: rest => do
    tryCatch (pass uri) fun _ => return
    passEach pass rest

def applySettingsBy (each : List Uri → Action W Unit) (update : List (String × Json)) :
    Action W Unit := do
  let session ← get
  match session.settings.apply update with
  | .error cause => fail (.settings cause)
  | .ok (settings, change) =>
    set { session with settings, revision := session.revision.bump change }
    if change.needsRevalidation then
      each session.documents.uris

def receiveBy (pass : Uri → Action W Unit) (surroundings : Surroundings W) :
    Notice → Action W Unit
  | .didOpen item => do
    modify fun session => { session with documents := session.documents.openItem item }
    evict surroundings.launcher.engine item.uri
    pass item.uri
  | .didSave uri text => do
    storeDocuments uri ((← get).documents.save uri text)
    if text.isSome then
      evict surroundings.launcher.engine uri
    pass uri
  | .didChangeConfiguration settings =>
    match settings.get? Settings.settingsNamespace with
    | some (.object update) => applySettingsBy (passEach pass) update
    | _ => return
  | notice => receive surroundings notice

def handlerBy (source : OptionsSource W) (surroundings : Surroundings W) :
    Handler (Session W) :=
  { handler surroundings with
    receive := fun notice =>
      perform (receiveBy (validateBy source surroundings) surroundings notice) }

theorem passEach_validate (surroundings : Surroundings W) :
    passEach (validate surroundings) = validateEach surroundings := by
  funext uris
  induction uris with
  | nil => rfl
  | cons uri rest ih => rw [passEach, validateEach, ih]

theorem receiveBy_validate (surroundings : Surroundings W) (notice : Notice) :
    receiveBy (validate surroundings) surroundings notice = receive surroundings notice := by
  cases notice with
  | didChangeConfiguration settings =>
    unfold receiveBy
    rw [passEach_validate]
    rfl
  | _ => rfl

-- With the cache as its source this is the handler that serves an editor.
theorem handlerBy_styleOptionsFor (surroundings : Surroundings W) :
    handlerBy styleOptionsFor surroundings = handler surroundings := by
  have same (notice : Notice) :
      receiveBy (validateBy styleOptionsFor surroundings) surroundings notice =
        receive surroundings notice := receiveBy_validate surroundings notice
  unfold handlerBy
  simp only [same]
  rfl

end PythonAssist.Session
