import PythonAssist.Lint.Flakes
import PythonAssist.Lint.StyleFiles
import PythonAssist.Session.State

set_option autoImplicit false

namespace PythonAssist

inductive Validation where
  | syntaxErrors (diagnostics : List Diagnostic)
  | findings (diagnostics : List Diagnostic)
  deriving DecidableEq, Repr

namespace Validation

def diagnostics : Validation → List Diagnostic
  | .syntaxErrors found => found
  | .findings found => found

def isSound : Validation → Bool
  | .syntaxErrors _ => false
  | .findings _ => true

end Validation

namespace Session

variable {W : Type}

def styleOptionsFor (host : Host) (folder : Option Path) : Action W StyleOptions := do
  let session ← get
  let (options, styleOptions) :=
    session.styleOptions.getOrLoad folder session.revision.style fun _ =>
      StyleOptions.load host.disk folder session.settings.styleConfig
  set { session with styleOptions }
  return options

def typeConfigFor (host : Host) (folder : Option Path) : Action W String := do
  let session ← get
  let (config, typeConfigs) :=
    session.typeConfigs.getOrLoad folder session.revision.typeCheck fun _ =>
      TypeCheck.findConfigFile host folder
  set { session with typeConfigs }
  return config

def examine (engine : Engine W) (handle : DocumentHandle) (path : Option Path)
    (options : StyleOptions) : Action W Validation := do
  let errors ← ask (engine.syntaxErrors handle.script)
  if !errors.isEmpty then
    return .syntaxErrors (syntaxDiagnostics errors)
  let categories := (← get).settings.flakeErrors
  let reports ← ask (engine.unusedNames handle.text path)
  let findings ← ask (engine.styleCheck path handle.sourceLines options)
  return .findings
    (flakeDiagnostics reports handle.lines categories ++
      styleDiagnostics findings handle.lines options)

def publish (handle : DocumentHandle) (diagnostics : List Diagnostic) : Action W Unit :=
  send (.publishDiagnostics handle.uri diagnostics handle.version)

def beginCheck (host : Host) (environment : Environment) (handle : DocumentHandle) (file : Path)
    (folder : Option Path) (base : List Diagnostic) : Action W Unit := do
  let configFile ← typeConfigFor host folder
  let session ← get
  let check : TypeCheck :=
    { python := session.python, executable := environment.executable
      version := environment.version, configFile, file, lines := handle.lines }
  changeChecks fun checks =>
    checks.start handle.uri { check, base, version := handle.version }

def validate (surroundings : Surroundings W) (uri : Uri) : Action W Unit := do
  let environment ← started
  let engine := surroundings.launcher.engine
  let handle ← handleFor engine uri
  let document ← openDocument uri
  let folder := (← get).workspace.folderPathFor uri
  let options ← styleOptionsFor surroundings.host folder
  let validation ← examine engine handle document.path options
  publish handle validation.diagnostics
  match document.path, (← get).settings.typeCheck && validation.isSound with
  | some file, true =>
    beginCheck surroundings.host environment handle file folder validation.diagnostics
  | _, _ => changeChecks fun checks => checks.cancel uri

end Session

end PythonAssist
