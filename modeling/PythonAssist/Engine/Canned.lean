import PythonAssist.Table
import PythonAssist.Engine.Codec
import PythonAssist.Engine.Interface

set_option autoImplicit false

namespace PythonAssist

structure CannedAnswers where
  syntaxErrors : List SyntaxErrorSpan
  completions : List Completion
  help : List Name
  infer : List Name
  signatures : List Signature
  goto : List Name
  references : List Name
  names : List SymbolName
  inlined : Option Refactoring

inductive EngineMethod where
  | openScript
  | syntaxErrors
  | complete
  | help
  | infer
  | signatures
  | goto
  | references
  | names
  | inlineAt
  | unusedNames
  | styleCheck
  deriving DecidableEq, Repr

def EngineMethod.text : EngineMethod → String
  | .openScript => "open"
  | .syntaxErrors => "syntax_errors"
  | .complete => "complete"
  | .help => "help"
  | .infer => "infer"
  | .signatures => "signatures"
  | .goto => "goto"
  | .references => "references"
  | .names => "names"
  | .inlineAt => "inline"
  | .unusedNames => "pyflakes"
  | .styleCheck => "pycodestyle"

inductive EngineCall where
  | launched (venv root : Option Path)
  | opened (script : ScriptId) (path : Option Path) (code : String)
  | openFailed (path : Option Path) (code : String)
  | released (script : ScriptId)
  | syntaxErrors (script : ScriptId)
  | asked (method : EngineMethod) (script : ScriptId) (place : Place)
  | names (script : ScriptId) (allScopes : Bool)
  | unusedNames (path : Option Path) (code : String)
  | styleCheck (path : Option Path) (lines : List String) (options : StyleOptions)
  deriving DecidableEq, Repr

structure CannedEngine where
  answers : CannedAnswers
  flakes : List FlakeReport
  style : List StyleFinding
  environment : Environment
  launchError : Option String
  failures : List (String × EngineError)
  scripts : Table ScriptId CannedAnswers
  opened : Nat
  calls : List EngineCall

namespace CannedEngine

def nothingToInline : EngineError := .refactoring "No name to inline here"

def log (call : EngineCall) (engine : CannedEngine) : CannedEngine :=
  { engine with calls := engine.calls ++ [call] }

def failure? (engine : CannedEngine) (method : EngineMethod) : Option EngineError :=
  (engine.failures.find? fun entry => entry.1 = method.text).map Prod.snd

def openScript (code : String) (path : Option Path) : Answered CannedEngine ScriptId :=
  fun engine =>
    match engine.failure? .openScript with
    | some e => (.error e, engine.log (.openFailed path code))
    | none =>
      let script := engine.opened + 1
      (.ok script,
        { engine with opened := script, scripts := engine.scripts.insert script engine.answers }.log
          (.opened script path code))

def release (script : ScriptId) (engine : CannedEngine) : CannedEngine :=
  { engine with scripts := engine.scripts.erase script }.log (.released script)

def prepared {A : Type} (method : EngineMethod) (call : EngineCall) (script : ScriptId)
    (pick : CannedAnswers → Except EngineError A) : Answered CannedEngine A :=
  fun engine =>
    let result :=
      match engine.failure? method with
      | some e => .error e
      | none => pick ((engine.scripts.find? script).getD engine.answers)
    (result, engine.log call)

def asked {A : Type} (method : EngineMethod) (pick : CannedAnswers → A) (script : ScriptId)
    (place : Place) : Answered CannedEngine A :=
  prepared method (.asked method script place) script fun answers => .ok (pick answers)

def current {A : Type} (method : EngineMethod) (call : EngineCall) (pick : CannedEngine → A) :
    Answered CannedEngine A :=
  fun engine =>
    let result :=
      match engine.failure? method with
      | some e => .error e
      | none => .ok (pick engine)
    (result, engine.log call)

def engine : Engine CannedEngine :=
  { openScript
    release
    syntaxErrors := fun script =>
      prepared .syntaxErrors (.syntaxErrors script) script fun answers => .ok answers.syntaxErrors
    complete := asked .complete CannedAnswers.completions
    help := asked .help CannedAnswers.help
    infer := asked .infer CannedAnswers.infer
    signatures := asked .signatures CannedAnswers.signatures
    goto := asked .goto CannedAnswers.goto
    references := asked .references CannedAnswers.references
    names := fun script allScopes =>
      prepared .names (.names script allScopes) script fun answers => .ok answers.names
    inlineAt := fun script place =>
      prepared .inlineAt (.asked .inlineAt script place) script fun answers =>
        match answers.inlined with
        | some refactoring => .ok refactoring
        | none => .error nothingToInline
    unusedNames := fun code path =>
      current .unusedNames (.unusedNames path code) CannedEngine.flakes
    styleCheck := fun path lines options =>
      current .styleCheck (.styleCheck path lines options) CannedEngine.style }

def launch (venv root : Option Path) (engine : CannedEngine) :
    Except String Environment × CannedEngine :=
  let result :=
    match engine.launchError with
    | some reason => .error reason
    | none => .ok engine.environment
  (result, engine.log (.launched venv root))

def launcher : Launcher CannedEngine := { launch, engine }

def insertRelease (script : ScriptId) : List EngineCall → List EngineCall
  | .released other :: rest =>
    if other < script then .released other :: insertRelease script rest
    else .released script :: .released other :: rest
  | calls => .released script :: calls

def ordered : List EngineCall → List EngineCall
  | [] => []
  | .released script :: rest => insertRelease script (ordered rest)
  | call :: rest => call :: ordered rest

def takeCalls (engine : CannedEngine) : List EngineCall × CannedEngine :=
  (ordered engine.calls, { engine with calls := [] })

end CannedEngine

namespace EngineCall

def pathToJson (path : Option Path) : Json := .option Path.toJson path

def toJson : EngineCall → Json
  | .launched venv root => .array [.string "launch", pathToJson venv, pathToJson root]
  | .opened script path code =>
    .array [.string "open", .nat script, pathToJson path, .string code]
  | .openFailed path code => .array [.string "open_failed", pathToJson path, .string code]
  | .released script => .array [.string "release", .nat script]
  | .syntaxErrors script => .array [.string "syntax_errors", .nat script]
  | .asked method script place =>
    .array [.string method.text, .nat script, .uint32 place.line, .uint32 place.column]
  | .names script allScopes => .array [.string "names", .nat script, .bool allScopes]
  | .unusedNames path code => .array [.string "pyflakes", pathToJson path, .string code]
  | .styleCheck path lines options =>
    .array [.string "pycodestyle", pathToJson path, .strings lines, options.toJson]

end EngineCall

end PythonAssist
