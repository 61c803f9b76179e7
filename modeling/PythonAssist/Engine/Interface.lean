import PythonAssist.Engine.Payload
import PythonAssist.Json.Decode
import PythonAssist.Lint.StyleOptions

set_option autoImplicit false

namespace PythonAssist

inductive EngineError where
  | refactoring (reason : String)
  | worker (reason : String)
  | unavailable (reason : String)
  | malformed (cause : DecodeError)
  deriving DecidableEq, Repr

def EngineError.message : EngineError → String
  | .refactoring reason => "refactoring not applicable: " ++ reason
  | .worker reason => "analysis worker error: " ++ reason
  | .unavailable reason => "analysis worker unavailable: " ++ reason
  | .malformed cause => "malformed worker response: " ++ cause.message

def EngineError.report (e : EngineError) : String :=
  match e with
  | .malformed cause => e.message ++ ": " ++ cause.message
  | _ => e.message

abbrev ScriptId := Nat

-- A place in a script. Lines count from 1, columns from 0.
structure Place where
  line : UInt32
  column : UInt32
  deriving DecidableEq, Repr

abbrev Answered (W A : Type) := W → Except EngineError A × W

structure Engine (W : Type) where
  openScript : String → Option Path → Answered W ScriptId
  release : ScriptId → W → W
  syntaxErrors : ScriptId → Answered W (List SyntaxErrorSpan)
  complete : ScriptId → Place → Answered W (List Completion)
  help : ScriptId → Place → Answered W (List Name)
  infer : ScriptId → Place → Answered W (List Name)
  signatures : ScriptId → Place → Answered W (List Signature)
  goto : ScriptId → Place → Answered W (List Name)
  references : ScriptId → Place → Answered W (List Name)
  names : ScriptId → Bool → Answered W (List SymbolName)
  inlineAt : ScriptId → Place → Answered W Refactoring
  unusedNames : String → Option Path → Answered W (List FlakeReport)
  styleCheck : Option Path → List String → StyleOptions → Answered W (List StyleFinding)

structure Launcher (W : Type) where
  launch : Option Path → Option Path → W → Except String Environment × W
  engine : Engine W

end PythonAssist
