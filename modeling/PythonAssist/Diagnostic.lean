import PythonAssist.Text.Lines
import PythonAssist.Text.Units
import PythonAssist.Position
import PythonAssist.Engine.Payload

set_option autoImplicit false

namespace PythonAssist

inductive Severity where
  | error
  | warning
  | information
  | hint
  deriving DecidableEq, Repr

inductive DiagnosticSource where
  | jedi
  | pyflakes
  | pycodestyle
  | mypy
  deriving DecidableEq, Repr

structure Diagnostic where
  range : Range
  severity : Severity
  code : Option String
  source : DiagnosticSource
  message : String
  deriving DecidableEq, Repr

def Severity.toJson : Severity → Json
  | .error => .nat 1
  | .warning => .nat 2
  | .information => .nat 3
  | .hint => .nat 4

def DiagnosticSource.text : DiagnosticSource → String
  | .jedi => "jedi"
  | .pyflakes => "pyflakes"
  | .pycodestyle => "pycodestyle"
  | .mypy => "mypy"

def Diagnostic.toJson (d : Diagnostic) : Json :=
  .object
    ((match d.code with
      | none => []
      | some code => [("code", .string code)]) ++
    [("message", .string d.message), ("range", d.range.toJson),
      ("severity", d.severity.toJson), ("source", .string d.source.text)])

def previous (line : UInt32) : UInt32 := if line = 0 then 0 else line - 1

-- From a column to the end of its line, and never backwards. A line that does not exist gives
-- an empty range.
def tokenRange (lines : List String) (line column : UInt32) : Range :=
  let stop := match lines[line.toNat]? with
    | none => column
    | some text => max (clampToPosition (unitCount (lineContent text))) column
  { start := { line, character := column }, stop := { line, character := stop } }

def syntaxDiagnostic (e : SyntaxErrorSpan) : Diagnostic :=
  { range :=
      { start := { line := previous e.line, character := e.column }
        stop := { line := previous e.untilLine, character := e.untilColumn } }
    severity := .error, code := none, source := .jedi, message := "Invalid syntax" }

def syntaxDiagnostics (errors : List SyntaxErrorSpan) : List Diagnostic :=
  errors.map syntaxDiagnostic

end PythonAssist
