import PythonAssist.Diagnostic

set_option autoImplicit false

namespace PythonAssist

def flakeDiagnostic (lines : List String) (errorCategories : List String) :
    FlakeReport → Diagnostic
  | .flake category line column message =>
    { range := tokenRange lines (previous line) column
      severity := if errorCategories.contains category then .error else .warning
      code := none, source := .pyflakes, message }
  | .syntaxError message line column =>
    { range := tokenRange lines (previous line) (column.getD 0)
      severity := .error, code := none, source := .pyflakes, message }
  | .unexpectedError message =>
    { range := { start := ⟨0, 0⟩, stop := ⟨0, 0⟩ }
      severity := .error, code := none, source := .pyflakes, message }

def flakeDiagnostics (reports : List FlakeReport) (lines : List String)
    (errorCategories : List String) : List Diagnostic :=
  reports.map (flakeDiagnostic lines errorCategories)

end PythonAssist
