import PythonAssist.Text.Blank
import PythonAssist.Text.Split
import PythonAssist.Diagnostic
import PythonAssist.Host
import PythonAssist.Wire.ClientNotice

set_option autoImplicit false

namespace PythonAssist

structure TypeCheck where
  python : String
  executable : Path
  version : String
  configFile : String
  file : Path
  lines : List String
  deriving DecidableEq, Repr

namespace TypeCheck

def shownAs : List String :=
  ["--hide-error-context", "--show-column-numbers", "--show-error-codes", "--no-pretty",
    "--show-absolute-path", "--no-error-summary"]

def arguments (check : TypeCheck) : List Path :=
  ["-m", "mypy", "--python-executable"].map Path.ofString ++ [check.executable] ++
    (["--python-version", check.version, "--config-file", check.configFile] ++ shownAs).map
      Path.ofString ++
    [check.file]

def projectFiles : List String := ["mypy.ini", ".mypy.ini", "pyproject.toml", "setup.cfg"]

def userFiles (host : Host) : List Path :=
  (match host.valueOf? "XDG_CONFIG_HOME" with
    | none => []
    | some directory => [((Path.ofString directory).join "mypy").join "config"]) ++
  (match host.home? with
    | none => []
    | some home => [((home.join ".config").join "mypy").join "config", home.join ".mypy.ini"])

def findConfigFile (host : Host) (folder : Option Path) : String :=
  let project := match folder with
    | none => []
    | some folder => projectFiles.map folder.join
  match (project ++ userFiles host).find? host.disk.isThere with
  | none => ""
  | some path => path.display

structure OutputLine where
  file : List Char
  row : List Char
  column : List Char
  severity : List Char
  message : List Char
  deriving DecidableEq, Repr

-- Four colons end the fields, further ones belong to the message.
def OutputLine.ofChars (line : List Char) : Option OutputLine := do
  let (file, rest) ← splitFirst ':' line
  let (row, rest) ← splitFirst ':' rest
  let (column, rest) ← splitFirst ':' rest
  let (severity, message) ← splitFirst ':' rest
  return { file, row, column, severity, message }

def number? (text : List Char) : Option UInt32 :=
  (unsigned? 4294967296 (trimChars text)).map UInt32.ofNat

def severityOf (word : List Char) : Severity :=
  if trimChars word = "note".toList then .hint else .warning

def finding (file : Path) (lines : List String) (line : List Char) : Option Diagnostic := do
  let fields ← OutputLine.ofChars line
  if fields.file ≠ file.display.toList then none
  let row ← number? fields.row
  let column ← number? fields.column
  return {
    range := tokenRange lines (previous row) (previous column)
    severity := severityOf fields.severity
    code := none, source := .mypy
    message := String.ofList (trimChars fields.message) }

def findings (output : String) (file : Path) (lines : List String) : List Diagnostic :=
  (splitOn '\n' output.toList).filterMap (finding file lines)

def outcome (check : TypeCheck) : CheckerRun → List Diagnostic × List ClientNotice
  | .notStarted reason => ([], [.showMessage .warning ("mypy check error: " ++ reason)])
  | .finished stdout stderr =>
    let complaint := Utf8.decodeLossy stderr
    if isBlankText complaint then
      (findings (Utf8.decodeLossy stdout) check.file check.lines, [])
    else ([], [.showMessage .error complaint])

def run (host : Host) (check : TypeCheck) : List Diagnostic × List ClientNotice :=
  check.outcome (host.check check.python check.arguments)

end TypeCheck

end PythonAssist
