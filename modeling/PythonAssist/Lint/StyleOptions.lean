import PythonAssist.Text.Split
import PythonAssist.Json.Decode
import PythonAssist.Engine.Codec
import PythonAssist.Diagnostic

set_option autoImplicit false

namespace PythonAssist

structure StyleOptions where
  ignore : List String
  select : List String
  maxLineLength : UInt32
  maxDocLength : Option UInt32
  hangClosing : Bool
  deriving DecidableEq, Repr

namespace StyleOptions

def defaultIgnore : List String :=
  ["E121", "E123", "E126", "E226", "E24", "E704", "W503", "W504"]

def defaultMaxLineLength : UInt32 := 79

def toJson (o : StyleOptions) : Json :=
  .object [("hang_closing", .bool o.hangClosing), ("ignore", .strings o.ignore),
    ("max_doc_length", .option Json.uint32 o.maxDocLength),
    ("max_line_length", .uint32 o.maxLineLength), ("select", .strings o.select)]

def startsWith (text front : String) : Bool := front.toList.isPrefixOf text.toList

def isIgnored (o : StyleOptions) (code : String) : Bool :=
  o.ignore.any (startsWith code) && !o.select.any (startsWith code)

end StyleOptions

structure StyleLayer where
  ignore : Option (List String)
  select : Option (List String)
  maxLineLength : Option UInt32
  maxDocLength : Option UInt32
  hangClosing : Option Bool
  deriving DecidableEq, Repr

namespace StyleLayer

def empty : StyleLayer :=
  { ignore := none, select := none, maxLineLength := none, maxDocLength := none
    hangClosing := none }

def layOver (upper lower : StyleLayer) : StyleLayer :=
  { ignore := upper.ignore.or lower.ignore
    select := upper.select.or lower.select
    maxLineLength := upper.maxLineLength.or lower.maxLineLength
    maxDocLength := upper.maxDocLength.or lower.maxDocLength
    hangClosing := upper.hangClosing.or lower.hangClosing }

def stack (layers : List StyleLayer) : StyleLayer :=
  layers.foldl (fun lower upper => upper.layOver lower) empty

def options (layer : StyleLayer) : StyleOptions :=
  let select := layer.select.getD []
  { ignore := if select.isEmpty then layer.ignore.getD StyleOptions.defaultIgnore else [""]
    select
    maxLineLength := layer.maxLineLength.getD StyleOptions.defaultMaxLineLength
    maxDocLength := layer.maxDocLength
    hangClosing := layer.hangClosing.getD false }

end StyleLayer

def styleDiagnostic (lines : List String) (finding : StyleFinding) : Diagnostic :=
  { range := tokenRange lines (previous finding.line) finding.column
    severity := .warning, code := some finding.code, source := .pycodestyle
    message := finding.text }

def styleDiagnostics (findings : List StyleFinding) (lines : List String)
    (options : StyleOptions) : List Diagnostic :=
  (findings.filter fun finding => !options.isIgnored finding.code).map (styleDiagnostic lines)

end PythonAssist
