import PythonAssist.Json.Value
import PythonAssist.Engine.Payload

set_option autoImplicit false

namespace PythonAssist

structure Hover where
  text : String
  deriving DecidableEq, Repr

namespace Hover

def separator : String := "\n----------\n"

def joined (docstrings : List String) : String := separator.intercalate docstrings

def ofNames (names : List Name) : Option Hover :=
  let text := joined (names.map Name.docstring)
  if text.isEmpty then none else some { text }

def toJson (hover : Hover) : Json :=
  .object [("contents", .object [("kind", .string "plaintext"), ("value", .string hover.text)])]

end Hover

end PythonAssist
