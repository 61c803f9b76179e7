import PythonAssist.Text.Units
import PythonAssist.Diagnostic
import PythonAssist.Uri.FilePath

set_option autoImplicit false

namespace PythonAssist

structure Location where
  uri : Uri
  range : Range
  deriving DecidableEq, Repr

-- A width that no column can hold counts as none.
def addColumns (column : UInt32) (width : Nat) : UInt32 :=
  clampToPosition (column.toNat + if width ≤ positionLimit then width else 0)

namespace Location

def ofName (name : Name) : Option Location :=
  match name.modulePath with
  | none => none
  | some path =>
    match Uri.ofPath path with
    | .error _ => none
    | .ok uri =>
      let line := previous name.line
      some
        { uri
          range :=
            { start := { line, character := name.column }
              stop := { line, character := addColumns name.column (unitCount name.name) } } }

def ofNames (names : List Name) : List Location := names.filterMap ofName

def toJson (location : Location) : Json :=
  .object [("range", location.range.toJson), ("uri", .string location.uri.text)]

end Location

end PythonAssist
