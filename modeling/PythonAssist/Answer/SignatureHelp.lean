import PythonAssist.Json.Value
import PythonAssist.Engine.Codec

set_option autoImplicit false

namespace PythonAssist

structure SignatureHelp where
  label : String
  parameters : List String
  activeParameter : UInt32
  deriving DecidableEq, Repr

namespace SignatureHelp

def best : Option (Signature × UInt32) → List Signature → Option (Signature × UInt32)
  | found, [] => found
  | found, signature :: rest =>
    match signature.index with
    | none => best found rest
    | some index =>
      match found with
      | none => best (some (signature, index)) rest
      | some (other, current) =>
        if current < index then best (some (signature, index)) rest
        else best (some (other, current)) rest

def ofSignatures (signatures : List Signature) : Option SignatureHelp :=
  (best none signatures).map fun (signature, index) =>
    { label := signature.label, parameters := signature.params.map SignatureParam.name
      activeParameter := index }

def toJson (help : SignatureHelp) : Json :=
  .object [("activeParameter", .uint32 help.activeParameter), ("activeSignature", .nat 0),
    ("signatures", .array [.object [("label", .string help.label),
      ("parameters", .list (fun name => .object [("label", .string name)]) help.parameters)]])]

end SignatureHelp

end PythonAssist
