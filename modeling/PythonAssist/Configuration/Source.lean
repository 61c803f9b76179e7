import PythonAssist.Text.Utf8
import PythonAssist.Json.Reader
import PythonAssist.Configuration.Ini
import PythonAssist.Configuration.Json5
import PythonAssist.Configuration.Toml
import PythonAssist.Configuration.Yaml
import PythonAssist.Host

set_option autoImplicit false

namespace PythonAssist

abbrev Fields := List (String × Json)

namespace ConfigSource

def fieldsOf : Option Json → Fields
  | some (.object fields) => fields
  | _ => []

mutual
def overlay (old : Option Json) : Json → Json
  | .object fields => .object (overlayAll (fieldsOf old) fields)
  | value => value

def overlayAll (known : Fields) : List (String × Json) → Fields
  | [] => known
  | (key, value) :: rest =>
    overlayAll (Json.insert key (overlay (Json.field? key known) value) known) rest
end

def isKeyChar (c : Char) : Bool := c.isAlphanum || c == '_' || c == '-'

def keyPath (key : String) : List String :=
  let names := splitOn '.' key.toList
  if names.all fun name => !name.isEmpty && name.all isKeyChar then names.map String.ofList
  else [key]

def setAt (value : Json) : List String → Fields → Fields
  | [], fields => fields
  | [key], fields => Json.insert key (overlay (Json.field? key fields) value) fields
  | key :: path, fields =>
    Json.insert key (.object (setAt value path (fieldsOf (Json.field? key fields)))) fields

def getAt : List String → Json → Option Json
  | [], value => some value
  | key :: path, value => (value.get? key).bind (getAt path)

def addTo (known source : Fields) : Fields :=
  source.foldl (fun fields entry => setAt entry.2 (keyPath entry.1) fields) known

inductive Format where
  | toml
  | json
  | json5
  | yaml
  | ini
  deriving DecidableEq, Repr

def Format.extensions : Format → List String
  | .toml => ["toml"]
  | .json => ["json"]
  | .json5 => ["json5"]
  | .yaml => ["yaml", "yml"]
  | .ini => ["ini"]

def Format.all : List Format := [.toml, .json, .json5, .yaml, .ini]

def signedNumber (value : Json) : Json :=
  match value with
  | .number (.integer n) =>
    if n ≤ 9223372036854775807 then value
    else .number (.real (.ofDecimal false n.natAbs 0))
  | value => value

mutual
def signed : Json → Json
  | .array items => .array (signedItems items)
  | .object fields => .object (signedFields fields)
  | value => signedNumber value

def signedItems : List Json → List Json
  | [] => []
  | item :: rest => signed item :: signedItems rest

def signedFields : List (String × Json) → List (String × Json)
  | [] => []
  | (key, value) :: rest => (key, signed value) :: signedFields rest
end

def Format.read (format : Format) (text : String) : Option Fields :=
  match format with
  | .toml => Toml.read text
  | .ini => Ini.read text
  | .yaml => Yaml.read text
  | .json5 => Json5.read text
  | .json =>
    match Json.read text with
    | some (.object fields) => some (signedFields fields)
    | _ => none

def dropMark : Bytes → Bytes
  | 0xEF :: 0xBB :: 0xBF :: rest => rest
  | bytes => bytes

def textOf (bytes : Bytes) : String := Utf8.decodeLossy (dropMark bytes)

def fileName (path : Path) : Bytes :=
  ((Path.splitSlashes path.bytes).filter fun name => !name.isEmpty).getLastD []

def extension (path : Path) : Bytes :=
  let name := fileName path
  let back := name.reverse.takeWhile (· != Path.dot)
  if back.length + 1 < name.length then back.reverse else []

def formatOf (path : Path) : Option Format :=
  Format.all.find? fun format =>
    format.extensions.any fun known => Utf8.encode known == extension path

def withExtension (path : Path) (extension : String) : Path :=
  { bytes := path.bytes ++ Path.dot :: Utf8.encode extension }

def readAs (format : Format) (bytes : Bytes) : Option Fields := format.read (textOf bytes)

def extensions : List (String × Format) :=
  Format.all.flatMap fun format => format.extensions.map fun known => (known, format)

def readExtended (disk : Disk) (path : Path) : List (String × Format) → Option Fields
  | [] => none
  | (extension, format) :: rest =>
    match disk.read (withExtension path extension) with
    | some bytes => readAs format bytes
    | none => readExtended disk path rest

-- A path that is no file may lack its extension.
def readFile (disk : Disk) (path : Path) : Option Fields :=
  match disk.read path with
  | some bytes => (formatOf path).bind fun format => readAs format bytes
  | none => readExtended disk path extensions

def asText : Json → Option String
  | .string text => some text
  | .bool true => some "true"
  | .bool false => some "false"
  | .number (.integer n) => some (toString n)
  | .number (.real x) => some x.renderPlain
  | _ => none

def asFlag : Json → Option Bool
  | .bool value => some value
  | .number (.integer n) => some (n != 0)
  | .number (.real x) => some (x.mantissa != 0)
  | .string text =>
    let word := String.ofList (text.toList.map Char.toLower)
    if ["1", "true", "on", "yes"].contains word then some true
    else if ["0", "false", "off", "no"].contains word then some false
    else none
  | _ => none

def asTexts : Json → Option (List String)
  | .array items => items.mapM asText
  | _ => none

end ConfigSource

end PythonAssist
