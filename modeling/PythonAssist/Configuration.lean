import PythonAssist.Settings
import PythonAssist.Configuration.NumberWord
import PythonAssist.Configuration.Source

set_option autoImplicit false

namespace PythonAssist

structure Configuration where
  python : String
  workerCommand : Option (List String)
  settings : Settings
  deriving DecidableEq, Repr

inductive ConfigurationError where
  | unreadable
  | wrongShape
  deriving DecidableEq, Repr

def ConfigurationError.message : ConfigurationError → String
  | .unreadable => "Failed to build configuration"
  | .wrongShape => "Failed to deserialize configuration"

namespace Configuration

def defaultPython : String := "python3"

def variableFront : String := "pyls_bridge_"

def lower (text : String) : String := String.ofList (text.toList.map Char.toLower)

def dotted : List Char → List Char
  | '_' :: '_' :: rest => '.' :: dotted rest
  | c :: rest => c :: dotted rest
  | [] => []

def variableKey (name : String) : Option String :=
  (stripFront variableFront.toList (lower name).toList).map fun rest =>
    String.ofList (dotted rest)

def variableValue (key value : String) : Json :=
  let word := value.toList
  if lower value = "true" then .bool true
  else if lower value = "false" then .bool false
  else
    match integerWord? word, realWord? word with
    | some n, _ => .integer n
    | none, some x => .number (.real x)
    | none, none =>
      if key = "worker_command" then
        .strings ((splitOn ' ' word).map String.ofList)
      else .string value

def variableFields (envVariables : List (String × String)) : Fields :=
  envVariables.filterMap fun (name, value) =>
    (variableKey name).map fun key => (key, variableValue key value)

def optionalKey {A : Type} (decode : Json → Option A) (default : A) (key : String)
    (fields : Fields) : Option A :=
  match Json.field? key fields with
  | none => some default
  | some value => decode value

def orNull {A : Type} (decode : Json → Option A) : Json → Option (Option A)
  | .null => some none
  | value => (decode value).map some

def readSettings : Json → Option Settings
  | .object fields => do
    let flakeErrors ←
      optionalKey ConfigSource.asTexts Settings.default.flakeErrors "pyflakes_errors" fields
    let styleConfig ← optionalKey (orNull ConfigSource.asText) none "pycodestyle_config" fields
    let helpOnHover ←
      optionalKey ConfigSource.asFlag Settings.default.helpOnHover "help_on_hover" fields
    let typeCheck ← optionalKey ConfigSource.asFlag Settings.default.typeCheck "mypy_enabled" fields
    return { flakeErrors, styleConfig := styleConfig.map Path.ofString, helpOnHover, typeCheck }
  | _ => none

def ofFields (fields : Fields) : Option Configuration := do
  let python ← optionalKey ConfigSource.asText defaultPython "python" fields
  let workerCommand ← optionalKey (orNull ConfigSource.asTexts) none "worker_command" fields
  let settings ← optionalKey readSettings Settings.default "settings" fields
  return { python, workerCommand, settings }

def userFile (host : Host) : Option Path :=
  match host.configDirectory? with
  | none => none
  | some directory =>
    let path := (directory.join "pyls-bridge").join "config.toml"
    if host.disk.isThere path then some path else none

def readAll (disk : Disk) : List Path → Fields → Option Fields
  | [], known => some known
  | path :: rest, known =>
    match ConfigSource.readFile disk path with
    | none => none
    | some fields => readAll disk rest (ConfigSource.addTo known fields)

def load (host : Host) (explicit : Option Path) : Except ConfigurationError Configuration :=
  match readAll host.disk ((userFile host).toList ++ explicit.toList)
      [("python", .string defaultPython)] with
  | none => .error .unreadable
  | some fields =>
    match ofFields (ConfigSource.addTo fields (variableFields host.envVariables)) with
    | none => .error .wrongShape
    | some configuration => .ok configuration

end Configuration

end PythonAssist
