import PythonAssist.Json.Decode
import PythonAssist.Engine.Codec

set_option autoImplicit false

namespace PythonAssist

structure Settings where
  flakeErrors : List String
  styleConfig : Option Path
  helpOnHover : Bool
  typeCheck : Bool
  deriving DecidableEq, Repr

structure SettingsChange where
  flakeErrors : Bool
  styleConfig : Bool
  helpOnHover : Bool
  typeCheck : Bool
  deriving DecidableEq, Repr

def SettingsChange.needsRevalidation (change : SettingsChange) : Bool :=
  change.flakeErrors || change.styleConfig || change.typeCheck

structure SettingsError where
  key : String
  cause : DecodeError
  deriving DecidableEq, Repr

def SettingsError.context (e : SettingsError) : String :=
  "Invalid value for setting '" ++ e.key ++ "'"

def SettingsError.message (e : SettingsError) : String := e.context ++ ": " ++ e.cause.message

namespace Settings

def settingsNamespace : String := "pyls_bridge"

def default : Settings :=
  { flakeErrors := ["UndefinedName"], styleConfig := none, helpOnHover := true
    typeCheck := false }

def reader : Reader Settings :=
  Settings.mk <$> .withDefault "pyflakes_errors" (Json.decodeList Json.decodeString)
      default.flakeErrors <*>
    .withDefault "pycodestyle_config" (Json.decodeOption Path.decode) default.styleConfig <*>
    .withDefault "help_on_hover" Json.decodeBool default.helpOnHover <*>
    .withDefault "mypy_enabled" Json.decodeBool default.typeCheck

def decode : Json → Decoded Settings := reader.decode "struct Settings"

def toJson (s : Settings) : Json :=
  .object [("help_on_hover", .bool s.helpOnHover), ("mypy_enabled", .bool s.typeCheck),
    ("pycodestyle_config", .option Path.toJson s.styleConfig),
    ("pyflakes_errors", .strings s.flakeErrors)]

def key {A : Type} (name : String) (decode : Json → Decoded A) (update : List (String × Json)) :
    Except SettingsError (Option A) :=
  match Json.field? name update with
  | none => .ok none
  | some value =>
    match decode value with
    | .ok found => .ok (some found)
    | .error cause => .error { key := name, cause }

def apply (settings : Settings) (update : List (String × Json)) :
    Except SettingsError (Settings × SettingsChange) := do
  let flakeErrors ← key "pyflakes_errors" (Json.decodeList Json.decodeString) update
  let styleConfig ← key "pycodestyle_config" (Json.decodeOption Path.decode) update
  let helpOnHover ← key "help_on_hover" Json.decodeBool update
  let typeCheck ← key "mypy_enabled" Json.decodeBool update
  return (
    { flakeErrors := flakeErrors.getD settings.flakeErrors
      styleConfig := styleConfig.getD settings.styleConfig
      helpOnHover := helpOnHover.getD settings.helpOnHover
      typeCheck := typeCheck.getD settings.typeCheck },
    { flakeErrors := flakeErrors.isSome, styleConfig := styleConfig.isSome
      helpOnHover := helpOnHover.isSome, typeCheck := typeCheck.isSome })

end Settings

-- Each new configuration counts up by one at most, so 64 bits are never used up here either.
structure SettingsRevision where
  style : Nat
  typeCheck : Nat
  deriving DecidableEq, Repr

namespace SettingsRevision

def start : SettingsRevision := { style := 0, typeCheck := 0 }

def bump (revision : SettingsRevision) (change : SettingsChange) : SettingsRevision :=
  { style := if change.styleConfig then revision.style + 1 else revision.style
    typeCheck := if change.typeCheck then revision.typeCheck + 1 else revision.typeCheck }

end SettingsRevision

end PythonAssist
