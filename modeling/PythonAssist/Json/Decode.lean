import PythonAssist.Text.Printable
import PythonAssist.Json.Value

set_option autoImplicit false

namespace PythonAssist

inductive Found where
  | null
  | bool (value : Bool)
  | number (value : Number)
  | string (value : String)
  | sequence
  | map
  deriving DecidableEq, Repr

inductive DecodeError where
  | wrongType (found : Found) (expected : String)
  | wrongValue (found : Found) (expected : String)
  | missingField (name : String)
  | unknownVariant (name : String) (known : List String)
  | wrongLength (length : Nat) (expected : String)
  | noVariant (name : String)
  | other (text : String)
  deriving DecidableEq, Repr

def Found.describe : Found → String
  | .null => "null"
  | .bool true => "boolean `true`"
  | .bool false => "boolean `false`"
  | .number (.integer value) => "integer `" ++ toString value ++ "`"
  | .number (.real value) => "floating point `" ++ value.render ++ "`"
  | .string value => "string " ++ quoteVisibly value
  | .sequence => "sequence"
  | .map => "map"

def oneOf (names : List String) : String :=
  let quoted := names.map fun name => "`" ++ name ++ "`"
  match quoted with
  | [] => ""
  | [a] => a
  | [a, b] => a ++ " or " ++ b
  | all => "one of " ++ ", ".intercalate all

def DecodeError.message : DecodeError → String
  | .wrongType found expected => "invalid type: " ++ found.describe ++ ", expected " ++ expected
  | .wrongValue found expected => "invalid value: " ++ found.describe ++ ", expected " ++ expected
  | .missingField name => "missing field `" ++ name ++ "`"
  | .unknownVariant name known => "unknown variant `" ++ name ++ "`, expected " ++ oneOf known
  | .wrongLength length expected =>
    "invalid length " ++ toString length ++ ", expected " ++ expected
  | .noVariant name => "data did not match any variant of untagged enum " ++ name
  | .other text => text

abbrev Decoded (A : Type) := Except DecodeError A

namespace Json

def found : Json → Found
  | .null => .null
  | .bool value => .bool value
  | .number value => .number value
  | .string value => .string value
  | .array _ => .sequence
  | .object _ => .map

def mismatch {A : Type} (expected : String) (value : Json) : Decoded A :=
  .error (.wrongType value.found expected)

def decodeAny (value : Json) : Decoded Json := .ok value

def decodeString : Json → Decoded String
  | .string value => .ok value
  | value => mismatch "a string" value

def decodeBool : Json → Decoded Bool
  | .bool value => .ok value
  | value => mismatch "a boolean" value

def decodeBounded (low high : Int) (expected : String) : Json → Decoded Int
  | .number (.integer n) =>
    if low ≤ n ∧ n ≤ high then .ok n
    else .error (.wrongValue (.number (.integer n)) expected)
  | value => mismatch expected value

def decodeUInt32 (value : Json) : Decoded UInt32 :=
  (decodeBounded 0 4294967295 "u32" value).map fun n => UInt32.ofNat n.toNat

def decodeUInt64 (value : Json) : Decoded UInt64 :=
  (decodeBounded 0 18446744073709551615 "u64" value).map fun n => UInt64.ofNat n.toNat

def decodeInt32 (value : Json) : Decoded Int :=
  decodeBounded (-2147483648) 2147483647 "i32" value

def decodeInt64 (value : Json) : Decoded Int :=
  decodeBounded (-9223372036854775808) 9223372036854775807 "i64" value

def decodeOption {A : Type} (decode : Json → Decoded A) : Json → Decoded (Option A)
  | .null => .ok none
  | value => (decode value).map some

def decodeList {A : Type} (decode : Json → Decoded A) : Json → Decoded (List A)
  | .array items => items.mapM decode
  | value => mismatch "a sequence" value

end Json

structure Source where
  find : String → Option Json
  missing : String → DecodeError

structure Reader (A : Type) where
  fields : List (String × (Json → Decoded Unit))
  build : Source → Decoded A

namespace Reader

variable {A B : Type}

def pure (value : A) : Reader A := { fields := [], build := fun _ => .ok value }

def andThen (f : Reader (A → B)) (x : Reader A) : Reader B :=
  { fields := f.fields ++ x.fields
    build := fun source => do
      let g ← f.build source
      let a ← x.build source
      return g a }

def map (f : A → B) (x : Reader A) : Reader B :=
  { fields := x.fields, build := fun source => (x.build source).map f }

instance : Applicative Reader where
  pure := Reader.pure
  map := Reader.map
  seq f x := andThen f (x ())

def check (decode : Json → Decoded A) (value : Json) : Decoded Unit :=
  (decode value).map fun _ => ()

def required (name : String) (decode : Json → Decoded A) : Reader A :=
  { fields := [(name, check decode)]
    build := fun source =>
      match source.find name with
      | some value => decode value
      | none => .error (source.missing name) }

def withDefault (name : String) (decode : Json → Decoded A) (default : A) : Reader A :=
  { fields := [(name, check decode)]
    build := fun source =>
      match source.find name with
      | some value => decode value
      | none => .ok default }

def optional (name : String) (decode : Json → Decoded A) : Reader (Option A) :=
  { fields := [(name, check (Json.decodeOption decode))]
    build := fun source =>
      match source.find name with
      | some value => Json.decodeOption decode value
      | none =>
        match source.missing name with
        | .wrongLength length expected => .error (.wrongLength length expected)
        | _ => .ok none }

def fieldCheck (fields : List (String × (Json → Decoded Unit))) (key : String) :
    Json → Decoded Unit :=
  match fields with
  | [] => fun _ => .ok ()
  | (name, check) :: rest => if name = key then check else fieldCheck rest key

-- Fields are checked in the order of the object, then missing ones are reported.
def ofObject (reader : Reader A) (object : List (String × Json)) : Decoded A := do
  object.forM fun field => fieldCheck reader.fields field.1 field.2
  reader.build { find := fun name => Json.field? name object, missing := .missingField }

def position (name : String) : List (String × (Json → Decoded Unit)) → Nat
  | [] => 0
  | (other, _) :: rest => if other = name then 0 else position name rest + 1

def elements (count : Nat) : String :=
  " with " ++ toString count ++ (if count = 1 then " element" else " elements")

def ofItems (reader : Reader A) (what : String) (items : List Json) : Decoded A :=
  reader.build
    { find := fun name => items[position name reader.fields]?
      missing := fun name =>
        .wrongLength (position name reader.fields) (what ++ elements reader.fields.length) }

def decode (reader : Reader A) (what : String) : Json → Decoded A
  | .object object => reader.ofObject object
  | .array items => do
    let value ← reader.ofItems what items
    if reader.fields.length < items.length then
      .error (.wrongLength items.length "fewer elements in array")
    return value
  | value => Json.mismatch what value

def ofHeldItems (reader : Reader A) (what : String) (items : List Json) : Decoded A := do
  let value ← reader.ofItems what items
  if reader.fields.length < items.length then
    .error (.wrongLength items.length
      (toString reader.fields.length ++
        (if reader.fields.length = 1 then " element" else " elements") ++ " in sequence"))
  return value

def decodeHeld (reader : Reader A) (what : String) : Json → Decoded A
  | .object object => reader.ofObject object
  | .array items => reader.ofHeldItems what items
  | value => Json.mismatch what value

def shape (checks : List (String × (Json → Decoded Unit))) : Reader Unit :=
  checks.foldr
    (fun field rest => (fun _ _ => ()) <$> optional field.1 field.2 <*> rest)
    (pure ())

end Reader

end PythonAssist
