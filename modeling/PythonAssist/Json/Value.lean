import PythonAssist.Json.Double

set_option autoImplicit false

namespace PythonAssist

inductive Number where
  | integer (value : Int)
  | real (value : Double)
  deriving DecidableEq, Repr

-- Objects list their fields by key. Reading a text gives sorted keys, each of them once.
inductive Json where
  | null
  | bool (value : Bool)
  | number (value : Number)
  | string (value : String)
  | array (items : List Json)
  | object (fields : List (String × Json))
  deriving Repr, Inhabited

namespace Json

def integer (value : Int) : Json := .number (.integer value)

def nat (value : Nat) : Json := .number (.integer value)

def field? (key : String) : List (String × Json) → Option Json
  | [] => none
  | (k, v) :: rest => if k = key then some v else field? key rest

def get? (key : String) : Json → Option Json
  | .object fields => field? key fields
  | _ => none

def insert (key : String) (value : Json) : List (String × Json) → List (String × Json)
  | [] => [(key, value)]
  | (k, v) :: rest =>
    if key = k then (key, value) :: rest
    else if key < k then (key, value) :: (k, v) :: rest
    else (k, v) :: insert key value rest

def ofFields (fields : List (String × Json)) : Json :=
  .object (fields.foldl (fun sorted field => insert field.1 field.2 sorted) [])

def isNull : Json → Bool
  | .null => true
  | _ => false

def string? : Json → Option String
  | .string value => some value
  | _ => none

def option {A : Type} (encode : A → Json) : Option A → Json
  | none => .null
  | some value => encode value

def list {A : Type} (encode : A → Json) (items : List A) : Json :=
  .array (items.map encode)

def strings (items : List String) : Json := list .string items

mutual
def equal : Json → Json → Bool
  | .null, .null => true
  | .bool a, .bool b => a == b
  | .number a, .number b => a == b
  | .string a, .string b => a == b
  | .array a, .array b => equalItems a b
  | .object a, .object b => equalFields a b
  | _, _ => false

def equalItems : List Json → List Json → Bool
  | [], [] => true
  | a :: as, b :: bs => equal a b && equalItems as bs
  | _, _ => false

def equalFields : List (String × Json) → List (String × Json) → Bool
  | [], [] => true
  | (k, a) :: as, (l, b) :: bs => k == l && equal a b && equalFields as bs
  | _, _ => false
end

end Json

end PythonAssist
