import PythonAssist.Json.Decode
import PythonAssist.Json.Reader
import PythonAssist.Json.Writer

set_option autoImplicit false

namespace PythonAssist

inductive RequestId where
  | number (value : Int)
  | text (value : String)
  deriving DecidableEq, Repr

structure RequestMessage where
  jsonrpc : String
  id : RequestId
  method : String
  params : Json

structure NotificationMessage where
  jsonrpc : String
  method : String
  params : Json

structure ResponseError where
  code : Int
  message : String
  data : Option Json

structure ResponseMessage where
  jsonrpc : String
  id : Option RequestId
  result : Option Json
  error : Option ResponseError

namespace ErrorCode

def parseError : Int := -32700
def methodNotFound : Int := -32601
def invalidParams : Int := -32602
def internalError : Int := -32603
def notInitialized : Int := -32002
def invalidRequest : Int := -32600

end ErrorCode

def jsonrpcVersion : String := "2.0"

namespace RequestId

def toJson : RequestId → Json
  | .number value => .integer value
  | .text value => .string value

def decode (value : Json) : Decoded RequestId :=
  match Json.decodeInt64 value, value with
  | .ok n, _ => .ok (.number n)
  | .error _, .string name => .ok (.text name)
  | .error _, _ => .error (.noVariant "RequestId")

end RequestId

namespace RequestMessage

def reader : Reader RequestMessage :=
  RequestMessage.mk <$> .required "jsonrpc" Json.decodeString <*>
    .required "id" RequestId.decode <*>
    .required "method" Json.decodeString <*> .withDefault "params" Json.decodeAny .null

def decode : Json → Decoded RequestMessage := reader.decode "struct RequestMessage"

def toJson (message : RequestMessage) : Json :=
  .object [("id", message.id.toJson), ("jsonrpc", .string message.jsonrpc),
    ("method", .string message.method), ("params", message.params)]

end RequestMessage

namespace NotificationMessage

def reader : Reader NotificationMessage :=
  NotificationMessage.mk <$> .required "jsonrpc" Json.decodeString <*>
    .required "method" Json.decodeString <*> .withDefault "params" Json.decodeAny .null

def decode : Json → Decoded NotificationMessage := reader.decode "struct NotificationMessage"

def toJson (message : NotificationMessage) : Json :=
  .object [("jsonrpc", .string message.jsonrpc), ("method", .string message.method),
    ("params", message.params)]

def make (method : String) (params : Json) : NotificationMessage :=
  { jsonrpc := jsonrpcVersion, method, params }

end NotificationMessage

def optionalField (name : String) : Option Json → List (String × Json)
  | none => []
  | some value => [(name, value)]

namespace ResponseError

def reader : Reader ResponseError :=
  ResponseError.mk <$> .required "code" Json.decodeInt64 <*>
    .required "message" Json.decodeString <*>
    .optional "data" Json.decodeAny

def decode : Json → Decoded ResponseError := reader.decode "struct ResponseError"

def toJson (e : ResponseError) : Json :=
  .object ([("code", .integer e.code)] ++ optionalField "data" e.data ++
    [("message", .string e.message)])

end ResponseError

namespace ResponseMessage

def reader : Reader ResponseMessage :=
  ResponseMessage.mk <$> .required "jsonrpc" Json.decodeString <*>
    .optional "id" RequestId.decode <*>
    .withDefault "result" (Json.decodeOption Json.decodeAny) none <*>
    .optional "error" ResponseError.decode

def decode : Json → Decoded ResponseMessage := reader.decode "struct ResponseMessage"

def toJson (message : ResponseMessage) : Json :=
  .object (optionalField "error" (message.error.map ResponseError.toJson) ++
    [("id", Json.option RequestId.toJson message.id), ("jsonrpc", .string message.jsonrpc)] ++
    optionalField "result" message.result)

def success (id : RequestId) (result : Json) : ResponseMessage :=
  { jsonrpc := jsonrpcVersion, id := some id, result := some result, error := none }

def failure (id : Option RequestId) (code : Int) (message : String) : ResponseMessage :=
  { jsonrpc := jsonrpcVersion, id, result := none, error := some { code, message, data := none } }

end ResponseMessage

inductive Incoming where
  | request (message : RequestMessage)
  | notification (message : NotificationMessage)
  | response (message : ResponseMessage)

inductive ClassifyError where
  | notJson
  | wrongShape (cause : DecodeError)
  deriving DecidableEq, Repr

def ClassifyError.message : ClassifyError → String
  | .notJson => "Invalid JSON body"
  | .wrongShape cause => cause.message

namespace Incoming

def hasMethod (value : Json) : Bool :=
  match value.get? "method" with
  | some (.string _) => true
  | _ => false

def hasId (value : Json) : Bool :=
  match value.get? "id" with
  | some id => !id.isNull
  | none => false

def ofJson (value : Json) : Decoded Incoming :=
  if hasMethod value then
    if hasId value then (RequestMessage.decode value).map .request
    else (NotificationMessage.decode value).map .notification
  else (ResponseMessage.decode value).map .response

def classify (body : String) : Except ClassifyError Incoming :=
  match Json.read body with
  | none => .error .notJson
  | some value =>
    match ofJson value with
    | .ok incoming => .ok incoming
    | .error cause => .error (.wrongShape cause)

end Incoming

end PythonAssist
