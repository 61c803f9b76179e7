import PythonAssist.Table
import PythonAssist.Engine.Interface
import PythonAssist.Wire.Frame
import PythonAssist.Wire.Message

set_option autoImplicit false

namespace PythonAssist

-- Ids are counted up by one for each request, so they stay within 63 bits.
structure WorkerClient where
  next : Nat
  waiting : List RequestId
  answers : Table RequestId ResponseMessage
  buffer : Bytes
  alive : Bool

namespace WorkerClient

def fresh : WorkerClient :=
  { next := 1, waiting := [], answers := .empty, buffer := [], alive := true }

def exited : EngineError := .unavailable "worker has exited"

def closed : EngineError := .unavailable "worker closed connection"

def writerStopped : EngineError := .unavailable "worker writer has stopped"

def timedOut (method : String) : EngineError :=
  .unavailable ("request '" ++ method ++ "' timed out after 30s")

def prepare (client : WorkerClient) (method : String) (params : Json) :
    RequestMessage × WorkerClient :=
  ({ jsonrpc := jsonrpcVersion, id := .number client.next, method, params },
    { client with next := client.next + 1 })

def register (client : WorkerClient) (id : RequestId) : WorkerClient :=
  { client with waiting := client.waiting ++ [id] }

def frame (request : RequestMessage) : Bytes := Frame.encode (Json.write request.toJson)

def request (client : WorkerClient) (method : String) (params : Json) :
    (RequestId × Bytes) × WorkerClient :=
  let (request, client) := client.prepare method params
  ((request.id, frame request), client.register request.id)

def notification (method : String) (params : Json) : Bytes :=
  Frame.encode (Json.write (NotificationMessage.make method params).toJson)

def settle (client : WorkerClient) (id : RequestId) (response : ResponseMessage) : WorkerClient :=
  if client.waiting.contains id then
    { client with
      waiting := client.waiting.filter fun other => other != id
      answers := client.answers.insert id response }
  else client

def deliver (body : String) (client : WorkerClient) : WorkerClient :=
  match Incoming.classify body with
  | .ok (.response response) =>
    match response.id with
    | some id => client.settle id response
    | none => client
  | _ => client

def receive (client : WorkerClient) (bytes : Bytes) : WorkerClient :=
  let (buffer, client) :=
    Frame.feed deliver (fun _ => false) (client.buffer ++ bytes) client
  { client with buffer }

def lose (client : WorkerClient) : WorkerClient := { client with alive := false }

def clear (client : WorkerClient) : WorkerClient := { client with waiting := [] }

def close (client : WorkerClient) : WorkerClient := client.lose.clear

def errorKind (error : ResponseError) : Option String :=
  (error.data.bind (Json.get? "kind")).bind Json.string?

def errorOf (error : ResponseError) : EngineError :=
  if errorKind error = some "refactoring" then .refactoring error.message
  else .worker (toString error.code ++ ": " ++ error.message)

def resultOf (response : ResponseMessage) : Except EngineError Json :=
  match response.error with
  | some error => .error (errorOf error)
  | none => .ok (response.result.getD .null)

def progress (client : WorkerClient) (id : RequestId) : Option (Except EngineError Json) :=
  match client.answers.find? id with
  | some response => some (resultOf response)
  | none => if client.waiting.contains id then none else some (.error closed)

def outcome (client : WorkerClient) (id : RequestId) (method : String) : Except EngineError Json :=
  (client.progress id).getD (.error (timedOut method))

def abandon (client : WorkerClient) (id : RequestId) : WorkerClient :=
  { client with
    waiting := client.waiting.filter fun other => other != id
    answers := client.answers.erase id }

end WorkerClient

end PythonAssist
