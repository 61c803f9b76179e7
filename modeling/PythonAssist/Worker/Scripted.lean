import PythonAssist.Json.Writer
import PythonAssist.Worker.Link

set_option autoImplicit false

namespace PythonAssist

inductive ReplyPart where
  | body (text : String)
  | raw (bytes : Bytes)
  deriving DecidableEq, Repr

inductive PreparedReply where
  | parts (parts : List ReplyPart)
  | exit
  deriving DecidableEq, Repr

structure ScriptedWorker where
  replies : List PreparedReply
  buffer : Bytes
  received : List Json
  ended : Bool

namespace ScriptedWorker

def start (replies : List PreparedReply) : ScriptedWorker :=
  { replies, buffer := [], received := [], ended := false }

def idMark : List Char := "$ID".toList

-- `skip` counts the characters of a mark that are still to be passed.
def fillFrom (id : List Char) : Nat → List Char → List Char
  | _, [] => []
  | skip + 1, _ :: rest => fillFrom id skip rest
  | 0, c :: rest =>
    if idMark.isPrefixOf (c :: rest) then id ++ fillFrom id (idMark.length - 1) rest
    else c :: fillFrom id 0 rest

def fill (id : Json) (text : String) : String :=
  String.ofList (fillFrom (Json.write id).toList 0 text.toList)

def ReplyPart.bytes (id : Json) : ReplyPart → Bytes
  | .body text => Frame.encode (fill id text)
  | .raw bytes => bytes

structure Exchange where
  worker : ScriptedWorker
  written : List Bytes

def reply (id : Json) (exchange : Exchange) : Exchange :=
  match exchange.worker.replies with
  | .parts parts :: rest =>
    { worker := { exchange.worker with replies := rest }
      written := exchange.written ++ [parts.flatMap (ReplyPart.bytes id)] }
  | .exit :: rest =>
    { exchange with worker := { exchange.worker with replies := rest, ended := true } }
  | [] => { exchange with worker := { exchange.worker with ended := true } }

def handle (body : String) (exchange : Exchange) : Exchange :=
  match Json.read body with
  | none => exchange
  | some message =>
    let worker := { exchange.worker with received := exchange.worker.received ++ [message] }
    match message.get? "id" with
    | some id => reply id { exchange with worker }
    | none => { exchange with worker }

def feed (bytes : Bytes) (worker : ScriptedWorker) : List Bytes × ScriptedWorker :=
  let (buffer, exchange) :=
    Frame.feed handle (fun exchange => exchange.worker.ended) (worker.buffer ++ bytes)
      { worker, written := [] }
  (exchange.written, { exchange.worker with buffer })

def upToRequest (received : List Json) : List Json :=
  (received.reverse.dropWhile fun message => (message.get? "id").isNone).reverse

def program (replies : List PreparedReply) : Program ScriptedWorker :=
  { start := fun _ => .ok (start replies), feed, hasEnded := ScriptedWorker.ended }

end ScriptedWorker

end PythonAssist
