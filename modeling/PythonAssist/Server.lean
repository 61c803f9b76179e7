import PythonAssist.Wire.ClientNotice
import PythonAssist.Wire.Frame
import PythonAssist.Wire.Params

set_option autoImplicit false

namespace PythonAssist

structure Outcome (S A : Type) where
  result : Except String A
  notices : List ClientNotice
  state : S

structure Handler (S : Type) where
  connect : InitializeParams → S → Outcome S Json
  shutdown : S → Outcome S Unit
  answer : Query → S → Outcome S Json
  receive : Notice → S → Outcome S Unit

inductive Lifecycle where
  | uninitialized
  | running
  | shutdownRequested
  deriving DecidableEq, Repr

inductive Outgoing where
  | response (message : ResponseMessage)
  | unasked (notice : ClientNotice)

def Outgoing.toJson : Outgoing → Json
  | .response message => message.toJson
  | .unasked notice => notice.toMessage.toJson

structure Server (S : Type) where
  state : S
  lifecycle : Lifecycle
  exited : Bool
  sent : List Outgoing

inductive Reply where
  | result (value : Json)
  | failure (code : Int) (text : String)

def Reply.toResponse (id : RequestId) : Reply → ResponseMessage
  | .result value => .success id value
  | .failure code text => .failure (some id) code text

namespace Server

variable {S A : Type}

def start (state : S) : Server S :=
  { state, lifecycle := .uninitialized, exited := false, sent := [] }

def send (server : Server S) (message : Outgoing) : Server S :=
  { server with sent := server.sent ++ [message] }

def absorb (server : Server S) (outcome : Outcome S A) : Server S :=
  { server with
    state := outcome.state
    sent := server.sent ++ outcome.notices.map .unasked }

def badParams (cause : DecodeError) : Reply :=
  .failure ErrorCode.invalidParams ("Invalid params: " ++ cause.message)

def replyOf (encode : A → Json) : Except String A → Reply
  | .ok value => .result (encode value)
  | .error text => .failure ErrorCode.internalError text

def connect (handler : Handler S) (params : Json) (server : Server S) : Reply × Server S :=
  match InitializeParams.decode params with
  | .error cause => (badParams cause, server)
  | .ok params =>
    let outcome := handler.connect params server.state
    let server := server.absorb outcome
    match outcome.result with
    | .ok value => (.result value, { server with lifecycle := .running })
    | .error text => (.failure ErrorCode.internalError text, server)

-- From the request on nothing else is served, even if the handler fails.
def shutdown (handler : Handler S) (server : Server S) : Reply × Server S :=
  let outcome := handler.shutdown server.state
  (replyOf (fun _ => .null) outcome.result,
    { server.absorb outcome with lifecycle := .shutdownRequested })

def query (handler : Handler S) (method : String) (params : Json) (server : Server S) :
    Reply × Server S :=
  match Query.decoder? method with
  | none => (.failure ErrorCode.methodNotFound ("Unknown method: " ++ method), server)
  | some decode =>
    match decode params with
    | .error cause => (badParams cause, server)
    | .ok question =>
      let outcome := handler.answer question server.state
      (replyOf id outcome.result, server.absorb outcome)

def reply (handler : Handler S) (request : RequestMessage) (server : Server S) :
    Reply × Server S :=
  match server.lifecycle with
  | .uninitialized =>
    if request.method = "initialize" then connect handler request.params server
    else (.failure ErrorCode.notInitialized "Server not initialized", server)
  | .shutdownRequested =>
    if request.method = "initialize" then
      (.failure ErrorCode.invalidRequest "Server already initialized", server)
    else (.failure ErrorCode.invalidRequest "Server is shutting down", server)
  | .running =>
    if request.method = "initialize" then
      (.failure ErrorCode.invalidRequest "Server already initialized", server)
    else if request.method = "shutdown" then shutdown handler server
    else query handler request.method request.params server

-- Outside a running session notifications are dropped, and so are those that cannot be read.
def receive (handler : Handler S) (notification : NotificationMessage) (server : Server S) :
    Server S :=
  if notification.method = "exit" then { server with exited := true }
  else if server.lifecycle ≠ .running then server
  else
    match Notice.decoder? notification.method with
    | none => server
    | some decode =>
      match decode notification.params with
      | .error _ => server
      | .ok notice => server.absorb (handler.receive notice server.state)

def handle (handler : Handler S) (body : String) (server : Server S) : Server S :=
  match Incoming.classify body with
  | .ok (.request request) =>
    let (reply, server) := reply handler request server
    server.send (.response (reply.toResponse request.id))
  | .ok (.notification notification) => receive handler notification server
  | .ok (.response _) => server
  | .error e => server.send (.response (.failure none ErrorCode.parseError e.message))

def readPiece (handler : Handler S) (buffer piece : Bytes) (server : Server S) :
    Bytes × Server S :=
  Frame.feed (handle handler) Server.exited (buffer ++ piece) server

def readFrom (handler : Handler S) : Bytes → List Bytes → Server S → Server S
  | _, [], server => server
  | buffer, piece :: rest, server =>
    if server.exited then server
    else
      let (buffer, server) := readPiece handler buffer piece server
      readFrom handler buffer rest server

def run (handler : Handler S) (pieces : List Bytes) (server : Server S) : Server S :=
  readFrom handler [] pieces server

def isClean (server : Server S) : Bool := server.lifecycle == .shutdownRequested

end Server

end PythonAssist
