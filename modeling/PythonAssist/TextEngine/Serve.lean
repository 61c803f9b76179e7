import PythonAssist.Json.Decode
import PythonAssist.Table
import PythonAssist.TextEngine.Checks
import PythonAssist.TextEngine.Script
import PythonAssist.Wire.Frame
import PythonAssist.Wire.Message

set_option autoImplicit false

namespace PythonAssist

structure TextEngineOptions where
  failOn : List String
  crashOnOpen : Bool
  deriving DecidableEq, Repr

structure TextEngine where
  options : TextEngineOptions
  scripts : Table Nat TextEngine.Script
  nextHandle : Nat
  buffer : Bytes
  ended : Option Nat

namespace TextEngine

def start (options : TextEngineOptions) : TextEngine :=
  { options, scripts := .empty, nextHandle := 1, buffer := [], ended := none }

def crashCode : Nat := 101

structure Incoming where
  id : Option Json
  method : Option String
  params : Json

def Incoming.decode : Json → Decoded Incoming :=
  Reader.decode
    (Incoming.mk <$> .optional "id" Json.decodeAny <*> .optional "method" Json.decodeString <*>
      .withDefault "params" Json.decodeAny .null)
    "struct Request"

def isRepeated (fields : List (String × Json)) (key : String) : Bool :=
  decide (2 ≤ (fields.filter fun field => field.1 == key).length)

-- A message that repeats one of its fields cannot be read.
def Incoming.ofText (text : String) : Option Incoming :=
  match Json.readAsWritten text with
  | none => none
  | some value =>
    match value with
    | .object fields =>
      if ["id", "method", "params"].any (isRepeated fields) then none
      else (Incoming.decode value.sorted).toOption
    | value => (Incoming.decode value.sorted).toOption

def natural? : Json → Option Nat
  | .number (.integer n) => if 0 ≤ n then some n.toNat else none
  | _ => none

def Incoming.natural? (message : Incoming) (key : String) : Option Nat :=
  (message.params.get? key).bind TextEngine.natural?

def Incoming.text? (message : Incoming) (key : String) : Option String :=
  (message.params.get? key).bind Json.string?

def methodNotFound : Int := -32601

def internalError : Int := -32603

def errorToJson (code : Int) (message : String) (data : Json) : Json :=
  .object [("code", .integer code), ("data", data), ("message", .string message)]

def kindToJson (kind : String) : Json := .object [("kind", .string kind)]

def responseToJson (id : Json) (field : String) (value : Json) : Json :=
  .ofFields [("id", id), ("jsonrpc", .string "2.0"), (field, value)]

def Answer.toResponse (id : Json) : Answer → Option Json
  | .result value => some (responseToJson id "result" value)
  | .refused reason =>
    some (responseToJson id "error" (errorToJson internalError reason (kindToJson "refactoring")))
  | .failed reason =>
    some (responseToJson id "error" (errorToJson internalError reason (kindToJson "worker")))
  | .unknownMethod method =>
    some (responseToJson id "error"
      (errorToJson methodNotFound ("mockengine: method not found: " ++ method) .null))
  | .crash => none

def environmentToJson : Json :=
  .ofFields [("executable", .string "/mock/bin/python"), ("version", .string "3.12"),
    ("sys_path", .strings ["/mock/lib/python3.12"])]

def openScript (engine : TextEngine) (message : Incoming) : Answer × TextEngine :=
  let script : Script :=
    { code := (message.text? "code").getD "", path := message.text? "path" }
  (.result (.object [("handle", .nat engine.nextHandle)]),
    { engine with
      scripts := engine.scripts.insert engine.nextHandle script
      nextHandle := engine.nextHandle + 1 })

def ask (script : Script) (question : String) (line column : Nat) : Answer :=
  match question with
  | "syntax_errors" => .result script.syntaxErrors
  | "names" => .result script.names
  | "complete" => script.complete line column
  | "help" => .result (script.describe question line column)
  | "infer" => .result (script.describe question line column)
  | "signatures" => script.signatures line column
  | "goto" => .result (script.goto line column)
  | "references" => .result (script.references line column)
  | "inline" => script.inlineAt line column
  | _ => .unknownMethod ("script/" ++ question)

def askScript (engine : TextEngine) (question : String) (message : Incoming) : Answer :=
  let handle := (message.natural? "handle").getD 0
  match engine.scripts.find? handle with
  | none => .failed ("unknown script handle " ++ toString handle)
  | some script =>
    ask script question ((message.natural? "line").getD 1) ((message.natural? "column").getD 0)

def lineLimit (message : Incoming) : Nat :=
  (((message.params.get? "options").bind (Json.get? "max_line_length")).bind natural?).getD 79

def linesOf (message : Incoming) : List String :=
  match message.params.get? "lines" with
  | some (.array lines) => lines.map fun line => line.string?.getD ""
  | _ => []

def answer (engine : TextEngine) (method : String) (message : Incoming) : Answer × TextEngine :=
  if engine.options.failOn.contains method then
    (.failed ("mockengine: configured to fail on " ++ method), engine)
  else
    match method with
    | "initialize" => (.result environmentToJson, engine)
    | "script/open" =>
      if engine.options.crashOnOpen then (.crash, { engine with ended := some 1 })
      else engine.openScript message
    | "pyflakes/check" => (.result (unusedImports ((message.text? "code").getD "")), engine)
    | "pycodestyle/check" => (.result (styleFindings (lineLimit message) (linesOf message)), engine)
    | method =>
      match stripFront "script/".toList method.toList with
      | some question => (engine.askScript (String.ofList question) message, engine)
      | none => (.unknownMethod method, engine)

def notify (engine : TextEngine) (method : String) (message : Incoming) : TextEngine :=
  if method = "script/release" then
    match message.natural? "handle" with
    | some handle => { engine with scripts := engine.scripts.erase handle }
    | none => engine
  else engine

def conclude (id : Json) (result : Answer × TextEngine) : Option Json × TextEngine :=
  match result.1 with
  | .crash => (none, { result.2 with ended := some (result.2.ended.getD crashCode) })
  | answer => (answer.toResponse id, result.2)

def handle (engine : TextEngine) (body : String) : Option Json × TextEngine :=
  match Incoming.ofText body with
  | none => (none, engine)
  | some message =>
    match message.method, message.id with
    | none, _ => (none, engine)
    | some method, none => (none, engine.notify method message)
    | some method, some id => conclude id (engine.answer method message)

def lower (line : List Char) : List Char := line.map Char.toLower

-- The last length counts, and one that is no number makes the header useless.
def lengthOf : List (List Char) → Option Nat → Option Nat
  | [], found => found
  | line :: rest, found =>
    if "content-length:".toList.isPrefixOf (lower line) then
      lengthOf rest
        ((splitFirst ':' line).bind fun (_, value) =>
          unsigned? Frame.lengthLimit (trimChars value))
    else lengthOf rest found

inductive Front where
  | waiting
  | overflow
  | body (text : String) (rest : Bytes)
  deriving DecidableEq, Repr

def cut (headerSize length : Nat) (back : Bytes) : Front :=
  if Frame.lengthLimit ≤ headerSize + 4 + length then .overflow
  else if back.length < length then .waiting
  else
    match Utf8.decode? (back.take length) with
    | none => .waiting
    | some text => .body text (back.drop length)

def front (buffer : Bytes) : Front :=
  match Frame.splitHeader buffer with
  | none => .waiting
  | some (header, back) =>
    match (Utf8.decode? header).bind fun text => lengthOf (splitOn '\n' text.toList) none with
    | none => .waiting
    | some length => cut header.length length back

theorem cut_body_length {headerSize length : Nat} {back rest : Bytes} {text : String}
    (h : cut headerSize length back = .body text rest) : rest.length ≤ back.length := by
  unfold cut at h
  repeat' split at h
  all_goals simp only [Front.body.injEq, reduceCtorEq] at h
  rw [← h.2, List.length_drop]
  omega

theorem front_body_length {buffer rest : Bytes} {text : String}
    (h : front buffer = .body text rest) : rest.length < buffer.length := by
  unfold front at h
  split at h
  next => simp at h
  next header back split =>
    have size := Frame.splitHeader_length split
    split at h
    next => simp at h
    next =>
      have := cut_body_length h
      omega

def serve (engine : TextEngine) (buffer : Bytes) : List Json × TextEngine :=
  match _found : front buffer with
  | .waiting => ([], { engine with buffer })
  | .overflow => ([], { engine with ended := some crashCode })
  | .body text rest =>
    let (response, engine) := engine.handle text
    if engine.ended.isSome then (response.toList, engine)
    else
      let (others, engine) := engine.serve rest
      (response.toList ++ others, engine)
termination_by buffer.length
decreasing_by exact front_body_length _found

def feed (engine : TextEngine) (bytes : Bytes) : List Json × TextEngine :=
  engine.serve (engine.buffer ++ bytes)

end TextEngine

end PythonAssist
