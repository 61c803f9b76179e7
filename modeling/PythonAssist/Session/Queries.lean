import PythonAssist.Answer.Hover
import PythonAssist.Answer.SignatureHelp
import PythonAssist.Session.State
import PythonAssist.Wire.Params

set_option autoImplicit false

namespace PythonAssist

def Position.toPlace (position : Position) : Place :=
  { line := clampToPosition (position.line.toNat + 1), column := position.character }

namespace Session

variable {W : Type}

def completion (engine : Engine W) (place : DocumentPlace) : Action W Json := do
  match (← get).completionStyle with
  | none => fail .notStarted
  | some style =>
    let handle ← handleFor engine place.uri
    let completions ← ask (engine.complete handle.script place.position.toPlace)
    let line := (handle.line? place.position.line).getD ""
    let range := CompletionItem.replaceRange line place.position
    return .object [("isIncomplete", .bool false),
      ("items", .list CompletionItem.toJson (CompletionItem.ofCompletions style completions range))]

def hover (engine : Engine W) (place : DocumentPlace) : Action W Json := do
  let handle ← handleFor engine place.uri
  let question := if (← get).settings.helpOnHover then engine.help else engine.infer
  let names ← ask (question handle.script place.position.toPlace)
  return .option Hover.toJson (Hover.ofNames names)

def signatureHelp (engine : Engine W) (place : DocumentPlace) : Action W Json := do
  let handle ← handleFor engine place.uri
  let signatures ← ask (engine.signatures handle.script place.position.toPlace)
  return .option SignatureHelp.toJson (SignatureHelp.ofSignatures signatures)

def definition (engine : Engine W) (place : DocumentPlace) : Action W Json := do
  let handle ← handleFor engine place.uri
  let names ← ask (engine.goto handle.script place.position.toPlace)
  return .list Location.toJson (Location.ofNames names)

def references (engine : Engine W) (place : DocumentPlace) : Action W Json := do
  let handle ← handleFor engine place.uri
  let names ← ask (engine.references handle.script place.position.toPlace)
  return .list Location.toJson (Location.ofNames names)

def documentSymbol (engine : Engine W) (uri : Uri) : Action W Json := do
  let handle ← handleFor engine uri
  let names ← ask (engine.names handle.script true)
  match Symbols.ofNames (← get).symbolStyle uri handle.lines names with
  | .ok symbols => return .option Symbols.toJson symbols
  | .error cause => fail (.symbols cause)

def inlineEdits (engine : Engine W) (handle : DocumentHandle) (place : Place) :
    Action W (List DocumentEdit) := do
  let session ← get
  let (result, world) := engine.inlineAt handle.script place session.world
  set { session with world }
  match result with
  | .error (.refactoring _) => return []
  | .error cause => fail (.engine cause)
  | .ok refactoring =>
    match DocumentEdit.ofRefactoring session.documents.version? refactoring with
    | .ok edits => return edits
    | .error cause => fail (.edits cause)

def codeAction (engine : Engine W) (uri : Uri) (range : Range) : Action W Json := do
  if range.start ≠ range.stop then
    return .null
  let handle ← handleFor engine uri
  match ← inlineEdits engine handle range.start.toPlace with
  | [] => return .null
  | edits => return .array [inlineActionToJson edits]

def answer (engine : Engine W) : Query → Action W Json
  | .completion place => completion engine place
  | .hover place => hover engine place
  | .signatureHelp place => signatureHelp engine place
  | .definition place => definition engine place
  | .references place => references engine place
  | .documentSymbol uri => documentSymbol engine uri
  | .codeAction uri range => codeAction engine uri range

end Session

end PythonAssist
