import PythonAssist.Document
import PythonAssist.Workspace
import PythonAssist.Wire.Capabilities

set_option autoImplicit false

namespace PythonAssist

def Uri.decode : Json → Decoded Uri
  | .string text =>
    match Uri.parse text with
    | .ok uri => .ok uri
    | .error e => .error (.other e.message)
  | value => Json.mismatch "a string" value

def WorkspaceFolder.decode : Json → Decoded WorkspaceFolder :=
  Reader.decode
    (WorkspaceFolder.mk <$> .required "uri" Uri.decode <*> .required "name" Json.decodeString)
    "struct WorkspaceFolder"

def FoldersChange.decode : Json → Decoded FoldersChange :=
  Reader.decode
    (FoldersChange.mk <$> .required "added" (Json.decodeList WorkspaceFolder.decode) <*>
      .required "removed" (Json.decodeList WorkspaceFolder.decode))
    "struct WorkspaceFoldersChangeEvent"

def DocumentItem.decode : Json → Decoded DocumentItem :=
  Reader.decode
    (DocumentItem.mk <$> .required "uri" Uri.decode <*>
      .required "languageId" Json.decodeString <*> .required "version" Json.decodeInt32 <*>
      .required "text" Json.decodeString)
    "struct TextDocumentItem"

def ContentChange.decode : Json → Decoded ContentChange :=
  Reader.decode
    ((fun range _ text => { range, text }) <$> .optional "range" Range.decode <*>
      .optional "rangeLength" Json.decodeUInt32 <*> .required "text" Json.decodeString)
    "struct TextDocumentContentChangeEvent"

namespace Params

def identifierReader : Reader Uri := Reader.required "uri" Uri.decode

def identifier : Json → Decoded Uri := identifierReader.decode "struct TextDocumentIdentifier"

def versioned : Json → Decoded (Uri × Int) :=
  Reader.decode
    (Prod.mk <$> .required "uri" Uri.decode <*> .required "version" Json.decodeInt32)
    "struct VersionedTextDocumentIdentifier"

def token (value : Json) : Decoded Unit :=
  match Json.decodeInt32 value, value with
  | .ok _, _ => .ok ()
  | .error _, .string _ => .ok ()
  | .error _, _ => .error (.noVariant "NumberOrString")

def progress : Reader Unit := .shape [("workDoneToken", token)]

def partialResult : Reader Unit := .shape [("partialResultToken", token)]

-- Records that have others laid flat into them are only written as objects.
def fieldsOf (what : String) : Json → Decoded (List (String × Json))
  | .object fields => .ok fields
  | value => Json.mismatch what value

end Params

structure DocumentPlace where
  uri : Uri
  position : Position
  deriving DecidableEq, Repr

def DocumentPlace.reader : Reader DocumentPlace :=
  DocumentPlace.mk <$>
    .required "textDocument"
      (Params.identifierReader.decodeHeld "struct TextDocumentIdentifier") <*>
    .required "position" (Position.reader.decodeHeld "struct Position")

structure InitializeParams where
  options : Option Json
  styles : ClientStyles
  offer : WorkspaceOffer

namespace InitializeParams

def clientInfo : Json → Decoded Unit :=
  Reader.decode
    ((fun _ _ => ()) <$> .required "name" Json.decodeString <*>
      .optional "version" Json.decodeString)
    "struct ClientInfo"

def reader : Reader InitializeParams :=
  (fun _ rootPath rootUri options styles _ folders _ _ =>
      { options, styles, offer := { rootUri, rootPath, folders := folders.getD [] } }) <$>
    .optional "processId" Json.decodeUInt32 <*> .optional "rootPath" Json.decodeString <*>
    .optional "rootUri" Uri.decode <*> .optional "initializationOptions" Json.decodeAny <*>
    .required "capabilities" ClientStyles.decode <*>
    .optional "trace" (Capabilities.word ["off", "messages", "verbose"]) <*>
    .optional "workspaceFolders" (Json.decodeList WorkspaceFolder.decode) <*>
    .optional "clientInfo" clientInfo <*> .optional "locale" Json.decodeString

def decode (value : Json) : Decoded InitializeParams := do
  let fields ← Params.fieldsOf "struct InitializeParams" value
  let params ← reader.ofObject fields
  Params.progress.ofObject fields
  return params

def venv (params : InitializeParams) : Option Path :=
  ((params.options.bind fun options => options.get? "venv").bind Json.string?).map Path.ofString

end InitializeParams

inductive Query where
  | completion (place : DocumentPlace)
  | hover (place : DocumentPlace)
  | signatureHelp (place : DocumentPlace)
  | definition (place : DocumentPlace)
  | references (place : DocumentPlace)
  | documentSymbol (uri : Uri)
  | codeAction (uri : Uri) (range : Range)
  deriving DecidableEq, Repr

namespace Query

def completionContext : Json → Decoded Unit :=
  Reader.decode
    ((fun _ _ => ()) <$> .required "triggerKind" Json.decodeInt32 <*>
      .optional "triggerCharacter" Json.decodeString)
    "struct CompletionContext"

def decodeCompletion (value : Json) : Decoded Query := do
  let fields ← Params.fieldsOf "struct CompletionParams" value
  (Reader.shape [("context", completionContext)]).ofObject fields
  let place ← DocumentPlace.reader.ofObject fields
  Params.progress.ofObject fields
  Params.partialResult.ofObject fields
  return .completion place

def decodeHover (value : Json) : Decoded Query := do
  let fields ← Params.fieldsOf "struct HoverParams" value
  let place ← DocumentPlace.reader.ofObject fields
  Params.progress.ofObject fields
  return .hover place

def parameterLabel : Json → Decoded Unit
  | .string _ => .ok ()
  | .array [a, b] =>
    match Json.decodeUInt32 a, Json.decodeUInt32 b with
    | .ok _, .ok _ => .ok ()
    | _, _ => .error (.noVariant "ParameterLabel")
  | _ => .error (.noVariant "ParameterLabel")

def signature : Json → Decoded Unit :=
  Reader.decode
    ((fun _ _ => ()) <$> .required "label" Json.decodeString <*>
      .shape
        [("documentation", Capabilities.any),
          ("parameters",
            Capabilities.listOf
              (Reader.decode
                ((fun _ _ => ()) <$> .required "label" parameterLabel <*>
                  .shape [("documentation", Capabilities.any)])
                "struct ParameterInformation")),
          ("activeParameter", Capabilities.count)])
    "struct SignatureInformation"

def activeHelp : Json → Decoded Unit :=
  Reader.decode
    ((fun _ _ => ()) <$> .required "signatures" (Json.decodeList signature) <*>
      .shape [("activeSignature", Capabilities.count), ("activeParameter", Capabilities.count)])
    "struct SignatureHelp"

def signatureHelpContext : Json → Decoded Unit :=
  Reader.decode
    ((fun _ _ _ _ => ()) <$> .required "triggerKind" Json.decodeInt32 <*>
      .optional "triggerCharacter" Json.decodeString <*>
      .required "isRetrigger" Json.decodeBool <*> .optional "activeSignatureHelp" activeHelp)
    "struct SignatureHelpContext"

def decodeSignatureHelp (value : Json) : Decoded Query := do
  let fields ← Params.fieldsOf "struct SignatureHelpParams" value
  (Reader.shape [("context", signatureHelpContext)]).ofObject fields
  let place ← DocumentPlace.reader.ofObject fields
  Params.progress.ofObject fields
  return .signatureHelp place

def decodeDefinition (value : Json) : Decoded Query := do
  let fields ← Params.fieldsOf "struct GotoDefinitionParams" value
  let place ← DocumentPlace.reader.ofObject fields
  Params.progress.ofObject fields
  Params.partialResult.ofObject fields
  return .definition place

def referenceContext : Json → Decoded Bool :=
  Reader.decode (Reader.required "includeDeclaration" Json.decodeBool) "struct ReferenceContext"

def decodeReferences (value : Json) : Decoded Query := do
  let fields ← Params.fieldsOf "struct ReferenceParams" value
  let _ ← (Reader.required "context" referenceContext).ofObject fields
  let place ← DocumentPlace.reader.ofObject fields
  Params.progress.ofObject fields
  Params.partialResult.ofObject fields
  return .references place

def decodeDocumentSymbol (value : Json) : Decoded Query := do
  let fields ← Params.fieldsOf "struct DocumentSymbolParams" value
  let uri ← (Reader.required "textDocument" Params.identifier).ofObject fields
  Params.progress.ofObject fields
  Params.partialResult.ofObject fields
  return .documentSymbol uri

def location : Json → Decoded Unit :=
  Reader.decode
    ((fun _ _ => ()) <$> .required "uri" Uri.decode <*> .required "range" Range.decode)
    "struct Location"

def relatedInformation : Json → Decoded Unit :=
  Reader.decode
    ((fun _ _ => ()) <$> .required "location" location <*> .required "message" Json.decodeString)
    "struct DiagnosticRelatedInformation"

def shownDiagnostic : Json → Decoded Unit :=
  Reader.decode
    ((fun _ _ _ _ => ()) <$> .required "range" Range.decode <*>
      .shape
        [("severity", Capabilities.number), ("code", Params.token),
          ("codeDescription",
            Reader.decode ((fun _ => ()) <$> .required "href" Uri.decode)
              "struct CodeDescription"),
          ("source", Capabilities.text)] <*>
      .required "message" Json.decodeString <*>
      .shape
        [("relatedInformation", Capabilities.listOf relatedInformation),
          ("tags", Capabilities.listOf Capabilities.number), ("data", Capabilities.any)])
    "struct Diagnostic"

def actionContext : Json → Decoded Unit :=
  Reader.decode
    ((fun _ _ => ()) <$> .required "diagnostics" (Json.decodeList shownDiagnostic) <*>
      .shape
        [("only", Capabilities.listOf Capabilities.text), ("triggerKind", Capabilities.number)])
    "struct CodeActionContext"

def actionReader : Reader Query :=
  (fun uri range _ => .codeAction uri range) <$> .required "textDocument" Params.identifier <*>
    .required "range" Range.decode <*> .required "context" actionContext

def decodeCodeAction (value : Json) : Decoded Query := do
  let fields ← Params.fieldsOf "struct CodeActionParams" value
  let query ← actionReader.ofObject fields
  Params.progress.ofObject fields
  Params.partialResult.ofObject fields
  return query

def decoder? (method : String) : Option (Json → Decoded Query) :=
  match method with
  | "textDocument/completion" => some decodeCompletion
  | "textDocument/hover" => some decodeHover
  | "textDocument/signatureHelp" => some decodeSignatureHelp
  | "textDocument/definition" => some decodeDefinition
  | "textDocument/references" => some decodeReferences
  | "textDocument/documentSymbol" => some decodeDocumentSymbol
  | "textDocument/codeAction" => some decodeCodeAction
  | _ => none

end Query

inductive Notice where
  | didOpen (item : DocumentItem)
  | didChange (uri : Uri) (version : Int) (changes : List ContentChange)
  | didClose (uri : Uri)
  | willSave (uri : Uri)
  | didSave (uri : Uri) (text : Option String)
  | didChangeConfiguration (settings : Json)
  | didChangeFolders (change : FoldersChange)

namespace Notice

def decodeOpen : Json → Decoded Notice :=
  Reader.decode (Notice.didOpen <$> .required "textDocument" DocumentItem.decode)
    "struct DidOpenTextDocumentParams"

def decodeChange : Json → Decoded Notice :=
  Reader.decode
    ((fun document changes => Notice.didChange document.1 document.2 changes) <$>
      .required "textDocument" Params.versioned <*>
      .required "contentChanges" (Json.decodeList ContentChange.decode))
    "struct DidChangeTextDocumentParams"

def decodeClose : Json → Decoded Notice :=
  Reader.decode (Notice.didClose <$> .required "textDocument" Params.identifier)
    "struct DidCloseTextDocumentParams"

def decodeWillSave : Json → Decoded Notice :=
  Reader.decode
    ((fun uri _ => Notice.willSave uri) <$> .required "textDocument" Params.identifier <*>
      .required "reason" Json.decodeInt32)
    "struct WillSaveTextDocumentParams"

def decodeSave : Json → Decoded Notice :=
  Reader.decode
    (Notice.didSave <$> .required "textDocument" Params.identifier <*>
      .optional "text" Json.decodeString)
    "struct DidSaveTextDocumentParams"

def decodeConfiguration : Json → Decoded Notice :=
  Reader.decode (Notice.didChangeConfiguration <$> .required "settings" Json.decodeAny)
    "struct DidChangeConfigurationParams"

def decodeFolders : Json → Decoded Notice :=
  Reader.decode (Notice.didChangeFolders <$> .required "event" FoldersChange.decode)
    "struct DidChangeWorkspaceFoldersParams"

def decoder? (method : String) : Option (Json → Decoded Notice) :=
  match method with
  | "textDocument/didOpen" => some decodeOpen
  | "textDocument/didChange" => some decodeChange
  | "textDocument/didClose" => some decodeClose
  | "textDocument/willSave" => some decodeWillSave
  | "textDocument/didSave" => some decodeSave
  | "workspace/didChangeConfiguration" => some decodeConfiguration
  | "workspace/didChangeWorkspaceFolders" => some decodeFolders
  | _ => none

end Notice

end PythonAssist
