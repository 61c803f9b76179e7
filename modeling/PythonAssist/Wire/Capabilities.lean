import PythonAssist.Engine.Codec

set_option autoImplicit false

namespace PythonAssist

structure ClientStyles where
  snippets : Bool
  nestedSymbols : Bool
  deriving DecidableEq, Repr

namespace Capabilities

abbrev Check := Json → Decoded Unit

def flag : Check := Reader.check Json.decodeBool

def text : Check := Reader.check Json.decodeString

def number : Check := Reader.check Json.decodeInt32

def count : Check := Reader.check Json.decodeUInt32

def any : Check := fun _ => .ok ()

def listOf (item : Check) : Check := Reader.check (Json.decodeList item)

def word (known : List String) : Check :=
  decodeVariant fun name =>
    if known.contains name then .ok () else .error (.unknownVariant name known)

def record (what : String) (fields : List (String × Check)) : Check :=
  (Reader.shape fields).decode ("struct " ++ what)

def dynamic (what : String) (fields : List (String × Check)) : Check :=
  record what (("dynamicRegistration", flag) :: fields)

def registration : Check := dynamic "DynamicRegistrationClientCapabilities" []

def goto : Check := dynamic "GotoCapability" [("linkSupport", flag)]

def markup : Check := listOf (word ["plaintext", "markdown"])

def kinds (what : String) : Check := record what [("valueSet", listOf number)]

def resolve (what : String) : Check :=
  Reader.decode (Reader.required "properties" (listOf text)) ("struct " ++ what)

def refresh (what : String) : Check := record what [("refreshSupport", flag)]

def workspaceEdit : Check :=
  record "WorkspaceEditClientCapabilities"
    [("documentChanges", flag),
      ("resourceOperations", listOf (word ["create", "rename", "delete"])),
      ("failureHandling", word ["abort", "transactional", "textOnlyTransactional", "undo"]),
      ("normalizesLineEndings", flag),
      ("changeAnnotationSupport",
        record "ChangeAnnotationWorkspaceEditClientCapabilities" [("groupsOnLabel", flag)])]

def workspace : Check :=
  record "WorkspaceClientCapabilities"
    [("applyEdit", flag), ("workspaceEdit", workspaceEdit),
      ("didChangeConfiguration", registration),
      ("didChangeWatchedFiles",
        dynamic "DidChangeWatchedFilesClientCapabilities" [("relativePatternSupport", flag)]),
      ("symbol",
        dynamic "WorkspaceSymbolClientCapabilities"
          [("symbolKind", kinds "SymbolKindCapability"), ("tagSupport", any),
            ("resolveSupport", resolve "WorkspaceSymbolResolveSupportCapability")]),
      ("executeCommand", registration), ("workspaceFolders", flag), ("configuration", flag),
      ("semanticTokens", refresh "SemanticTokensWorkspaceClientCapabilities"),
      ("codeLens", refresh "CodeLensWorkspaceClientCapabilities"),
      ("fileOperations",
        dynamic "WorkspaceFileOperationsClientCapabilities"
          [("didCreate", flag), ("willCreate", flag), ("didRename", flag), ("willRename", flag),
            ("didDelete", flag), ("willDelete", flag)]),
      ("inlineValue", refresh "InlineValueWorkspaceClientCapabilities"),
      ("inlayHint", refresh "InlayHintWorkspaceClientCapabilities"),
      ("diagnostic", refresh "DiagnosticWorkspaceClientCapabilities")]

def synchronization : Check :=
  dynamic "TextDocumentSyncClientCapabilities"
    [("willSave", flag), ("willSaveWaitUntil", flag), ("didSave", flag)]

def completionItem : Json → Decoded Bool :=
  Reader.decode
    ((fun snippets _ => snippets.getD false) <$> .optional "snippetSupport" Json.decodeBool <*>
      .shape
        [("commitCharactersSupport", flag), ("documentationFormat", markup),
          ("deprecatedSupport", flag), ("preselectSupport", flag), ("tagSupport", any),
          ("insertReplaceSupport", flag),
          ("resolveSupport", resolve "CompletionItemCapabilityResolveSupport"),
          ("insertTextModeSupport",
            Reader.decode (Reader.required "valueSet" (listOf number))
              "struct InsertTextModeSupport"),
          ("labelDetailsSupport", flag)])
    "struct CompletionItemCapability"

def completion : Json → Decoded Bool :=
  Reader.decode
    ((fun _ snippets _ => snippets.getD false) <$>
      .optional "dynamicRegistration" Json.decodeBool <*>
      .optional "completionItem" completionItem <*>
      .shape
        [("completionItemKind", kinds "CompletionItemKindCapability"), ("contextSupport", flag),
          ("insertTextMode", number),
          ("completionList",
            record "CompletionListCapability" [("itemDefaults", listOf text)])])
    "struct CompletionClientCapabilities"

def signatureHelp : Check :=
  dynamic "SignatureHelpClientCapabilities"
    [("signatureInformation",
        record "SignatureInformationSettings"
          [("documentationFormat", markup),
            ("parameterInformation",
              record "ParameterInformationSettings" [("labelOffsetSupport", flag)]),
            ("activeParameterSupport", flag)]),
      ("contextSupport", flag)]

def documentSymbol : Json → Decoded Bool :=
  Reader.decode
    ((fun _ _ nested _ => nested.getD false) <$>
      .optional "dynamicRegistration" Json.decodeBool <*>
      .optional "symbolKind" (kinds "SymbolKindCapability") <*>
      .optional "hierarchicalDocumentSymbolSupport" Json.decodeBool <*>
      .shape [("tagSupport", any)])
    "struct DocumentSymbolClientCapabilities"

def codeAction : Check :=
  dynamic "CodeActionClientCapabilities"
    [("codeActionLiteralSupport",
        Reader.decode
          (Reader.required "codeActionKind"
            (Reader.decode (Reader.required "valueSet" (listOf text))
              "struct CodeActionKindLiteralSupport"))
          "struct CodeActionLiteralSupport"),
      ("isPreferredSupport", flag), ("disabledSupport", flag), ("dataSupport", flag),
      ("resolveSupport", resolve "CodeActionCapabilityResolveSupport"),
      ("honorsChangeAnnotations", flag)]

def publishDiagnostics : Check :=
  record "PublishDiagnosticsClientCapabilities"
    [("relatedInformation", flag), ("tagSupport", any), ("versionSupport", flag),
      ("codeDescriptionSupport", flag), ("dataSupport", flag)]

def foldingRange : Check :=
  dynamic "FoldingRangeClientCapabilities"
    [("rangeLimit", count), ("lineFoldingOnly", flag),
      ("foldingRangeKind", any), ("foldingRange", any)]

def textDocument : Json → Decoded ClientStyles :=
  Reader.decode
    ((fun _ snippets _ nested _ =>
        { snippets := snippets.getD false, nestedSymbols := nested.getD false }) <$>
      .optional "synchronization" synchronization <*> .optional "completion" completion <*>
      .shape
        [("hover", dynamic "HoverClientCapabilities" [("contentFormat", markup)]),
          ("signatureHelp", signatureHelp), ("references", registration),
          ("documentHighlight", registration)] <*>
      .optional "documentSymbol" documentSymbol <*>
      .shape
        [("formatting", registration), ("rangeFormatting", registration),
          ("onTypeFormatting", registration), ("declaration", goto), ("definition", goto),
          ("typeDefinition", goto), ("implementation", goto), ("codeAction", codeAction),
          ("codeLens", registration),
          ("documentLink", dynamic "DocumentLinkClientCapabilities" [("tooltipSupport", flag)]),
          ("colorProvider", registration),
          ("rename",
            dynamic "RenameClientCapabilities"
              [("prepareSupport", flag), ("prepareSupportDefaultBehavior", number),
                ("honorsChangeAnnotations", flag)]),
          ("publishDiagnostics", publishDiagnostics), ("foldingRange", foldingRange),
          ("selectionRange", dynamic "SelectionRangeClientCapabilities" []),
          ("linkedEditingRange", registration), ("callHierarchy", registration),
          ("semanticTokens", any), ("moniker", registration), ("typeHierarchy", registration),
          ("inlineValue", registration), ("inlayHint", any), ("diagnostic", any)])
    "struct TextDocumentClientCapabilities"

def window : Check :=
  record "WindowClientCapabilities"
    [("workDoneProgress", flag),
      ("showMessage",
        record "ShowMessageRequestClientCapabilities"
          [("messageActionItem",
            record "MessageActionItemCapabilities" [("additionalPropertiesSupport", flag)])]),
      ("showDocument",
        Reader.decode (Reader.required "support" flag) "struct ShowDocumentClientCapabilities")]

def regularExpressions : Json → Decoded Unit :=
  Reader.decode
    ((fun _ _ => ()) <$> .required "engine" Json.decodeString <*>
      .optional "version" Json.decodeString)
    "struct RegularExpressionsClientCapabilities"

def markdown : Json → Decoded Unit :=
  Reader.decode
    ((fun _ _ _ => ()) <$> .required "parser" Json.decodeString <*>
      .optional "version" Json.decodeString <*>
      .optional "allowedTags" (Json.decodeList Json.decodeString))
    "struct MarkdownClientCapabilities"

def general : Check :=
  record "GeneralClientCapabilities"
    [("regularExpressions", regularExpressions), ("markdown", markdown),
      ("staleRequestSupport", any), ("positionEncodings", listOf text)]

end Capabilities

namespace ClientStyles

def plain : ClientStyles := { snippets := false, nestedSymbols := false }

def reader : Reader ClientStyles :=
  (fun _ styles _ => styles.getD plain) <$> .optional "workspace" Capabilities.workspace <*>
    .optional "textDocument" Capabilities.textDocument <*>
    .shape
      [("notebookDocument", Capabilities.any), ("window", Capabilities.window),
        ("general", Capabilities.general), ("experimental", Capabilities.any)]

def decode : Json → Decoded ClientStyles := reader.decode "struct ClientCapabilities"

end ClientStyles

end PythonAssist
