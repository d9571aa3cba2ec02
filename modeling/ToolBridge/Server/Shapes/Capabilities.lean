import ToolBridge.Server.Shapes.Basic

/-!
# What the editor can do

The shape of the capabilities that the editor announces, and of the
introduction in which it does so.
-/

namespace ToolBridge.Server.Shapes

open ToolBridge.Json Shape

/-- A feature that may be registered later. -/
def dynamic : Shape := nullable (record (flags ["dynamicRegistration"]))

/-- A feature whose views may be refreshed. -/
def refreshable : Shape := nullable (record (flags ["refreshSupport"]))

def numberSet : Shape :=
  nullable (record [("valueSet", nullable (list int32))])

/-- A set of tags, or only whether there are tags. -/
def tagSupport : Shape :=
  omissible (oneOf [.bool, record [("valueSet", list int32)]])

/-- The properties that may be filled in later. -/
def properties : Shape := nullable (record [("properties", texts)])

/-- The formats of a text. -/
def formats : Shape := nullable (list markupKind)

def workspaceEdit : Shape :=
  nullable (record
    [("documentChanges", nullable .bool),
     ("resourceOperations",
      nullable (list (word ["create", "rename", "delete"]))),
     ("failureHandling",
      nullable
        (word ["abort", "transactional", "textOnlyTransactional", "undo"])),
     ("normalizesLineEndings", nullable .bool),
     ("changeAnnotationSupport", nullable (record (flags ["groupsOnLabel"])))])

def workspace : Shape :=
  record
    [("applyEdit", nullable .bool), ("workspaceEdit", workspaceEdit),
     ("didChangeConfiguration", dynamic),
     ("didChangeWatchedFiles",
      nullable
        (record (flags ["dynamicRegistration", "relativePatternSupport"]))),
     ("symbol",
      nullable (record
        [("dynamicRegistration", nullable .bool), ("symbolKind", numberSet),
         ("tagSupport", tagSupport), ("resolveSupport", properties)])),
     ("executeCommand", dynamic), ("workspaceFolders", nullable .bool),
     ("configuration", nullable .bool), ("semanticTokens", refreshable),
     ("codeLens", refreshable),
     ("fileOperations",
      nullable (record
        (flags
          ["dynamicRegistration", "didCreate", "willCreate", "didRename",
           "willRename", "didDelete", "willDelete"]))),
     ("inlineValue", refreshable), ("inlayHint", refreshable),
     ("diagnostic", refreshable)]

def completion : Shape :=
  nullable (record
    [("dynamicRegistration", nullable .bool),
     ("completionItem",
      nullable (record
        [("snippetSupport", nullable .bool),
         ("commitCharactersSupport", nullable .bool),
         ("documentationFormat", formats),
         ("deprecatedSupport", nullable .bool),
         ("preselectSupport", nullable .bool), ("tagSupport", tagSupport),
         ("insertReplaceSupport", nullable .bool),
         ("resolveSupport", properties),
         ("insertTextModeSupport",
          nullable (record [("valueSet", list int32)])),
         ("labelDetailsSupport", nullable .bool)])),
     ("completionItemKind", numberSet), ("contextSupport", nullable .bool),
     ("insertTextMode", nullable int32),
     ("completionList", nullable (record [("itemDefaults", nullable texts)]))])

def signatureHelp : Shape :=
  nullable (record
    [("dynamicRegistration", nullable .bool),
     ("signatureInformation",
      nullable (record
        [("documentationFormat", formats),
         ("parameterInformation",
          nullable (record (flags ["labelOffsetSupport"]))),
         ("activeParameterSupport", nullable .bool)])),
     ("contextSupport", nullable .bool)])

/-- Capabilities for following a name. -/
def goto : Shape :=
  nullable (record (flags ["dynamicRegistration", "linkSupport"]))

def codeAction : Shape :=
  nullable (record
    [("dynamicRegistration", nullable .bool),
     ("codeActionLiteralSupport",
      nullable (record [("codeActionKind", record [("valueSet", texts)])])),
     ("isPreferredSupport", nullable .bool),
     ("disabledSupport", nullable .bool), ("dataSupport", nullable .bool),
     ("resolveSupport", properties),
     ("honorsChangeAnnotations", nullable .bool)])

def publishDiagnostics : Shape :=
  record
    [("relatedInformation", nullable .bool), ("tagSupport", tagSupport),
     ("versionSupport", nullable .bool),
     ("codeDescriptionSupport", nullable .bool),
     ("dataSupport", nullable .bool)]

def folding : Shape :=
  nullable (record
    [("dynamicRegistration", nullable .bool), ("rangeLimit", nullable nat32),
     ("lineFoldingOnly", nullable .bool),
     ("foldingRangeKind",
      nullable (record
        [("valueSet",
          nullable (list (word ["comment", "imports", "region"])))])),
     ("foldingRange", nullable (record (flags ["collapsedText"])))])

def semanticTokens : Shape :=
  nullable (record
    [("dynamicRegistration", nullable .bool),
     ("requests",
      record
        [("range", nullable .bool),
         ("full", nullable (oneOf [.bool, record (flags ["delta"])]))]),
     ("tokenTypes", texts), ("tokenModifiers", texts), ("formats", texts),
     ("overlappingTokenSupport", nullable .bool),
     ("multilineTokenSupport", nullable .bool),
     ("serverCancelSupport", nullable .bool),
     ("augmentsSyntaxTokens", nullable .bool)])

def documents : Shape :=
  record
    [("synchronization",
      nullable (record
        (flags
          ["dynamicRegistration", "willSave", "willSaveWaitUntil",
           "didSave"]))),
     ("completion", completion),
     ("hover",
      nullable (record
        [("dynamicRegistration", nullable .bool), ("contentFormat", formats)])),
     ("signatureHelp", signatureHelp), ("references", dynamic),
     ("documentHighlight", dynamic),
     ("documentSymbol",
      nullable (record
        [("dynamicRegistration", nullable .bool), ("symbolKind", numberSet),
         ("hierarchicalDocumentSymbolSupport", nullable .bool),
         ("tagSupport", tagSupport)])),
     ("formatting", dynamic), ("rangeFormatting", dynamic),
     ("onTypeFormatting", dynamic), ("declaration", goto),
     ("definition", goto), ("typeDefinition", goto), ("implementation", goto),
     ("codeAction", codeAction), ("codeLens", dynamic),
     ("documentLink",
      nullable (record (flags ["dynamicRegistration", "tooltipSupport"]))),
     ("colorProvider", dynamic),
     ("rename",
      nullable (record
        [("dynamicRegistration", nullable .bool),
         ("prepareSupport", nullable .bool),
         ("prepareSupportDefaultBehavior", nullable int32),
         ("honorsChangeAnnotations", nullable .bool)])),
     ("publishDiagnostics", nullable publishDiagnostics),
     ("foldingRange", folding), ("selectionRange", dynamic),
     ("linkedEditingRange", dynamic), ("callHierarchy", dynamic),
     ("semanticTokens", semanticTokens), ("moniker", dynamic),
     ("typeHierarchy", dynamic), ("inlineValue", dynamic),
     ("inlayHint",
      nullable (record
        [("dynamicRegistration", nullable .bool),
         ("resolveSupport", properties)])),
     ("diagnostic",
      nullable
        (record (flags ["dynamicRegistration", "relatedDocumentSupport"])))]

def window : Shape :=
  record
    [("workDoneProgress", nullable .bool),
     ("showMessage",
      nullable (record
        [("messageActionItem",
          nullable (record (flags ["additionalPropertiesSupport"])))])),
     ("showDocument", nullable (record [("support", .bool)]))]

/-- Capabilities that concern no feature of their own. -/
def general : Shape :=
  record
    [("regularExpressions",
      nullable (record [("engine", text), ("version", nullable text)])),
     ("markdown",
      nullable (record
        [("parser", text), ("version", nullable text),
         ("allowedTags", nullable texts)])),
     ("staleRequestSupport",
      nullable (record
        [("cancel", .bool), ("retryOnContentModified", texts)])),
     ("positionEncodings", nullable texts)]

def capabilities : Shape :=
  record
    [("workspace", nullable workspace), ("textDocument", nullable documents),
     ("window", nullable window), ("general", nullable general),
     ("experimental", nullable anything)]

/-- The parameters of the first request. -/
def introduction : Shape :=
  record
    [("processId", nullable nat32), ("rootPath", nullable text),
     ("rootUri", nullable uri), ("initializationOptions", nullable anything),
     ("capabilities", capabilities),
     ("trace", nullable (word ["off", "messages", "verbose"])),
     ("workspaceFolders",
      nullable (list (record [("uri", uri), ("name", text)]))),
     ("clientInfo",
      nullable (record [("name", text), ("version", nullable text)])),
     ("locale", nullable text)]

/-- Does the editor want related information, by its capabilities? -/
def wantsRelated (value : Json) : Bool :=
  let related := do
    let value ← capabilities.get? "textDocument" value
    let value ← documents.get? "publishDiagnostics" value
    let value ← publishDiagnostics.get? "relatedInformation" value
    bool? value
  related.getD false

end ToolBridge.Server.Shapes
