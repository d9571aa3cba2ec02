import ToolBridge.Server.Shapes.Basic

/-!
# Requests that are refused

The protocol has requests for features that the server does not have.  Their
parameters are read all the same, so that a malformed request is told from one
for a missing feature.
-/

namespace ToolBridge.Server.Shapes

open ToolBridge.Json Shape

/-- A call about a position in a document. -/
def placeCall : Shape := call (place ++ progress)

/-- A call about a position in a document, with a result in parts. -/
def placeCallInParts : Shape := call (place ++ partialProgress)

/-- A call about a document with more fields, and a result in parts. -/
def documentCall (fields : List (String × Shape)) : Shape :=
  call (("textDocument", textDocument) :: fields ++ partialProgress)

def hierarchyItem (tags : Shape) : Shape :=
  record
    [("name", text), ("kind", int32), ("tags", nullable tags),
     ("detail", nullable text), ("uri", uri), ("range", range),
     ("selectionRange", range), ("data", nullable anything)]

/-- A call about calls of a function. -/
def callsCall : Shape :=
  call (("item", hierarchyItem (list int32)) :: partialProgress)

/-- A call about relatives of a type. -/
def typesCall : Shape :=
  call (("item", hierarchyItem int32) :: partialProgress)

/-- How a document is to be formatted.  Other fields are plain values. -/
def formattingOptions : Shape :=
  openRecord
    ([("tabSize", nat32), ("insertSpaces", .bool)] ++
      flags
        ["trimTrailingWhitespace", "insertFinalNewline", "trimFinalNewlines"])
    (oneOf [.bool, int32, text])

/-- Help on signatures that is shown. -/
def shownHelp : Shape :=
  record
    [("signatures",
      list (record
        [("label", text), ("documentation", nullable documentation),
         ("parameters",
          nullable (list (record
            [("label", oneOf [text, tuple [nat32, nat32]]),
             ("documentation", nullable documentation)]))),
         ("activeParameter", nullable nat32)])),
     ("activeSignature", nullable nat32), ("activeParameter", nullable nat32)]

/-- Changes of one document, perhaps of a version. -/
def documentEdit : Shape :=
  record
    [("textDocument", record [("uri", uri), ("version", nullable int32)]),
     ("edits", list textEdit)]

/-- Creation, renaming or deletion of a file. -/
def fileOperation : Shape :=
  oneOf
    [call
      [("kind", word ["create"]), ("uri", uri),
       ("options",
        nullable (record (flags ["overwrite", "ignoreIfExists"]))),
       ("annotationId", nullable text)],
     call
      [("kind", word ["rename"]), ("oldUri", uri), ("newUri", uri),
       ("options",
        nullable (record (flags ["overwrite", "ignoreIfExists"]))),
       ("annotationId", nullable text)],
     call
      [("kind", word ["delete"]), ("uri", uri),
       ("options",
        nullable (record
          (flags ["recursive", "ignoreIfNotExists"] ++
            [("annotationId", nullable text)])))]]

/-- Changes of several documents. -/
def manyEdits : Shape :=
  record
    [("changes", omissible (dictionary isUri (list textEdit))),
     ("documentChanges",
      nullable
        (oneOf
          [list documentEdit, list (oneOf [fileOperation, documentEdit])])),
     ("changeAnnotations",
      nullable (dictionary (fun _ => true) (record
        [("label", text), ("needsConfirmation", nullable .bool),
         ("description", nullable text)])))]

def action : Shape :=
  record
    [("title", text), ("kind", nullable text),
     ("diagnostics", nullable (list diagnostic)),
     ("edit", nullable manyEdits), ("command", nullable command),
     ("isPreferred", nullable .bool),
     ("disabled", nullable (record [("reason", text)])),
     ("data", nullable anything)]

def completionItem : Shape :=
  record
    [("label", text),
     ("labelDetails",
      nullable (record
        [("detail", nullable text), ("description", nullable text)])),
     ("kind", nullable int32), ("detail", nullable text),
     ("documentation", nullable documentation),
     ("deprecated", nullable .bool), ("preselect", nullable .bool),
     ("sortText", nullable text), ("filterText", nullable text),
     ("insertText", nullable text), ("insertTextFormat", nullable int32),
     ("insertTextMode", nullable int32),
     ("textEdit",
      nullable
        (oneOf
          [textEdit,
           record
            [("newText", text), ("insert", range), ("replace", range)]])),
     ("additionalTextEdits", nullable (list textEdit)),
     ("command", nullable command), ("commitCharacters", nullable texts),
     ("data", nullable anything), ("tags", nullable (list int32))]

def hint : Shape :=
  record
    [("position", position),
     ("label",
      oneOf
        [text,
         list (record
          [("value", text), ("tooltip", nullable documentation),
           ("location", nullable location), ("command", nullable command)])]),
     ("kind", nullable int32), ("textEdits", nullable (list textEdit)),
     ("tooltip", nullable documentation), ("paddingLeft", nullable .bool),
     ("paddingRight", nullable .bool), ("data", nullable anything)]

def symbol : Shape :=
  record
    [("name", text), ("kind", int32), ("tags", nullable (list int32)),
     ("containerName", nullable text),
     ("location", oneOf [location, record [("uri", uri)]]),
     ("data", nullable anything)]

/-- A change of files with the fields of each of them. -/
def filesCall (names : List String) : Shape :=
  record [("files", list (record (names.map fun name => (name, text))))]

/-- The requests that are known and refused, with their parameters. -/
def refusedRequests : List (String × Shape) :=
  [("textDocument/willSaveWaitUntil",
    record [("textDocument", textDocument), ("reason", int32)]),
   ("textDocument/declaration", placeCallInParts),
   ("textDocument/definition", placeCallInParts),
   ("textDocument/typeDefinition", placeCallInParts),
   ("textDocument/implementation", placeCallInParts),
   ("textDocument/references",
    call
      (("context", record [("includeDeclaration", .bool)]) :: place ++
        partialProgress)),
   ("textDocument/prepareCallHierarchy", placeCall),
   ("callHierarchy/incomingCalls", callsCall),
   ("callHierarchy/outgoingCalls", callsCall),
   ("textDocument/prepareTypeHierarchy", placeCall),
   ("typeHierarchy/supertypes", typesCall),
   ("typeHierarchy/subtypes", typesCall),
   ("textDocument/documentHighlight", placeCallInParts),
   ("textDocument/documentLink", documentCall []),
   ("documentLink/resolve",
    record
      [("range", range), ("target", nullable uri), ("tooltip", nullable text),
       ("data", nullable anything)]),
   ("textDocument/hover", placeCall),
   ("textDocument/codeLens", documentCall []),
   ("codeLens/resolve",
    record
      [("range", range), ("command", nullable command),
       ("data", nullable anything)]),
   ("textDocument/foldingRange", documentCall []),
   ("textDocument/selectionRange",
    documentCall [("positions", list position)]),
   ("textDocument/documentSymbol", documentCall []),
   ("textDocument/semanticTokens/full", documentCall []),
   ("textDocument/semanticTokens/full/delta",
    documentCall [("previousResultId", text)]),
   ("textDocument/semanticTokens/range", documentCall [("range", range)]),
   ("textDocument/inlineValue",
    call
      ([("textDocument", textDocument), ("range", range),
        ("context",
          record [("frameId", int32), ("stoppedLocation", range)])] ++
        progress)),
   ("textDocument/inlayHint",
    call ([("textDocument", textDocument), ("range", range)] ++ progress)),
   ("inlayHint/resolve", hint),
   ("textDocument/moniker", placeCallInParts),
   ("textDocument/completion",
    call
      (("context",
        nullable (record
          [("triggerKind", int32), ("triggerCharacter", nullable text)])) ::
        place ++ partialProgress)),
   ("completionItem/resolve", completionItem),
   ("textDocument/diagnostic",
    documentCall
      [("identifier", nullable text), ("previousResultId", nullable text)]),
   ("workspace/diagnostic",
    call
      ([("identifier", nullable text),
        ("previousResultIds",
          list (record [("uri", uri), ("value", text)]))] ++
        partialProgress)),
   ("textDocument/signatureHelp",
    call
      (("context",
        nullable (record
          [("triggerKind", int32), ("triggerCharacter", nullable text),
           ("isRetrigger", .bool),
           ("activeSignatureHelp", nullable shownHelp)])) ::
        place ++ progress)),
   ("textDocument/codeAction",
    documentCall
      [("range", range),
       ("context",
        record
          [("diagnostics", list diagnostic), ("only", nullable texts),
           ("triggerKind", nullable int32)])]),
   ("codeAction/resolve", action),
   ("textDocument/documentColor", documentCall []),
   ("textDocument/colorPresentation",
    documentCall
      [("color",
        record
          [("red", number), ("green", number), ("blue", number),
           ("alpha", number)]),
       ("range", range)]),
   ("textDocument/formatting",
    call
      ([("textDocument", textDocument), ("options", formattingOptions)] ++
        progress)),
   ("textDocument/rangeFormatting",
    call
      ([("textDocument", textDocument), ("range", range),
        ("options", formattingOptions)] ++ progress)),
   ("textDocument/onTypeFormatting",
    call ([("ch", text), ("options", formattingOptions)] ++ place)),
   ("textDocument/rename", call (("newName", text) :: place ++ progress)),
   ("textDocument/prepareRename", record place),
   ("textDocument/linkedEditingRange", placeCall),
   ("workspace/symbol", call (("query", text) :: partialProgress)),
   ("workspaceSymbol/resolve", symbol),
   ("workspace/willCreateFiles", filesCall ["uri"]),
   ("workspace/willRenameFiles", filesCall ["oldUri", "newUri"]),
   ("workspace/willDeleteFiles", filesCall ["uri"])]

end ToolBridge.Server.Shapes
