import ToolBridge.Json.Printer
import ToolBridge.Server.Commands
import ToolBridge.Server.Documents
import ToolBridge.Server.Shapes.Capabilities
import ToolBridge.Server.Shapes.Requests
import ToolBridge.Server.Tasks
import ToolBridge.Text.Literal

/-!
# Calls of the editor

A call names a method and perhaps has parameters.  A request is answered, a
notification is not.  Which calls are served depends on the phase of the
server.
-/

namespace ToolBridge

open ToolBridge.Json

structure Call where
  method : String
  params : Option Json
  /-- Is an answer expected? -/
  isRequest : Bool

/-- Why a request was refused. -/
inductive Refusal where
  | notInitialized
  | invalidRequest
  | methodNotFound
  | invalidParams (message : String)
  deriving DecidableEq, Repr

namespace Refusal

def code : Refusal → Int
  | notInitialized => -32002
  | invalidRequest => -32600
  | methodNotFound => -32601
  | invalidParams _ => -32602

def message : Refusal → String
  | notInitialized => "Server not initialized"
  | invalidRequest => "Invalid request"
  | methodNotFound => "Method not found"
  | invalidParams message => message

def missingParams : Refusal := .invalidParams "Missing params field"

def badParams : Refusal := .invalidParams "Invalid params"

end Refusal

/-- What a call is answered. -/
abbrev Reply := Except Refusal Json

namespace Server

def servedRequests : List String :=
  ["initialize", "shutdown", "workspace/executeCommand",
   "frg/resolveTerminalLink", "frg/openTerminalLink"]

/-- The parameters of a request that is known and refused. -/
def refusedShape? (method : String) : Option Shape :=
  Shapes.refusedRequests.lookup method

/-- The notification that a request is to be given up.  Requests are answered
at once, so that there is nothing to give up. -/
def cancelMethod : String := "$/cancelRequest"

/-- The notifications of the protocol, whether anything is done about them
or not. -/
def notifications : List String :=
  ["initialized", "textDocument/didOpen", "textDocument/didChange",
   "textDocument/didClose", "workspace/didChangeConfiguration",
   "textDocument/willSave", "textDocument/didSave",
   "workspace/didChangeWorkspaceFolders", "workspace/didCreateFiles",
   "workspace/didRenameFiles", "workspace/didDeleteFiles",
   "workspace/didChangeWatchedFiles", cancelMethod]

/-- Is the method one of a request?  Nothing, if the method is not known. -/
def expectsAnswer? (method : String) : Option Bool :=
  if servedRequests.contains method || (refusedShape? method).isSome then
    some true
  else if notifications.contains method then some false
  else none

/-- Is the method reserved for the transport?  Then it is passed over if it is
not known. -/
def isTransportMethod (method : String) : Bool :=
  Text.startsWith ['$', '/'] method.toList

/-- Why the phase does not allow a known method. -/
def phaseRefusal? (phase : Phase) (method : String) : Option Refusal :=
  if method = cancelMethod then none
  else
    match phase with
    | .fresh => if method = "initialize" then none else some .notInitialized
    | .ready => if method = "initialize" then some .invalidRequest else none
    | .closed => some .invalidRequest
    | .exited => some .invalidRequest

/-! ## Parameters -/

def uri? (value : Json) : Option Uri :=
  (string? value).bind Uri.ofText?

def openedDocument? (params : Json) : Option Document :=
  match record? ["textDocument"] 0 params with
  | some [some document] =>
      match record? ["uri", "languageId", "version", "text"] 0 document with
      | some [uri, language, version, text] => do
          let uri ← required uri? uri
          let _ ← required string? language
          return ⟨uri.text, ← required int32? version, ← required string? text⟩
      | _ => none
  | _ => none

/-- The new text of one change. -/
def changeText? (value : Json) : Option String :=
  match record? ["range", "rangeLength", "text"] 0 value with
  | some [range, length, text] => do
      let _ ← optional Extent.ofJson? range
      let _ ← optional nat32? length
      required string? text
  | _ => none

/-- The document of a change notification.  The last change carries the whole
text, and without changes there is nothing to do. -/
def changedDocument? (params : Json) : Option (Option Document) :=
  match record? ["textDocument", "contentChanges"] 0 params with
  | some [some document, some changes] =>
      match record? ["uri", "version"] 0 document with
      | some [uri, version] => do
          let uri ← required uri? uri
          let version ← required int32? version
          let texts ← listOf? changeText? changes
          return texts.getLast?.map fun text => ⟨uri.text, version, text⟩
      | _ => none
  | _ => none

def closedDocument? (params : Json) : Option String :=
  match record? ["textDocument"] 0 params with
  | some [some document] =>
      match record? ["uri"] 0 document with
      | some [uri] => (required uri? uri).map Uri.text
      | _ => none
  | _ => none

def changedSettings? (params : Json) : Option Json :=
  match record? ["settings"] 0 params with
  | some [settings] => settings
  | _ => none

/-- What matters of the parameters of the first request: whether related
information is wanted, and the settings. -/
def initializeParams? (params : Json) : Option (Bool × Option Json) :=
  if Shapes.introduction.fits params then
    let related :=
      (Shapes.introduction.get? "capabilities" params).any Shapes.wantsRelated
    let options :=
      (Shapes.introduction.get? "initializationOptions" params).filter
        fun value => !value.isNull
    some (related, options)
  else none

/-- The token by which progress could be reported. -/
def progressToken? : Json → Option Unit
  | .string _ => some ()
  | value => (int32? value).map fun _ => ()

def command? (params : Json) : Option (String × List Json) :=
  match params with
  | .object fields => do
      let command ← required string? (lookupField "command" fields)
      let _ ← optional progressToken? (lookupField "workDoneToken" fields)
      match lookupField "arguments" fields with
      | none => return (command, [])
      | some (.array arguments) => return (command, arguments)
      | some _ => none
  | _ => none

/-- A line of terminal text and the active document. -/
def linkParams? (params : Json) : Option (String × Uri) :=
  match record? ["line", "activeDocument"] 0 params with
  | some [line, active] => do
      return (← required string? line, ← required uri? active)
  | _ => none

/-! ## Requests and notifications -/

variable {σ : Type} [Storage σ]

/-- What the server can do. -/
def abilities : Json :=
  .object
    [("capabilities",
      .object
        [("textDocumentSync", .nat 1),
         ("executeCommandProvider",
          .object
            [("commands",
              .array [.string "frg.runFile", .string "frg.stopRun"])])]),
     ("serverInfo",
      .object [("name", .string "frg-lsp"), ("version", .string "0.3.0")])]

/-- The first request. -/
def introduce (server : Server σ) (params : Json) :
    Server σ × Reply × List Reaction :=
  match initializeParams? params with
  | none => (server, .error .badParams, [])
  | some (related, options) =>
      let server := { server with related, phase := .ready }
      match options with
      | none => (server, .ok abilities, [])
      | some options =>
          match readSettings server.machine options with
          | (some settings, reactions) =>
              (server.applySettings settings, .ok abilities, reactions)
          | (none, reactions) => (server, .ok abilities, reactions)

/-- The last request.  All processes are terminated. -/
def shutdown (server : Server σ) : Server σ × List Reaction :=
  let (bridge, effects) := server.bridge.killAll
  { server with phase := .closed }.absorb bridge effects

def execute (server : Server σ) (launcher : Launcher σ) (command : String)
    (arguments : List Json) : Server σ × Reply × List Reaction :=
  if command = "frg.runFile" then
    let (server, started, reactions) := server.runFile launcher arguments
    (server, .ok (.bool started), reactions)
  else if command = "frg.stopRun" then
    let (server, stopped, reactions) := server.stopRun
    (server, .ok (.bool stopped), reactions)
  else
    (server, .error (.invalidParams ("unknown command: " ++ command)), [])

def serveWith (server : Server σ) (launcher : Launcher σ) (method : String)
    (params : Json) : Server σ × Reply × List Reaction :=
  if method = "initialize" then server.introduce params
  else if method = "workspace/executeCommand" then
    match command? params with
    | some (command, arguments) => server.execute launcher command arguments
    | none => (server, .error .badParams, [])
  else if method = "frg/resolveTerminalLink" then
    match linkParams? params with
    | some (line, active) =>
        (server, .ok (.ofOption Link.toJson (server.resolveLink line active)),
          [])
    | none => (server, .error .badParams, [])
  else if method = "frg/openTerminalLink" then
    match Link.ofJson? params with
    | some link => (server, .ok .null, openLink link)
    | none => (server, .error .badParams, [])
  else if (refusedShape? method).any (·.fits params) then
    (server, .error .methodNotFound, [])
  else (server, .error .badParams, [])

def serve (server : Server σ) (launcher : Launcher σ) (method : String)
    (params : Option Json) : Server σ × Reply × List Reaction :=
  if method = "shutdown" then
    match params with
    | none =>
        let (server, reactions) := server.shutdown
        (server, .ok .null, reactions)
    | some params =>
        ({ server with phase := .closed },
          .error (.invalidParams ("Unexpected params: " ++ params.compact)), [])
  else
    match params with
    | none => (server, .error .missingParams, [])
    | some params => server.serveWith launcher method params

/-- Take note of a notification.  One that cannot be read is passed over. -/
def note (server : Server σ) (method : String) (params : Option Json) :
    Server σ × List Reaction :=
  match method, params with
  | "initialized", some params =>
      if (record? [] 0 params).isSome then
        (server, [.send (.log .information "frg-lsp initialized")])
      else (server, [])
  | "textDocument/didOpen", some params =>
      match openedDocument? params with
      | some document => server.store document
      | none => (server, [])
  | "textDocument/didChange", some params =>
      match changedDocument? params with
      | some (some document) => server.store document
      | _ => (server, [])
  | "textDocument/didClose", some params =>
      match closedDocument? params with
      | some id => server.closeDocument id
      | none => (server, [])
  | "workspace/didChangeConfiguration", some params =>
      match changedSettings? params with
      | some settings => server.changeSettings settings
      | none => (server, [])
  | _, _ => (server, [])

/-- A call whose kind does not fit its method.  A notification that should be
a request is passed over, but the server takes note that no more calls are
coming. -/
def misdirected (server : Server σ) (call : Call) : Server σ × Option Reply :=
  if call.isRequest then (server, some (.error .invalidRequest))
  else if call.method = "shutdown" then
    ({ server with phase := .closed }, none)
  else (server, none)

/-- Handle a call.  The end of the connection is never answered, and after it
nothing is. -/
def handle (server : Server σ) (launcher : Launcher σ) (call : Call) :
    Server σ × Option Reply × List Reaction :=
  let refuse := fun (refusal : Refusal) =>
    (server, if call.isRequest then some (.error refusal) else none, [])
  if server.phase = .exited then (server, none, [])
  else if call.method = "exit" then
    ({ server with phase := .exited }, none, [])
  else
    match expectsAnswer? call.method with
    | none =>
        if isTransportMethod call.method then (server, none, [])
        else refuse .methodNotFound
    | some expected =>
        match phaseRefusal? server.phase call.method with
        | some refusal => refuse refusal
        | none =>
            if expected != call.isRequest then
              let (server, reply) := server.misdirected call
              (server, reply, [])
            else if expected then
              let (server, reply, reactions) :=
                server.serve launcher call.method call.params
              (server, some reply, reactions)
            else
              let (server, reactions) := server.note call.method call.params
              (server, none, reactions)

end Server

end ToolBridge
