import ToolBridge.Link
import ToolBridge.Server.Basic
import ToolBridge.Wire.Link

/-!
# Commands

What the user can ask for: to run a file, to stop the run, and to follow a
link in terminal text.
-/

namespace ToolBridge.Server

variable {σ : Type} [Storage σ]

/-- A message that the user has to see. -/
def notice (urgency : Urgency) (text : String) : List Reaction :=
  [.send (.notice urgency text)]

/-- The document that a command is about: a URI alone, or in a field. -/
def uriArgument? (arguments : List Json) : Option Uri :=
  match arguments.head? with
  | some (.string text) => Uri.ofText? text
  | some (.object fields) =>
      match Json.lookupField "uri" fields with
      | some (.string text) => Uri.ofText? text
      | _ => none
  | _ => none

/-- The text to run: what the editor has, or else what the file holds. -/
def documentToRun (server : Server σ) (uri : Uri) (path : String) :
    Except OsError Document :=
  match server.documents.get? uri.text with
  | some snapshot => .ok snapshot.document
  | none =>
      (Storage.read server.bridge.storage path).map fun text =>
        ⟨uri.text, 0, text⟩

/-- Start a run of a document that can be read. -/
def startRun (server : Server σ) (launcher : Launcher σ) (document : Document)
    (path : String) : Server σ × Bool × List Reaction :=
  let (bridge, answer, effects) :=
    server.bridge.start launcher document path server.config
  let (server, reactions) := server.absorb bridge effects
  match answer with
  | .ok _ => (server, true, reactions)
  | .error (.notSource _ _) =>
      (server, false, reactions ++ notice .warning Console.notSourceFile)
  | .error failure =>
      let text := "Forge run failed: " ++ failure.message
      (server, false,
        reactions ++ (lineMessages text).map Reaction.send ++
          notice .error text)

/-- The path that a command wants to run, if it names a source file. -/
def pathToRun? (config : Config) (arguments : List Json) :
    Option (Uri × String) :=
  match uriArgument? arguments with
  | some uri =>
      match uri.filePath? with
      | some path => if config.isSourcePath path then some (uri, path) else none
      | none => none
  | none => none

/-- Run a file.  The answer says whether a process was started. -/
def runFile (server : Server σ) (launcher : Launcher σ) (arguments : List Json) :
    Server σ × Bool × List Reaction :=
  match pathToRun? server.config arguments with
  | none => (server, false, notice .warning Console.notSourceFile)
  | some (uri, path) =>
      match server.documentToRun uri path with
      | .ok document => server.startRun launcher document path
      | .error cause =>
          (server, false,
            notice .error ("Cannot read " ++ path ++ ": " ++ cause.message))

/-- Stop the run.  The answer says whether there was one. -/
def stopRun (server : Server σ) : Server σ × Bool × List Reaction :=
  let (bridge, stopped, effects) := server.bridge.stop
  let (server, reactions) := server.absorb bridge effects
  (server, stopped, reactions)

/-- The link in a line of terminal text, if it points into the active
document. -/
def resolveLink (server : Server σ) (line : String) (active : Uri) :
    Option Link :=
  match active.filePath? with
  | some path => Link.resolve server.config.extension line path
  | none => none

/-- Follow a link. -/
def openLink (link : Link) : List Reaction :=
  match Uri.ofFilePath? link.filePath with
  | some uri => [.send (.reveal uri.text link.position?)]
  | none =>
      [.send (.log .warning
        ("Cannot open non-absolute path " ++ link.filePath))]

end ToolBridge.Server
