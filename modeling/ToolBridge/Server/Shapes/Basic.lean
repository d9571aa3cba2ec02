import ToolBridge.Json.Shape
import ToolBridge.Uri.Basic

/-!
# Shapes that many calls share

Places in documents, edits, commands and diagnostics as the editor sends them.
-/

namespace ToolBridge.Server.Shapes

open ToolBridge.Json Shape

def isUri (text : String) : Bool :=
  (Uri.ofText? text).isSome

def uri : Shape := textThat isUri

/-- Several fields of one shape, each of which may be missing. -/
def flags (names : List String) : List (String × Shape) :=
  names.map fun name => (name, nullable .bool)

def texts : Shape := list text

def position : Shape := record [("line", nat32), ("character", nat32)]

def range : Shape := record [("start", position), ("end", position)]

/-- A range in a document. -/
def location : Shape := record [("uri", uri), ("range", range)]

/-- The name of a document. -/
def textDocument : Shape := record [("uri", uri)]

/-- The fields that name a position in a document. -/
def place : List (String × Shape) :=
  [("textDocument", textDocument), ("position", position)]

/-- A number or a text. -/
def token : Shape := oneOf [int32, text]

/-- The field by which progress of a call could be reported. -/
def progress : List (String × Shape) :=
  [("workDoneToken", nullable token)]

/-- The fields by which progress and parts of a result could be reported. -/
def partialProgress : List (String × Shape) :=
  progress ++ [("partialResultToken", nullable token)]

/-- The parameters of a call that have to be an object. -/
def call (fields : List (String × Shape)) : Shape :=
  openRecord fields anything

def markupKind : Shape := word ["plaintext", "markdown"]

def markup : Shape := record [("kind", markupKind), ("value", text)]

/-- Text that may be marked up. -/
def documentation : Shape := oneOf [text, markup]

def textEdit : Shape := record [("range", range), ("newText", text)]

def command : Shape :=
  record
    [("title", text), ("command", text), ("arguments", nullable (list anything))]

def diagnostic : Shape :=
  record
    [("range", range), ("severity", nullable int32), ("code", nullable token),
     ("codeDescription", nullable (record [("href", uri)])),
     ("source", nullable text), ("message", text),
     ("relatedInformation",
      nullable (list (record [("location", location), ("message", text)]))),
     ("tags", nullable (list int32)), ("data", nullable anything)]

end ToolBridge.Server.Shapes
