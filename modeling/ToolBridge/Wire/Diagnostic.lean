import ToolBridge.Diagnostic
import ToolBridge.Json.Decode

/-!
# Diagnostics as JSON

The full form keeps every field and can be read back.  The editor's form has
the severity as a number and the pass by the word shown to the user.
-/

namespace ToolBridge

open ToolBridge.Json

namespace Position

def toJson (position : Position) : Json :=
  .object [("line", .nat position.line), ("character", .nat position.character)]

def ofJson? (value : Json) : Option Position :=
  match record? ["line", "character"] 0 value with
  | some [line, character] => do
      return ⟨← required nat32? line, ← required nat32? character⟩
  | _ => none

end Position

namespace Extent

def toJson (range : Extent) : Json :=
  .object [("start", range.start.toJson), ("end", range.stop.toJson)]

def ofJson? (value : Json) : Option Extent :=
  match record? ["start", "end"] 0 value with
  | some [start, stop] => do
      return ⟨← required Position.ofJson? start, ← required Position.ofJson? stop⟩
  | _ => none

end Extent

namespace CharSpan

def toJson (span : CharSpan) : Json :=
  .object [("start", .nat span.start), ("end", .nat span.stop)]

def ofJson? (value : Json) : Option CharSpan :=
  match record? ["start", "end"] 0 value with
  | some [start, stop] => do
      return ⟨← required nat64? start, ← required nat64? stop⟩
  | _ => none

end CharSpan

namespace Diagnostic

def fieldNames : List String :=
  ["range", "offsets", "severity", "message", "source", "channel"]

def toJson (diagnostic : Diagnostic) : Json :=
  .object
    [("range", diagnostic.range.toJson),
     ("offsets", diagnostic.offsets.toJson),
     ("severity", .string diagnostic.severity.name),
     ("message", .string diagnostic.message),
     ("source", .string diagnostic.source.name),
     ("channel", .string diagnostic.channel.name)]

/-- The diagnostic that a value in full form stands for. -/
def ofJson? (value : Json) : Option Diagnostic :=
  match record? fieldNames 0 value with
  | some [range, offsets, severity, message, source, channel] => do
      return {
        range := ← required Extent.ofJson? range
        offsets := ← required CharSpan.ofJson? offsets
        severity := ← required (word? Severity.ofName?) severity
        message := ← required string? message
        source := ← required (word? Pass.ofName?) source
        channel := ← required (word? Channel.ofName?) channel }
  | _ => none

/-- The text of a diagnostic once more, at the same place of the document. -/
def relatedInformation (diagnostic : Diagnostic) (uri : String) : Json :=
  .object
    [("location",
      .object [("uri", .string uri), ("range", diagnostic.range.toJson)]),
     ("message", .string diagnostic.message)]

/-- The editor's form of a diagnostic, with related information if the
document's URI is given. -/
def toEditorJson (related : Option String) (diagnostic : Diagnostic) : Json :=
  .object
    ([("range", diagnostic.range.toJson),
      ("severity", .nat diagnostic.severity.rank),
      ("source", .string diagnostic.source.label),
      ("message", .string diagnostic.message)] ++
      (related.map fun uri =>
        ("relatedInformation",
          Json.array [diagnostic.relatedInformation uri])).toList)

end Diagnostic

end ToolBridge
