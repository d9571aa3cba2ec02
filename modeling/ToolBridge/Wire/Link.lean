import ToolBridge.Json.Decode
import ToolBridge.Link

/-!
# Links as JSON
-/

namespace ToolBridge.Link

open ToolBridge.Json

def fieldNames : List String :=
  ["startIndex", "length", "tooltip", "filePath", "line", "column"]

/-- A link as an object.  A target that is not there is left out. -/
def toJson (link : Link) : Json :=
  .object
    ([("startIndex", .nat link.startIndex), ("length", .nat link.length),
      ("tooltip", .string link.tooltip), ("filePath", .string link.filePath)] ++
      (link.line.map fun line => ("line", Json.nat line)).toList ++
      (link.column.map fun column => ("column", Json.nat column)).toList)

def ofJson? (value : Json) : Option Link :=
  match record? fieldNames 2 value with
  | some [startIndex, length, tooltip, filePath, line, column] => do
      return {
        startIndex := ← required nat64? startIndex
        length := ← required nat64? length
        tooltip := ← required string? tooltip
        filePath := ← required string? filePath
        line := ← optional nat32? line
        column := ← optional nat32? column }
  | _ => none

end ToolBridge.Link
