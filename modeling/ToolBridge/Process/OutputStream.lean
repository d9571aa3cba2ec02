import ToolBridge.ProcessTable
import ToolBridge.Text.Lines
import ToolBridge.Text.Utf8

/-!
# Output streams

A process writes bytes, and its observer sees lines.  A line ends with a line
feed, in front of which one carriage return is dropped; what follows the last
line feed is a line if it is not empty.  The first line that is not UTF-8
ends the stream.
-/

namespace ToolBridge.OutputStream

open ToolBridge.Text

def isFeed (byte : UInt8) : Bool := byte == 0x0A

def isReturn (byte : UInt8) : Bool := byte == 0x0D

/-- The lines in front of the first piece that is not UTF-8. -/
def decodable : List (List UInt8) → List String
  | [] => []
  | line :: rest =>
      match utf8Decode? line with
      | some text => String.ofList text :: decodable rest
      | none => []

/-- The pieces of a stream, each with its line feed. -/
def rawLines (bytes : List UInt8) : List (List UInt8) :=
  segmentsBy isFeed bytes

/-- The lines that are read of a stream that has ended. -/
def lines (bytes : List UInt8) : List String :=
  decodable ((rawLines bytes).map (bodyBy isFeed isReturn))

/-- The lines that are read of a stream that stays open: only those that end
with a line feed. -/
def completeLines (bytes : List UInt8) : List String :=
  let complete := (rawLines bytes).filter fun line =>
    line.getLast?.any isFeed
  decodable (complete.map (bodyBy isFeed isReturn))

/-- Lines put together again, each with a line feed. -/
def captured (lines : List String) : String :=
  lines.foldl (fun text line => text ++ line ++ "\n") ""

end ToolBridge.OutputStream
