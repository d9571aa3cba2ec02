import ToolBridge.Wire.Diagnostic

/-!
# Messages to the editor

Everything that the server tells the editor of its own accord.
-/

namespace ToolBridge

/-- How urgent a message to the user is. -/
inductive Urgency where
  | error
  | warning
  | information
  deriving DecidableEq, Repr

namespace Urgency

/-- The editor's number. -/
def rank : Urgency → Nat
  | error => 1
  | warning => 2
  | information => 3

end Urgency

inductive Message where
  /-- All diagnostics of a document, perhaps with related information. -/
  | diagnostics (uri : String) (related : Bool) (held : List Diagnostic)
  /-- A line for the output panel. -/
  | outputLine (text : String)
  | outputClear
  | outputReveal
  /-- A line for the log. -/
  | log (urgency : Urgency) (text : String)
  /-- A message that the user has to see. -/
  | notice (urgency : Urgency) (text : String)
  /-- Open a document, perhaps with the cursor at a position. -/
  | reveal (uri : String) (position : Option Position)
  deriving DecidableEq, Repr

namespace Message

def method : Message → String
  | diagnostics _ _ _ => "textDocument/publishDiagnostics"
  | outputLine _ => "frg/output"
  | outputClear => "frg/output"
  | outputReveal => "frg/output"
  | log _ _ => "window/logMessage"
  | notice _ _ => "window/showMessage"
  | reveal _ _ => "window/showDocument"

def params : Message → Json
  | diagnostics uri related held =>
      let related := if related then some uri else none
      .object
        [("uri", .string uri),
         ("diagnostics",
          .array (held.map (Diagnostic.toEditorJson related)))]
  | outputLine text =>
      .object [("kind", .string "append"), ("text", .string text)]
  | outputClear => .object [("kind", .string "clear")]
  | outputReveal => .object [("kind", .string "show")]
  | log urgency text =>
      .object [("type", .nat urgency.rank), ("message", .string text)]
  | notice urgency text =>
      .object [("type", .nat urgency.rank), ("message", .string text)]
  | reveal uri position =>
      .object
        ([("uri", .string uri), ("external", .bool false),
          ("takeFocus", .bool true)] ++
          (position.map fun position =>
            ("selection", (Extent.mk position position).toJson)).toList)

/-- The key by which messages are put in order when the order in which they
were sent means nothing: those about a document come first. -/
def sortKey : Message → Nat × String
  | diagnostics uri _ _ => (0, uri)
  | reveal uri _ => (0, uri)
  | outputLine text => (1, text)
  | outputClear => (1, "")
  | outputReveal => (1, "")
  | log _ text => (1, text)
  | notice _ text => (1, text)

/-- Messages by their keys.  Those with one key keep their order. -/
def sorted (messages : List Message) : List Message :=
  messages.mergeSort fun left right =>
    decide (left.sortKey.1 < right.sortKey.1 ∨
      (left.sortKey.1 = right.sortKey.1 ∧ left.sortKey.2 ≤ right.sortKey.2))

end Message

end ToolBridge
