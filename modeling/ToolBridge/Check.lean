import ToolBridge.Config
import ToolBridge.Diagnostic
import ToolBridge.Text.Trim

/-!
# Results of a check

A check says something only on standard error.  Blank text there is a clean
result whatever the exit code; any other text is a finding.
-/

namespace ToolBridge

open ToolBridge.Text

/-- What the toolchain found wrong with a snapshot. -/
structure Finding where
  exitClass : ExitClass
  location : Option Location
  /-- The whole error text without the line breaks at its end. -/
  message : String
  severity : Severity
  source : Pass
  deriving DecidableEq, Repr

namespace Finding

/-- How grave a finding is and where it comes from, by the exit code. -/
def weigh : ExitClass → Severity × Pass
  | .syntaxError => (.error, .syntaxChecker)
  | .clean => (.warning, .checker)
  | .toolError _ => (.warning, .checker)

/-- The finding in the error text of a check. -/
def ofStderr? (config : Config) (exitClass : ExitClass) (stderr : String) :
    Option Finding :=
  if isBlankText stderr.toList then none
  else
    let (severity, source) := weigh exitClass
    some
      { exitClass
        location := locate config.extension stderr
        message := String.ofList (trimLineBreaks stderr.toList)
        severity
        source }

def diagnostic (finding : Finding) (document : Document) : Diagnostic :=
  Diagnostic.resolve document finding.location finding.message
    finding.severity finding.source .check

end Finding

/-- A document as it was at one moment.  The stamp tells it from another
snapshot with the same text. -/
structure Snapshot where
  document : Document
  stamp : Nat
  deriving DecidableEq, Repr

namespace Snapshot

def id (snapshot : Snapshot) : String := snapshot.document.id

end Snapshot

/-- A request to check a snapshot, under a ticket of its document. -/
structure CheckRequest where
  snapshot : Snapshot
  ticket : Nat
  deriving DecidableEq, Repr

namespace CheckRequest

def document (request : CheckRequest) : Document := request.snapshot.document

def id (request : CheckRequest) : String := request.document.id

end CheckRequest

inductive CheckOutcome where
  /-- A newer request or a close came first.  Nothing was shown. -/
  | superseded
  | clean
  | failed (finding : Finding)
  deriving DecidableEq, Repr

namespace CheckOutcome

/-- How a check ends that nothing came in front of. -/
def ofFinding? : Option Finding → CheckOutcome
  | some finding => failed finding
  | none => clean

end CheckOutcome

end ToolBridge
