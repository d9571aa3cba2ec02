import ToolBridge.CommandLine.Paint
import ToolBridge.Diagnostic
import ToolBridge.Json.Printer
import ToolBridge.Link

/-!
# Reports

Diagnostics and links as the command line prints them, with lines and columns
counted from one.
-/

namespace ToolBridge.CommandLine

open ToolBridge.Text

/-- One printed diagnostic. -/
structure Report where
  file : String
  line : Nat
  column : Nat
  severity : Severity
  source : String
  message : String
  deriving DecidableEq, Repr

namespace Report

def ofDiagnostic (file : String) (diagnostic : Diagnostic) : Report :=
  { file
    line := countedFromOne diagnostic.range.start.line
    column := countedFromOne diagnostic.range.start.character
    severity := diagnostic.severity
    source := diagnostic.source.label
    message := diagnostic.message }

def severityStyle : Severity → Style
  | .error => .boldRed
  | .warning => .boldYellow
  | .information => .cyan
  | .hint => .cyan

/-- Place, severity, message and pass on one line. -/
def text (colors : Bool) (report : Report) : String :=
  paint colors .bold report.file ++ ":" ++ numeral report.line ++ ":" ++
    numeral report.column ++ ": " ++
    paint colors (severityStyle report.severity) report.severity.label ++ ": " ++
    report.message ++ " " ++ paint colors .dimmed ("[" ++ report.source ++ "]")

def toJson (report : Report) : Json :=
  .object
    [("file", .string report.file),
     ("line", .nat report.line),
     ("column", .nat report.column),
     ("severity", .string report.severity.name),
     ("source", .string report.source),
     ("message", .string report.message)]

def allJson (reports : List Report) : String :=
  (Json.array (reports.map toJson)).pretty

end Report

/-- The printed form of a link on an input line. -/
def linkText (colors : Bool) (line : Nat) (link : Link) : String :=
  numeral line ++ ": " ++ paint colors .underline link.tooltip

end ToolBridge.CommandLine
