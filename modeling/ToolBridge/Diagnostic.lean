import ToolBridge.Document

/-!
# Diagnostics

A diagnostic is toolchain text anchored at a place of a document snapshot.
-/

namespace ToolBridge

/-- How grave a diagnostic is. -/
inductive Severity where
  | error
  | warning
  | information
  | hint
  deriving DecidableEq, Repr

namespace Severity

/-- The word used in data. -/
def name : Severity → String
  | error => "error"
  | warning => "warning"
  | information => "information"
  | hint => "hint"

/-- The word used in reports. -/
def label : Severity → String
  | error => "error"
  | warning => "warning"
  | information => "info"
  | hint => "hint"

/-- The editor's number. -/
def rank : Severity → Nat
  | error => 1
  | warning => 2
  | information => 3
  | hint => 4

def all : List Severity := [error, warning, information, hint]

def ofName? (word : String) : Option Severity :=
  all.find? fun severity => severity.name == word

end Severity

/-- Which pass of the toolchain wrote the text. -/
inductive Pass where
  /-- The background check of a document. -/
  | checker
  /-- A background check that ended with the code for a syntax error. -/
  | syntaxChecker
  /-- A run that the user asked for. -/
  | runner
  deriving DecidableEq, Repr

namespace Pass

/-- The word used in data. -/
def name : Pass → String
  | checker => "Checker"
  | syntaxChecker => "SyntaxChecker"
  | runner => "Runner"

/-- The word shown to the user. -/
def label : Pass → String
  | checker => "frg-check"
  | syntaxChecker => "frg-syntax"
  | runner => "frg-run"

def all : List Pass := [checker, syntaxChecker, runner]

def ofName? (word : String) : Option Pass :=
  all.find? fun pass => pass.name == word

end Pass

/-- The collection a diagnostic belongs to. -/
inductive Channel where
  | check
  | run
  deriving DecidableEq, Repr

namespace Channel

def name : Channel → String
  | check => "Check"
  | run => "Run"

def all : List Channel := [check, run]

def ofName? (word : String) : Option Channel :=
  all.find? fun channel => channel.name == word

end Channel

/-- Toolchain text with its place in a snapshot, both as an editor range and
as character offsets. -/
structure Diagnostic where
  range : Extent
  offsets : CharSpan
  severity : Severity
  message : String
  source : Pass
  channel : Channel
  deriving DecidableEq, Repr

namespace Diagnostic

/-- No usable place was known: the diagnostic stands in front of the first
character and covers nothing. -/
def isUnlocated (diagnostic : Diagnostic) : Bool :=
  diagnostic.offsets.isEmpty && diagnostic.offsets.start == 0

/-- Toolchain text resolved against a snapshot.  Without a location it is
anchored at the start. -/
def resolve (document : Document) (location : Option Location)
    (message : String) (severity : Severity) (source : Pass)
    (channel : Channel) : Diagnostic :=
  let offsets :=
    match location with
    | some location => document.spanOf location.line location.column
    | none => CharSpan.documentStart
  { range := document.extentOf offsets
    offsets
    severity
    message
    source
    channel }

end Diagnostic

end ToolBridge
