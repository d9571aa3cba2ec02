import ToolBridge.Publisher
import ToolBridge.Check
import ToolBridge.Console
import ToolBridge.ProcessTable
import ToolBridge.Storage
import ToolBridge.Sequencer

/-!
# The bridge

The bridge stands between an editor and the toolchain.  It is the checker and
the run session in one, with all that the two share: the supervisor's table of
processes, the publisher and the directory for scratch files.  The checker
checks snapshots in the background, one process a document, under the tickets
of a sequencer.  The run session runs files on request, one at a time.  Every
operation is a step from one state to the next, together with what the editor
sees of it.
-/

namespace ToolBridge

/-- How a run ended by itself. -/
structure RunOutcome where
  code : Option Int
  /-- The diagnostic of the error text, if there was any. -/
  diagnostic : Option Diagnostic
  deriving DecidableEq, Repr

namespace RunOutcome

/-- A run without error text. -/
def isSuccess (outcome : RunOutcome) : Bool :=
  outcome.diagnostic.isNone

end RunOutcome

/-- What is known of a live process: what it was started for and the error
text it wrote so far. -/
inductive Observer where
  | check (request : CheckRequest) (config : Config) (stderr : String)
  | run (number : Nat) (document : Document) (extension : String)
      (stderr : String)
  deriving DecidableEq, Repr

/-- A process that was started. -/
structure Started where
  slot : Slot
  generation : Nat
  command : Command
  deriving DecidableEq, Repr

/-- What the editor, the system or the caller sees of a step. -/
inductive Effect where
  /-- A process was started. -/
  | launched (process : Started)
  /-- All diagnostics of a document. -/
  | deliver (delivery : Delivery)
  | console (event : ConsoleEvent)
  /-- A document is opened, perhaps with the cursor at a position. -/
  | navigate (id : String) (position : Option Position)
  /-- The check of a process has ended. -/
  | checked (generation : Nat) (outcome : CheckOutcome)
  /-- The run of a process has ended, without an outcome when it was stopped
  or replaced. -/
  | ended (generation : Nat) (outcome : Option RunOutcome)
  deriving DecidableEq, Repr

namespace Effect

def line (text : String) : Effect :=
  .console (.append text)

end Effect

/-- The run that was started last and has not ended. -/
structure ActiveRun where
  number : Nat
  document : Document
  deriving DecidableEq, Repr

/-- The state of a checker and of a run session, with what they share. -/
structure Bridge (σ : Type) where
  storage : σ
  scratch : Scratch
  tickets : Sequencer := {}
  publisher : Publisher := {}
  processes : ProcessTable Observer := .empty
  active : Option ActiveRun := none
  /-- How many runs were started. -/
  runs : Nat := 0

/-- The system's answer to each command that might be launched, given the
files of the moment. -/
abbrev Launcher (σ : Type) := σ → Command → Except OsError Unit

namespace Observer

/-- What is seen of a process that is terminated. -/
def terminated (running : Running Observer) : Effect :=
  match running.observer with
  | .check _ _ _ => .checked running.generation .superseded
  | .run _ _ _ _ => .ended running.generation none

end Observer

namespace Bridge

variable {σ : Type}

def isRunning (bridge : Bridge σ) : Bool :=
  bridge.processes.isLive .interactive

def activeDocument (bridge : Bridge σ) : Option String :=
  bridge.active.map fun active => active.document.id

/-- Point future scratch files at another directory and extension. -/
def retarget (bridge : Bridge σ) (directory extension : String) : Bridge σ :=
  { bridge with scratch := ⟨directory, extension⟩ }

def killAll (bridge : Bridge σ) : Bridge σ × List Effect :=
  let (processes, terminated) := bridge.processes.killAll
  ({ bridge with processes }, terminated.map Observer.terminated)

/-- Show one diagnostic, whoever asked for it. -/
def publish (bridge : Bridge σ) (channel : Channel) (document : Document)
    (location : Option Location) (message : String) (severity : Severity)
    (source : Pass) : Bridge σ × List Effect :=
  let (publisher, delivery) :=
    bridge.publisher.publish channel document location message severity source
  ({ bridge with publisher }, [.deliver delivery])

end Bridge

end ToolBridge
