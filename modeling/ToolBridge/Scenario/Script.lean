import ToolBridge.Bridge.Basic
import ToolBridge.Process.OutputStream

/-!
# Scripted processes

A script says everything that a process of the toolchain does: what it
prints, whether it waits for a gate to open before it does anything, and how
it ends.  It takes the place of the toolchain in scenarios.
-/

namespace ToolBridge.Scenario

open ToolBridge.Text

/-- How a scripted process ends. -/
inductive Ending where
  | exit (code : Int)
  /-- By a signal, without an exit code. -/
  | signal
  /-- Not before it is terminated. -/
  | never
  deriving DecidableEq, Repr

/-- What a process does. -/
structure Script where
  stdout : List UInt8 := []
  stderr : List UInt8 := []
  /-- Print the arguments on standard error first. -/
  echoesArguments : Bool := false
  /-- Then copy the file named by the last argument. -/
  copiesFile : Bool := false
  ending : Ending := .exit 0
  /-- The gate for which it waits. -/
  gate : Option String := none
  deriving DecidableEq, Repr

namespace Script

def lineBytes (line : String) : List UInt8 :=
  utf8Encode line.toList ++ [0x0A]

/-- What is printed of the file named by the last argument. -/
def copied (readFile : String → Option (List UInt8))
    (arguments : List String) : List UInt8 :=
  ((arguments.getLast?.bind readFile)).getD (lineBytes "cat: cannot read")

/-- Everything printed on standard error. -/
def errorBytes (script : Script) (readFile : String → Option (List UInt8))
    (arguments : List String) : List UInt8 :=
  (if script.echoesArguments then arguments.flatMap lineBytes else []) ++
    (if script.copiesFile then copied readFile arguments else []) ++
    script.stderr

/-- What is seen of the process, given its arguments and the files it may
read. -/
def events (script : Script) (readFile : String → Option (List UInt8))
    (arguments : List String) : List ProcessEvent :=
  let stderr := script.errorBytes readFile arguments
  let seen := fun (read : List UInt8 → List String) =>
    (read script.stdout).map ProcessEvent.stdout ++
      (read stderr).map ProcessEvent.stderr
  match script.ending with
  | .exit code => seen OutputStream.lines ++ [.exit (some code)]
  | .signal => seen OutputStream.lines ++ [.exit none]
  | .never => seen OutputStream.completeLines

end Script

/-- A process that was started and has not done anything yet. -/
structure Actor where
  generation : Nat
  arguments : List String
  script : Script
  deriving DecidableEq, Repr

/-- The processes that have still to act, in the order of their start, and the
gates that are open. -/
structure Stage where
  actors : List Actor := []
  opened : List String := []
  deriving DecidableEq, Repr

namespace Stage

def isReady (stage : Stage) (actor : Actor) : Bool :=
  actor.script.gate.all stage.opened.contains

def add (stage : Stage) (actor : Actor) : Stage :=
  { stage with actors := stage.actors ++ [actor] }

/-- A process that was started follows a script. -/
def cast (script : Script) (stage : Stage) : Effect → Stage
  | .launched process =>
      stage.add
        ⟨process.generation, process.command.arguments, script⟩
  | _ => stage

def release (stage : Stage) (gate : String) : Stage :=
  { stage with opened := gate :: stage.opened }

/-- The first process that may act, and the stage without it. -/
def next? (stage : Stage) : Option (Actor × Stage) :=
  match stage.actors.find? stage.isReady with
  | some actor =>
      some (actor, { stage with actors := stage.actors.erase actor })
  | none => none

/-- The processes that may act, and the stage without them. -/
def ready (stage : Stage) : List Actor × Stage :=
  (stage.actors.filter stage.isReady,
    { stage with actors := stage.actors.filter fun actor =>
        !stage.isReady actor })

end Stage

end ToolBridge.Scenario
