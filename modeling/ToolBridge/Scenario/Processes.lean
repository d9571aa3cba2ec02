import ToolBridge.FileTree
import ToolBridge.Scenario.Script

/-!
# Scenarios of processes

Scripted processes are started in slots and killed, and everything that their
observers receive is kept under the generation of the process.  A process may
also be awaited: then its whole output is gathered, and its result can be
had when it ends or is terminated.
-/

namespace ToolBridge.Scenario

/-- Everything that a process printed, and how it ended. -/
structure Captured where
  code : Option Int
  stdout : String
  stderr : String
  deriving DecidableEq, Repr

/-- What became of an awaited process. -/
inductive Completion where
  | superseded
  | finished (output : Captured)
  deriving DecidableEq, Repr

/-- Processes whose observers keep what they received, and the results of
those that ended. -/
structure Processes where
  tree : FileTree
  stage : Stage := {}
  table : ProcessTable (List ProcessEvent) := .empty
  completed : Dict Nat Completion := {}

namespace Processes

/-- The lines that an observer received on standard output. -/
def stdoutLines (events : List ProcessEvent) : List String :=
  events.filterMap fun event =>
    match event with
    | .stdout line => some line
    | _ => none

/-- The lines that an observer received on standard error. -/
def stderrLines (events : List ProcessEvent) : List String :=
  events.filterMap fun event =>
    match event with
    | .stderr line => some line
    | _ => none

/-- The whole output of a process that ended with a code. -/
def captured (code : Option Int) (events : List ProcessEvent) : Captured :=
  { code
    stdout := OutputStream.captured (stdoutLines events)
    stderr := OutputStream.captured (stderrLines events) }

/-- The exit that an observer received. -/
def exit? (events : List ProcessEvent) : Option (Option Int) :=
  events.findSome? fun event =>
    match event with
    | .exit code => some code
    | _ => none

/-- What the observer of a process received. -/
def eventsOf (processes : Processes) (generation : Nat) : List ProcessEvent :=
  (processes.table.lastObserver? generation).getD []

/-- Terminated processes get their result. -/
def supersede (processes : Processes)
    (terminated : List (Running (List ProcessEvent))) : Processes :=
  { processes with
    completed := terminated.foldl
      (fun completed running =>
        completed.insert running.generation .superseded)
      processes.completed }

def receive (processes : Processes) (generation : Nat)
    (event : ProcessEvent) : Processes :=
  match processes.table.observer? generation with
  | none => processes
  | some earlier =>
      let events := earlier ++ [event]
      let table := processes.table.observe generation events
      match event with
      | .exit code =>
          { processes with
            table := table.retire generation
            completed := processes.completed.insert generation
              (.finished (captured code events)) }
      | _ => { processes with table }

/-- A scripted process does all that it does. -/
def play (processes : Processes) (actor : Actor) : Processes :=
  let readFile := fun (path : String) =>
    (processes.tree.read path.toList).toOption
  (actor.script.events readFile actor.arguments).foldl
    (fun processes event =>
      processes.receive actor.generation event)
    processes

/-- Every process that may act does so. -/
def settle (processes : Processes) : Processes :=
  let (actors, stage) := processes.stage.ready
  actors.foldl play { processes with stage }

/-- Attempt to start a process in a slot, given the system's answer.  What
was live in the slot is superseded. -/
def attempt (processes : Processes) (slot : Slot)
    (launched : Except OsError Unit) : Processes × Except OsError Nat :=
  let (table, answer, terminated) := processes.table.spawn slot launched []
  ({ processes with table }.supersede terminated.toList, answer)

/-- Start a command in a slot.  The answer is its generation. -/
def spawn (processes : Processes) (slot : Slot) (command : Command)
    (script : Script) : Processes × Except Failure Nat :=
  let (processes, answer) :=
    processes.attempt slot (processes.tree.admits command)
  match answer with
  | .ok generation =>
      let actor := ⟨generation, command.arguments, script⟩
      ({ processes with stage := processes.stage.add actor }.settle,
        .ok generation)
  | .error cause => (processes, .error (.launch command.display cause))

/-- Kill the process of a slot.  The answer says whether there was one. -/
def kill (processes : Processes) (slot : Slot) : Processes × Bool :=
  let (table, terminated) := processes.table.kill slot
  ({ processes with table }.supersede terminated.toList, terminated.isSome)

def killAll (processes : Processes) : Processes :=
  let (table, terminated) := processes.table.killAll
  { processes with table }.supersede terminated

/-- Open a gate, and let everything behind it act. -/
def release (processes : Processes) (gate : String) : Processes :=
  { processes with stage := processes.stage.release gate }.settle

end Processes

end ToolBridge.Scenario
