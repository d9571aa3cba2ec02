import ToolBridge.Bridge.Checking
import ToolBridge.Bridge.Running

/-!
# Events of processes

What a process does reaches the bridge only while its gate is open.
-/

namespace ToolBridge.Bridge

variable {σ : Type} [Storage σ]

def finish (bridge : Bridge σ) (generation : Nat) (observer : Observer)
    (code : Option Int) : Bridge σ × List Effect :=
  match observer with
  | .check request config stderr =>
      bridge.finishCheck generation request config stderr code
  | .run number document extension stderr =>
      bridge.finishRun generation number document extension stderr code

def addLine (stderr line : String) : String :=
  stderr ++ line ++ "\n"

/-- An observer that saw one more line of error text. -/
def observeStderr (line : String) : Observer → Observer
  | .check request config stderr => .check request config (addLine stderr line)
  | .run number document extension stderr =>
      .run number document extension (addLine stderr line)

/-- What is seen of a line on standard output. -/
def relayStdout (line : String) : Observer → List Effect
  | .check _ _ _ => []
  | .run _ _ _ _ => [.line (Console.relayed line)]

/-- The process of a generation did something. -/
def receive (bridge : Bridge σ) (generation : Nat) (event : ProcessEvent) :
    Bridge σ × List Effect :=
  match bridge.processes.observer? generation with
  | none => (bridge, [])
  | some observer =>
      match event with
      | .stdout line => (bridge, relayStdout line observer)
      | .stderr line =>
          let processes :=
            bridge.processes.observe generation (observeStderr line observer)
          ({ bridge with processes }, [])
      | .exit code =>
          let processes := bridge.processes.retire generation
          { bridge with processes }.finish generation observer code

def receiveAll (bridge : Bridge σ) (generation : Nat) :
    List ProcessEvent → Bridge σ × List Effect
  | [] => (bridge, [])
  | event :: events =>
      let (bridge, effects) := bridge.receive generation event
      let (bridge, later) := receiveAll bridge generation events
      (bridge, effects ++ later)

end ToolBridge.Bridge
