import ToolBridge.Bridge.Events
import ToolBridge.Scenario.Script
import ToolBridge.Scenario.Workplace

/-!
# Scenarios of the bridge

A bridge over a file tree with scripted processes.  Processes that may act do
so before a step is over, and the outcome of a check or a run is found under
the generation of its process.
-/

namespace ToolBridge.Scenario

/-- A bridge with its stage and everything that was seen of it. -/
structure BridgeScene where
  bridge : Bridge FileTree
  stage : Stage := {}
  effects : List Effect := []

namespace BridgeScene

def initial (scratch : Scratch) : BridgeScene :=
  { bridge := { storage := workplace, scratch } }

/-- Take a step of the bridge, whose new processes follow a script. -/
def advance (scene : BridgeScene) (script : Script)
    (step : Bridge FileTree × List Effect) : BridgeScene :=
  { bridge := step.1
    stage := step.2.foldl (Stage.cast script) scene.stage
    effects := scene.effects ++ step.2 }

/-- A process does all that it does. -/
def play (scene : BridgeScene) (actor : Actor) : BridgeScene :=
  let readFile := fun (path : String) =>
    (scene.bridge.storage.read path.toList).toOption
  scene.advance {}
    (scene.bridge.receiveAll actor.generation
      (actor.script.events readFile actor.arguments))

/-- Every process that may act does so. -/
def settle (scene : BridgeScene) : BridgeScene :=
  let (actors, stage) := scene.stage.ready
  actors.foldl play { scene with stage }

/-- Ask for a check of a document.  Every document that is handed in is a
snapshot of its own. -/
def ask (scene : BridgeScene) (document : Document) :
    BridgeScene × CheckRequest :=
  let (bridge, request, effects) :=
    scene.bridge.ask ⟨document, scene.bridge.tickets.issued⟩
  (scene.advance {} (bridge, effects), request)

def launch (scene : BridgeScene) (request : CheckRequest) (config : Config)
    (script : Script) : BridgeScene × Except Failure Launch :=
  let (bridge, answer, effects) :=
    scene.bridge.launch FileTree.admits request config
  ((scene.advance script (bridge, effects)).settle, answer)

def close (scene : BridgeScene) (id : String) :
    BridgeScene × Except Failure Unit :=
  let (bridge, answer, effects) := scene.bridge.close id
  (scene.advance {} (bridge, effects), answer)

def publish (scene : BridgeScene) (channel : Channel) (document : Document)
    (location : Option Location) (message : String) (severity : Severity)
    (source : Pass) : BridgeScene :=
  scene.advance {}
    (scene.bridge.publish channel document location message severity source)

def start (scene : BridgeScene) (document : Document) (path : String)
    (config : Config) (script : Script) : BridgeScene × Except Failure Nat :=
  let (bridge, answer, effects) :=
    scene.bridge.start FileTree.admits document path config
  ((scene.advance script (bridge, effects)).settle, answer)

def stop (scene : BridgeScene) : BridgeScene × Bool :=
  let (bridge, stopped, effects) := scene.bridge.stop
  (scene.advance {} (bridge, effects), stopped)

/-- Open a gate, and let everything behind it act. -/
def release (scene : BridgeScene) (gate : String) : BridgeScene :=
  { scene with stage := scene.stage.release gate }.settle

/-- Put an obstacle into the file tree. -/
def obstruct (scene : BridgeScene) (path : String) (obstacle : Obstacle) :
    BridgeScene :=
  let storage := Scenario.obstruct scene.bridge.storage path obstacle
  { scene with bridge := { scene.bridge with storage } }

/-- The outcome of the check of a process, once it has ended. -/
def checkOutcome? (scene : BridgeScene) (generation : Nat) :
    Option CheckOutcome :=
  scene.effects.findSome? fun effect =>
    match effect with
    | .checked ended outcome => if ended = generation then some outcome else none
    | _ => none

/-- The outcome of the run of a process, once it has ended. -/
def runOutcome? (scene : BridgeScene) (generation : Nat) :
    Option (Option RunOutcome) :=
  scene.effects.findSome? fun effect =>
    match effect with
    | .ended ended outcome => if ended = generation then some outcome else none
    | _ => none

def consoleLines (scene : BridgeScene) : List String :=
  Console.lines (scene.effects.filterMap fun effect =>
    match effect with
    | .console event => some event
    | _ => none)

end BridgeScene

end ToolBridge.Scenario
