import ToolBridge.Scenario.Script
import ToolBridge.Scenario.Workplace
import ToolBridge.Server.Rpc

/-!
# Scenarios of the server

A server over a file tree with scripted processes.  After a call the tasks
are done, then the processes that may act do so, and so on until nothing is
left to do.
-/

namespace ToolBridge.Scenario

/-- The machine of every scenario. -/
def testMachine : Machine where
  processors := 8
  temporary := temporaryDirectory
  complaint _ := "unexpected shape"

/-- A server with its stage and the messages that were not looked at yet. -/
structure ServerScene where
  server : Server FileTree
  stage : Stage := {}
  outbox : List Message := []

namespace ServerScene

/-- A scene with a server that has done nothing, and some files. -/
def initial (files : List (String × List UInt8)) : ServerScene :=
  { server := Server.initial (furnish namedWorkplace files) testMachine }

/-- Take a step of the server, whose new processes follow a script. -/
def advance (scene : ServerScene) (script : Script)
    (step : Server FileTree × List Reaction) : ServerScene :=
  let take := fun (scene : ServerScene) (reaction : Reaction) =>
    match reaction with
    | .send message => { scene with outbox := scene.outbox ++ [message] }
    | .launched process =>
        { scene with stage := scene.stage.cast script (.launched process) }
    | .asked _ _ => scene
  step.2.foldl take { scene with server := step.1 }

/-- A process does all that it does. -/
def play (scene : ServerScene) (script : Script) (actor : Actor) :
    ServerScene :=
  let readFile := fun (path : String) =>
    (scene.server.bridge.storage.read path.toList).toOption
  scene.advance script
    (scene.server.receive actor.generation
      (actor.script.events readFile actor.arguments))

/-- Do one thing that is left to do: a task, or else all that a process
does. -/
def next? (scene : ServerScene) (script : Script) : Option ServerScene :=
  match scene.server.work? FileTree.admits .asOpened with
  | some step => some (scene.advance script step)
  | none =>
      match scene.stage.next? with
      | some (actor, stage) => some ({ scene with stage }.play script actor)
      | none => none

/-- Do what is left to do, at most `fuel` things. -/
def settleWithin (script : Script) : (fuel : Nat) → ServerScene → ServerScene
  | 0, scene => scene
  | fuel + 1, scene =>
      match scene.next? script with
      | some scene => settleWithin script fuel scene
      | none => scene

/-- At most how many things are left to do: every task may bring the open
documents up again, each of them and each waiting item of a batch may start a
process, and each process acts once. -/
def remaining (scene : ServerScene) : Nat :=
  let waiting :=
    (scene.server.batches.values.flatMap fun batch =>
      batch.dispatch.pending).length
  let tasks :=
    scene.server.tasks.length * (scene.server.documents.entries.length + 2) +
      waiting
  2 * tasks + scene.stage.actors.length * (waiting + 2) + 1

def settle (scene : ServerScene) (script : Script) : ServerScene :=
  settleWithin script scene.remaining scene

def call (scene : ServerScene) (script : Script) (call : Call) :
    ServerScene × Option Reply :=
  let (server, reply, reactions) := scene.server.handle FileTree.admits call
  (scene.advance script (server, reactions), reply)

def release (scene : ServerScene) (gate : String) : ServerScene :=
  { scene with stage := scene.stage.release gate }

/-- Look at the messages. -/
def collect (scene : ServerScene) : ServerScene × List Message :=
  ({ scene with outbox := [] }, scene.outbox)

end ServerScene

end ToolBridge.Scenario
