import ToolBridge.Bridge.Events
import ToolBridge.Server.Dispatch
import ToolBridge.Server.Message
import ToolBridge.Settings
import ToolBridge.Uri.Basic

/-!
# The language server

The server keeps the documents that the editor has open and checks each of
them on every change.  Checks are tasks that are worked on after the message
that asked for them is answered.  When the settings change, all open
documents are checked again, in a batch that works on a few of them at once.
-/

namespace ToolBridge

/-- Where the server stands in its life. -/
inductive Phase where
  /-- Before it was initialized. -/
  | fresh
  | ready
  /-- After it was asked to shut down. -/
  | closed
  /-- After it was asked to exit. -/
  | exited
  deriving DecidableEq, Repr

/-- Work that is left for later. -/
inductive Task where
  /-- Launch a check that was asked for. -/
  | check (request : CheckRequest) (config : Config)
  /-- Begin to check all open documents again. -/
  | revalidate
  /-- Check one document of a batch again. -/
  | item (batch : Nat) (snapshot : Snapshot)
  deriving DecidableEq, Repr

/-- The documents that are checked again after a change of the settings. -/
structure Batch where
  /-- The settings for which it was begun. -/
  settings : Nat
  dispatch : Dispatch Snapshot
  deriving DecidableEq, Repr

/-- What comes of a step of the server. -/
inductive Reaction where
  | send (message : Message)
  | launched (process : Started)
  /-- A check was asked for, to be done under a configuration. -/
  | asked (request : CheckRequest) (config : Config)
  deriving DecidableEq, Repr

/-- The machine that a server runs on. -/
structure Machine where
  /-- How many checks it can do at once. -/
  processors : Nat
  /-- Its directory for temporary files. -/
  temporary : String
  /-- How its decoder words what is wrong with a value that holds no
  settings. -/
  complaint : Json → String

/-- The state of the server, with the storage for its scratch files. -/
structure Server (σ : Type) where
  machine : Machine
  bridge : Bridge σ
  phase : Phase := .fresh
  config : Config := {}
  /-- How often the settings were changed. -/
  settings : Nat := 0
  /-- Does the editor want related information? -/
  related : Bool := false
  documents : Dict String Snapshot := {}
  /-- The last stamp. -/
  stamps : Nat := 0
  tasks : List Task := []
  batches : Dict Nat Batch := {}
  /-- The last number of a batch. -/
  batchCount : Nat := 0
  /-- The item of a batch for which a process was started. -/
  owners : Dict Nat (Nat × Snapshot) := {}

namespace Server

variable {σ : Type}

/-- A server that has done nothing. -/
def initial (storage : σ) (machine : Machine) : Server σ :=
  { machine
    bridge :=
      { storage
        scratch :=
          ⟨Config.standard.effectiveScratchDirectory machine.temporary,
            Config.standard.extension⟩ } }

def enqueue (server : Server σ) (task : Task) : Server σ :=
  { server with tasks := server.tasks ++ [task] }

/-- An item of a batch has ended, and the next one takes its turn. -/
def finishItem (server : Server σ) (number : Nat) (snapshot : Snapshot) :
    Server σ :=
  match server.batches.get? number with
  | none => server
  | some batch =>
      match batch.dispatch.running.findIdx? (· == snapshot) with
      | none => server
      | some index =>
          let (dispatch, next) := batch.dispatch.finish index false
          let server :=
            { server with
              batches := server.batches.insert number { batch with dispatch } }
          match next with
          | some next => server.enqueue (.item number next)
          | none => server

/-- The check of a process has ended. -/
def finishProcess (server : Server σ) (generation : Nat) : Server σ :=
  match server.owners.get? generation with
  | some (number, snapshot) =>
      { server with owners := server.owners.erase generation }.finishItem number
        snapshot
  | none => server

/-- A line for the user, on the panel and in the log. -/
def lineMessages (text : String) : List Message :=
  [.outputLine text, .log .information text]

/-- What the editor is told of an effect. -/
def effectMessages (related : Bool) : Effect → List Message
  | .deliver delivery =>
      [.diagnostics delivery.id related delivery.diagnostics]
  | .console (.append line) => lineMessages line
  | .console .clear => [.outputClear]
  | .console .reveal => [.outputReveal]
  | .navigate id position => [.reveal id position]
  | _ => []

/-- What comes of an effect of the bridge. -/
def react (server : Server σ) (effect : Effect) : Server σ × List Reaction :=
  match effect with
  | .launched process => (server, [.launched process])
  | .checked generation _ => (server.finishProcess generation, [])
  | effect =>
      (server, (effectMessages server.related effect).map Reaction.send)

def reactAll (server : Server σ) : List Effect → Server σ × List Reaction
  | [] => (server, [])
  | effect :: effects =>
      let (server, reactions) := server.react effect
      let (server, later) := reactAll server effects
      (server, reactions ++ later)

/-- Take a step of the bridge. -/
def absorb (server : Server σ) (bridge : Bridge σ) (effects : List Effect) :
    Server σ × List Reaction :=
  { server with bridge }.reactAll effects

/-- Ask for a check of a snapshot under the settings of the moment. -/
def ask (server : Server σ) (snapshot : Snapshot) :
    Server σ × CheckRequest × List Reaction :=
  let (bridge, request, effects) := server.bridge.ask snapshot
  let (server, reactions) := server.absorb bridge effects
  (server, request, .asked request server.config :: reactions)

/-- The names of the documents and the run that have a live process. -/
def liveNames (server : Server σ) : List String :=
  let name := fun (slot : Slot) =>
    match slot with
    | .document id => id
    | .interactive => "interactive"
  (server.bridge.processes.live.keys.map name).mergeSort
    fun left right => decide (left ≤ right)

end Server

end ToolBridge
