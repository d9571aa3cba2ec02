import ToolBridge.Server.Basic

/-!
# Tasks

The work that is done after the messages of the editor are answered.
-/

namespace ToolBridge.Server

variable {σ : Type} [Storage σ]

/-- An order in which the documents of a batch are taken up.  The documents are
kept without any. -/
structure Arrangement where
  arrange : List Snapshot → List Snapshot
  perm : ∀ snapshots, (arrange snapshots).Perm snapshots

def Arrangement.asOpened : Arrangement :=
  ⟨id, fun _ => .refl _⟩

/-- The most documents of a batch that are checked at once. -/
def batchLimit : Nat := 8

/-- How many documents of a batch are checked at once. -/
def batchWidth (processors documents : Nat) : Nat :=
  min documents (max 1 (min processors batchLimit))

/-- An item of a batch has ended without a process. -/
def finishOwner (server : Server σ) : Option (Nat × Snapshot) → Server σ
  | some (number, snapshot) => server.finishItem number snapshot
  | none => server

/-- Launch a check, perhaps for an item of a batch. -/
def launchCheck (server : Server σ) (launcher : Launcher σ)
    (request : CheckRequest) (config : Config)
    (owner : Option (Nat × Snapshot)) : Server σ × List Reaction :=
  let (bridge, answer, effects) :=
    server.bridge.launch launcher request config
  let (server, reactions) := server.absorb bridge effects
  match answer with
  | .ok .superseded => (server.finishOwner owner, reactions)
  | .ok (.started generation) =>
      match owner with
      | some owner =>
          ({ server with owners := server.owners.insert generation owner },
            reactions)
      | none => (server, reactions)
  | .error failure =>
      (server.finishOwner owner,
        reactions ++
          (lineMessages ("Forge check failed: " ++ failure.message)).map
            Reaction.send)

/-- Begin to check all open documents again, in the given order. -/
def startBatch (server : Server σ) (order : Arrangement) : Server σ :=
  let snapshots := order.arrange server.documents.values
  let dispatch :=
    Dispatch.start (batchWidth server.machine.processors snapshots.length)
      snapshots
  let number := server.batchCount + 1
  let server :=
    { server with
      batchCount := number
      batches := server.batches.insert number ⟨server.settings, dispatch⟩ }
  dispatch.running.foldl
    (fun server snapshot => server.enqueue (.item number snapshot)) server

/-- Does the batch still have to check the document?  Not when the settings
have changed again, and not when the document was edited or closed since. -/
def isDue (server : Server σ) (number : Nat) (snapshot : Snapshot) : Bool :=
  (server.batches.get? number).any (·.settings == server.settings) &&
    server.documents.get? snapshot.id == some snapshot

def runItem (server : Server σ) (launcher : Launcher σ) (number : Nat)
    (snapshot : Snapshot) : Server σ × List Reaction :=
  if server.isDue number snapshot then
    let (server, request, reactions) := server.ask snapshot
    let (server, later) :=
      server.launchCheck launcher request server.config (some (number, snapshot))
    (server, reactions ++ later)
  else (server.finishItem number snapshot, [])

def runTask (server : Server σ) (launcher : Launcher σ) (order : Arrangement) :
    Task → Server σ × List Reaction
  | .check request config => server.launchCheck launcher request config none
  | .revalidate => (server.startBatch order, [])
  | .item number snapshot => server.runItem launcher number snapshot

def work? (server : Server σ) (launcher : Launcher σ) (order : Arrangement) :
    Option (Server σ × List Reaction) :=
  match server.tasks with
  | [] => none
  | task :: tasks => some ({ server with tasks }.runTask launcher order task)

def receive (server : Server σ) (generation : Nat)
    (events : List ProcessEvent) : Server σ × List Reaction :=
  let (bridge, effects) := server.bridge.receiveAll generation events
  server.absorb bridge effects

end ToolBridge.Server
