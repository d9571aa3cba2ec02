import ToolBridge.Bridge.Basic

/-!
# The checker

A check begins with a ticket, which makes the earlier ones of its document
stale and empties the document's diagnostics.  It is launched later, and only
if its ticket is still current; and only then is its result shown.
-/

namespace ToolBridge

/-- What became of the launch of a check. -/
inductive Launch where
  /-- The request was stale and nothing was done. -/
  | superseded
  /-- A process was started. -/
  | started (generation : Nat)
  deriving DecidableEq, Repr

namespace Bridge

variable {σ : Type} [Storage σ]

def ask (bridge : Bridge σ) (snapshot : Snapshot) :
    Bridge σ × CheckRequest × List Effect :=
  let (tickets, ticket) := bridge.tickets.issue snapshot.id
  let (publisher, delivery) := bridge.publisher.clear snapshot.id
  ({ bridge with tickets, publisher }, ⟨snapshot, ticket⟩, [.deliver delivery])

def isCurrent (bridge : Bridge σ) (request : CheckRequest) : Bool :=
  bridge.tickets.isCurrent request.id request.ticket

/-- Start the process of a check, whose snapshot is in its scratch file. -/
def spawnCheck (bridge : Bridge σ) (launcher : Launcher σ)
    (request : CheckRequest) (config : Config) (command : Command) :
    Bridge σ × Except Failure Launch × List Effect :=
  let slot := Slot.document request.id
  let (processes, answer, terminated) :=
    bridge.processes.spawn slot (launcher bridge.storage command)
      (.check request config "")
  let effects := (terminated.map Observer.terminated).toList
  match answer with
  | .ok generation =>
      ({ bridge with processes }, .ok (.started generation),
        effects ++ [.launched ⟨slot, generation, command⟩])
  | .error cause =>
      ({ bridge with processes }, .error (.launch command.display cause),
        effects)

/-- Launch a request: write the snapshot to its scratch file and start the
toolchain on it. -/
def launch (bridge : Bridge σ) (launcher : Launcher σ) (request : CheckRequest)
    (config : Config) : Bridge σ × Except Failure Launch × List Effect :=
  if bridge.isCurrent request then
    let path := bridge.scratch.pathFor request.id
    match Scratch.write bridge.storage path request.document.text with
    | (storage, .ok _) =>
        { bridge with storage }.spawnCheck launcher request config
          (config.checkCommand path)
    | (storage, .error failure) => ({ bridge with storage }, .error failure, [])
  else (bridge, .ok .superseded, [])

/-- Give up everything that is held for a document. -/
def close (bridge : Bridge σ) (id : String) :
    Bridge σ × Except Failure Unit × List Effect :=
  let tickets := bridge.tickets.forget id
  let (processes, terminated) := bridge.processes.kill (.document id)
  let (publisher, delivery) := bridge.publisher.clear id
  let (storage, answer) :=
    Scratch.remove bridge.storage (bridge.scratch.pathFor id)
  ({ bridge with tickets, processes, publisher, storage }, answer,
    (terminated.map Observer.terminated).toList ++ [.deliver delivery])

def finishCheck (bridge : Bridge σ) (generation : Nat)
    (request : CheckRequest) (config : Config) (stderr : String)
    (code : Option Int) : Bridge σ × List Effect :=
  let finding := Finding.ofStderr? config (config.classify code) stderr
  let diagnostics :=
    (finding.map fun finding => finding.diagnostic request.document).toList
  match bridge.publisher.replaceIf (bridge.isCurrent request) .check request.id
      diagnostics with
  | (publisher, some delivery) =>
      ({ bridge with publisher },
        [.deliver delivery, .checked generation (.ofFinding? finding)])
  | (publisher, none) =>
      ({ bridge with publisher }, [.checked generation .superseded])

end Bridge

end ToolBridge
