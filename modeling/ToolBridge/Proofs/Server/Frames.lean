import ToolBridge.Proofs.Bridge.Operations
import ToolBridge.Server.Rpc

/-!
# What the steps of the server leave alone

The desk of a server is what decides which snapshot of a document is checked
and under which configuration: the documents, the tickets, the settings and
the numbers given out so far.  Most of what the server does leaves the desk
alone and only moves the batches on.  The rest is listed in `Turns`.
-/

namespace ToolBridge

/-- The request that was issued, if one was. -/
def Reaction.request? : Reaction → Option CheckRequest
  | .asked request _ => some request
  | _ => none

def requests (reactions : List Reaction) : List CheckRequest :=
  reactions.filterMap Reaction.request?

/-- A request that was issued and the configuration for it, if one was. -/
def Reaction.order? : Reaction → Option (CheckRequest × Config)
  | .asked request config => some (request, config)
  | _ => none

/-- The requests that were issued, with their configurations. -/
def orders (reactions : List Reaction) : List (CheckRequest × Config) :=
  reactions.filterMap Reaction.order?

theorem requests_eq_map_orders (reactions : List Reaction) :
    requests reactions = (orders reactions).map Prod.fst := by
  rw [requests, orders, List.map_filterMap]
  congr 1
  funext reaction
  cases reaction <;> rfl

theorem orders_append (first second : List Reaction) :
    orders (first ++ second) = orders first ++ orders second :=
  List.filterMap_append

@[simp] theorem orders_send (messages : List Message) :
    orders (messages.map Reaction.send) = [] := by
  simp [orders, Reaction.order?]

namespace Server

variable {σ : Type}

/-- What decides which snapshot of a document is checked, and how. -/
structure Desk where
  machine : Machine
  documents : Dict String Snapshot
  tickets : Sequencer
  stamps : Nat
  config : Config
  settings : Nat
  batchCount : Nat

def desk (server : Server σ) : Desk where
  machine := server.machine
  documents := server.documents
  tickets := server.bridge.tickets
  stamps := server.stamps
  config := server.config
  settings := server.settings
  batchCount := server.batchCount

/-- The items of a batch that are queued or wait. -/
def Holds (server : Server σ) (number : Nat) (batch : Batch)
    (snapshot : Snapshot) : Prop :=
  snapshot ∈ batch.dispatch.pending ∨ .item number snapshot ∈ server.tasks

/-- A check is to be done under a configuration: its launch is queued, or a
process was started for it. -/
def Engaged (server : Server σ) (request : CheckRequest) (config : Config) :
    Prop :=
  .check request config ∈ server.tasks ∨ server.bridge.Ran request config

/-- The batches were moved on and some checks were launched: every item that is
queued was queued before or waited in its batch, and nothing that was queued
or waited is lost. -/
structure Carries (launched : List (CheckRequest × Config))
    (server next : Server σ) : Prop where
  items : ∀ {number snapshot}, .item number snapshot ∈ next.tasks →
    .item number snapshot ∈ server.tasks ∨
      ∃ batch, server.batches.get? number = some batch ∧
        snapshot ∈ batch.dispatch.pending
  batches : ∀ {number batch}, next.batches.get? number = some batch →
    ∃ earlier, server.batches.get? number = some earlier ∧
      batch.settings = earlier.settings ∧
      batch.dispatch.pending ⊆ earlier.dispatch.pending
  engaged : ∀ {request config}, next.Engaged request config →
    server.Engaged request config ∨ (request, config) ∈ launched
  tasks : server.tasks ⊆ next.tasks
  waiting : ∀ {number batch}, server.batches.get? number = some batch →
    ∃ later, next.batches.get? number = some later ∧
      later.settings = batch.settings ∧
      ∀ {snapshot}, snapshot ∈ batch.dispatch.pending →
        next.Holds number later snapshot
  phase : next.phase = .fresh → server.phase = .fresh

namespace Carries

variable {launched : List (CheckRequest × Config)}

/-- A step of the bridge that starts no check but the launched ones. -/
theorem of_ran {server next : Server σ} (tasks : next.tasks = server.tasks)
    (batches : next.batches = server.batches)
    (ran : ∀ {request config}, next.bridge.Ran request config →
      server.bridge.Ran request config ∨ (request, config) ∈ launched)
    (phase : next.phase = .fresh → server.phase = .fresh) :
    Carries launched server next where
  items member := Or.inl (tasks ▸ member)
  batches found :=
    ⟨_, batches ▸ found, rfl, fun _ member => member⟩
  engaged := by
    rintro request config (queued | started)
    · exact Or.inl (Or.inl (tasks ▸ queued))
    · rcases ran started with before | now
      · exact Or.inl (Or.inr before)
      · exact Or.inr now
  tasks := by rw [tasks]; exact fun _ member => member
  waiting found := ⟨_, batches ▸ found, rfl, Or.inl⟩
  phase := phase

theorem of_eq {server next : Server σ} (tasks : next.tasks = server.tasks)
    (batches : next.batches = server.batches)
    (processes : next.bridge.processes = server.bridge.processes)
    (phase : next.phase = .fresh → server.phase = .fresh) :
    Carries launched server next := by
  refine of_ran tasks batches ?_ phase
  intro request config ran
  refine Or.inl (ran.of_eq ?_)
  intro generation
  rw [processes]

theorem refl (server : Server σ) : Carries launched server server :=
  of_eq rfl rfl rfl id

theorem holds {server next : Server σ} (carries : Carries launched server next)
    {number : Nat} {batch : Batch} {snapshot : Snapshot}
    (found : server.batches.get? number = some batch)
    (held : server.Holds number batch snapshot) :
    ∃ later, next.batches.get? number = some later ∧
      later.settings = batch.settings ∧ next.Holds number later snapshot := by
  obtain ⟨later, known, same, kept⟩ := carries.waiting found
  refine ⟨later, known, same, ?_⟩
  rcases held with waiting | queued
  · exact kept waiting
  · exact Or.inr (carries.tasks queued)

theorem trans {first second third : Server σ}
    (earlier : Carries launched first second)
    (later : Carries launched second third) : Carries launched first third where
  items member := by
    rcases later.items member with queued | ⟨batch, found, waiting⟩
    · exact earlier.items queued
    · obtain ⟨before, known, _, within⟩ := earlier.batches found
      exact Or.inr ⟨before, known, within waiting⟩
  batches found := by
    obtain ⟨batch, known, settings, within⟩ := later.batches found
    obtain ⟨before, old, same, inside⟩ := earlier.batches known
    exact ⟨before, old, settings.trans same, fun _ member =>
      inside (within member)⟩
  engaged engaged := by
    rcases later.engaged engaged with before | now
    · exact earlier.engaged before
    · exact Or.inr now
  tasks _ member := later.tasks (earlier.tasks member)
  waiting found := by
    obtain ⟨batch, known, settings, kept⟩ := earlier.waiting found
    obtain ⟨after, last, same, _⟩ := later.waiting known
    refine ⟨after, last, same.trans settings, ?_⟩
    intro snapshot waiting
    obtain ⟨other, again, _, held⟩ := later.holds known (kept waiting)
    rw [last] at again
    cases again
    exact held
  phase fresh := earlier.phase (later.phase fresh)

theorem enqueue (server : Server σ) {task : Task}
    (other : ∀ number snapshot, task ≠ .item number snapshot)
    (known : ∀ request config, task = .check request config →
      (request, config) ∈ launched) :
    Carries launched server (server.enqueue task) where
  items member := by
    rcases List.mem_append.mp member with queued | last
    · exact Or.inl queued
    · exact absurd (List.mem_singleton.mp last).symm (other _ _)
  batches found := ⟨_, found, rfl, fun _ member => member⟩
  engaged := by
    rintro request config (member | ran)
    · rcases List.mem_append.mp member with queued | last
      · exact Or.inl (Or.inl queued)
      · exact Or.inr (known request config (List.mem_singleton.mp last).symm)
    · exact Or.inl (Or.inr ran)
  tasks := List.subset_append_left _ _
  waiting found := ⟨_, found, rfl, Or.inl⟩
  phase := id

end Carries

/-- Nothing but the progress of the batches and of the launched checks
changed. -/
structure Abides (launched : List (CheckRequest × Config))
    (server next : Server σ) : Prop where
  desk : next.desk = server.desk
  carries : Carries launched server next

variable {launched : List (CheckRequest × Config)}

namespace Abides

theorem refl (server : Server σ) : Abides launched server server :=
  ⟨rfl, .refl server⟩

theorem trans {first second third : Server σ}
    (earlier : Abides launched first second)
    (later : Abides launched second third) : Abides launched first third :=
  ⟨later.desk.trans earlier.desk, earlier.carries.trans later.carries⟩

end Abides

/-- A step that leaves the desk alone and issues no request. -/
structure Quiet (launched : List (CheckRequest × Config)) (server : Server σ)
    (done : Server σ × List Reaction) : Prop where
  abides : Abides launched server done.1
  silent : orders done.2 = []

theorem Quiet.refl (server : Server σ) : Quiet launched server (server, []) :=
  ⟨.refl server, rfl⟩

/-! ## Batches -/

/-- The item that is started is the first of those that waited. -/
theorem pending_finish {α : Type} (dispatch : Dispatch α) (index : Nat)
    (failure : Bool) :
    dispatch.pending =
      (dispatch.finish index failure).2.toList ++
        (dispatch.finish index failure).1.pending := by
  unfold Dispatch.finish Dispatch.advance
  cases dispatch.running[index]? with
  | none => rfl
  | some item =>
      cases dispatch.pending with
      | nil => rfl
      | cons first rest => rfl

/-- The first items of a batch leave it for the queue. -/
theorem carries_insert {server next : Server σ} {number : Nat} {batch : Batch}
    {dispatch : Dispatch Snapshot} {started : List Snapshot}
    (known : server.batches.get? number = some batch)
    (split : batch.dispatch.pending = started ++ dispatch.pending)
    (batches : next.batches =
      server.batches.insert number { batch with dispatch })
    (tasks : next.tasks = server.tasks ++ started.map (.item number))
    (bridge : next.bridge = server.bridge) (phase : next.phase = server.phase) :
    Carries launched server next where
  items {other snapshot} member := by
    rw [tasks] at member
    rcases List.mem_append.mp member with queued | new
    · exact Or.inl queued
    · obtain ⟨item, first, same⟩ := List.mem_map.mp new
      cases same
      refine Or.inr ⟨batch, known, ?_⟩
      rw [split]
      exact List.mem_append_left _ first
  batches {other current} found := by
    rw [batches, Dict.get?_insert] at found
    split at found
    · rename_i same
      cases found
      refine ⟨batch, same ▸ known, rfl, ?_⟩
      rw [split]
      exact List.subset_append_right _ _
    · exact ⟨current, found, rfl, fun _ member => member⟩
  engaged := by
    rintro request config (queued | ran)
    · rw [tasks] at queued
      have before : .check request config ∈ server.tasks := by simpa using queued
      exact Or.inl (Or.inl before)
    · exact Or.inl (Or.inr (bridge ▸ ran))
  tasks := by
    rw [tasks]
    exact List.subset_append_left _ _
  waiting {other current} found := by
    rw [batches]
    by_cases same : number = other
    · subst same
      rw [known] at found
      cases found
      refine ⟨_, Dict.get?_insert_self .., rfl, ?_⟩
      intro snapshot waiting
      rw [split] at waiting
      rcases List.mem_append.mp waiting with first | rest
      · right
        rw [tasks]
        exact List.mem_append_right _ (List.mem_map_of_mem first)
      · exact Or.inl rest
    · exact ⟨current, by rw [Dict.get?_insert, if_neg same]; exact found, rfl,
        Or.inl⟩
  phase fresh := phase ▸ fresh

theorem abides_finishItem (server : Server σ) (number : Nat)
    (snapshot : Snapshot) :
    Abides launched server (server.finishItem number snapshot) := by
  unfold finishItem
  cases known : server.batches.get? number with
  | none => exact .refl server
  | some batch =>
      dsimp only
      cases batch.dispatch.running.findIdx? (· == snapshot) with
      | none => exact .refl server
      | some index =>
          dsimp only
          have split := pending_finish batch.dispatch index false
          rcases finished : batch.dispatch.finish index false with
            ⟨dispatch, next⟩
          rw [finished] at split
          cases next with
          | none =>
              refine ⟨rfl, carries_insert known split rfl ?_ rfl rfl⟩
              exact (List.append_nil _).symm
          | some next =>
              exact ⟨rfl, carries_insert known split rfl rfl rfl rfl⟩

/-! ## Effects of the bridge -/

theorem abides_finishProcess (server : Server σ) (generation : Nat) :
    Abides launched server (server.finishProcess generation) := by
  unfold finishProcess
  cases server.owners.get? generation with
  | none => exact .refl server
  | some owner =>
      have released : Abides launched server
          { server with owners := server.owners.erase generation } :=
        ⟨rfl, .of_eq rfl rfl rfl id⟩
      exact released.trans (abides_finishItem _ _ _)

theorem quiet_react (server : Server σ) (effect : Effect) :
    Quiet launched server (server.react effect) := by
  cases effect with
  | launched process => exact ⟨.refl server, rfl⟩
  | checked generation outcome =>
      exact ⟨abides_finishProcess server generation, rfl⟩
  | _ => exact ⟨.refl server, orders_send _⟩

theorem quiet_reactAll (server : Server σ) (effects : List Effect) :
    Quiet launched server (server.reactAll effects) := by
  induction effects generalizing server with
  | nil => exact .refl server
  | cons effect effects ih =>
      have first : Quiet launched server (server.react effect) :=
        server.quiet_react effect
      have later := ih (server.react effect).1
      refine ⟨first.abides.trans later.abides, ?_⟩
      simp only [reactAll, orders_append, first.silent, later.silent,
        List.append_nil]

theorem quiet_absorb (server : Server σ) {bridge : Bridge σ}
    (tickets : bridge.tickets = server.bridge.tickets)
    (ran : ∀ {request config}, bridge.Ran request config →
      server.bridge.Ran request config ∨ (request, config) ∈ launched)
    (effects : List Effect) :
    Quiet launched server (server.absorb bridge effects) := by
  have reacted : Quiet launched { server with bridge } _ :=
    quiet_reactAll _ effects
  have taken : Abides launched server { server with bridge } := by
    refine ⟨?_, .of_ran rfl rfl ran id⟩
    simp only [desk, tickets]
  exact ⟨taken.trans reacted.abides, reacted.silent⟩

/-! ## Checks -/

theorem abides_finishOwner (server : Server σ)
    (owner : Option (Nat × Snapshot)) :
    Abides launched server (server.finishOwner owner) := by
  cases owner with
  | none => exact .refl server
  | some owner => exact server.abides_finishItem owner.1 owner.2

variable [Storage σ]

theorem quiet_launchCheck (server : Server σ) (launcher : Launcher σ)
    (request : CheckRequest) (config : Config)
    (owner : Option (Nat × Snapshot)) :
    Quiet [(request, config)] server
      (server.launchCheck launcher request config owner) := by
  unfold launchCheck
  have launches := server.bridge.launches launcher request config
  rcases launched : server.bridge.launch launcher request config with
    ⟨bridge, answer, effects⟩
  rw [launched] at launches
  have absorbed : Quiet [(request, config)] server
      (server.absorb bridge effects) := by
    refine server.quiet_absorb launches.tickets_eq ?_ effects
    intro other settled ran
    rcases launches.ran ran with before | same
    · exact Or.inl before
    · exact Or.inr (List.mem_singleton.mpr same)
  dsimp only
  rcases reacted : server.absorb bridge effects with ⟨next, reactions⟩
  rw [reacted] at absorbed
  have finished := absorbed.abides.trans (next.abides_finishOwner owner)
  rcases answer with failure | _ | generation
  · refine ⟨finished, ?_⟩
    rw [orders_append, orders_send, List.append_nil]
    exact absorbed.silent
  · exact ⟨finished, absorbed.silent⟩
  · cases owner with
    | none => exact absorbed
    | some owner =>
        have owned : Abides [(request, config)] next
            { next with owners := next.owners.insert generation owner } :=
          ⟨rfl, .of_eq rfl rfl rfl id⟩
        exact ⟨absorbed.abides.trans owned, absorbed.silent⟩

end Server

end ToolBridge
