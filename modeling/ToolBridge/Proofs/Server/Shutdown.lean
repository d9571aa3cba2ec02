import ToolBridge.FileTree
import ToolBridge.Proofs.Server.Launching

/-!
# After the last request

The request to shut down ends every process, and nothing that such a process
still does is heard.  The queue is not emptied, though: a check that was asked
for and not launched, or an item of a batch, is taken up afterwards and starts
a process of its own.  Here it is shown that this is all that can happen while
the editor is silent, and that nothing happens if nothing was left over.
-/

namespace ToolBridge

/-! ## What a process was started for -/

/-- The request and the configuration of a check. -/
def Observer.subject? : Observer → Option (CheckRequest × Config)
  | .check request config _ => some (request, config)
  | .run _ _ _ _ => none

namespace Bridge

variable {σ : Type} {bridge : Bridge σ} {generation other : Nat} {slot : Slot}
  {current : Observer}

/-- Events start no process, and a process stays what it was started for. -/
theorem Receives.process? {event : ProcessEvent}
    {done : Bridge σ × List Effect}
    (receives : Receives bridge generation event done)
    (found : done.1.processes.process? other = some (slot, current)) :
    ∃ observer, bridge.processes.process? other = some (slot, observer) ∧
      observer.subject? = current.subject? := by
  have retired {next : Bridge σ}
      (processes : next.processes = bridge.processes.retire generation)
      (found : next.processes.process? other = some (slot, current)) :
      ∃ observer, bridge.processes.process? other = some (slot, observer) ∧
        observer.subject? = current.subject? := by
    rw [processes] at found
    exact ⟨current, (ProcessTable.process?_retire.mp found).2, rfl⟩
  cases receives with
  | shut event closed => exact ⟨current, found, rfl⟩
  | stdout line seen => exact ⟨current, found, rfl⟩
  | @stderr observer line seen =>
      have open? := ProcessTable.process?_observe.mp found
      split at open?
      · rename_i same
        obtain ⟨rfl, earlier, known⟩ := open?
        obtain ⟨place, heard⟩ := ProcessTable.observer?_eq_some_iff.mp seen
        rw [same, known] at heard
        cases heard
        refine ⟨observer, known, ?_⟩
        cases observer <;> rfl
      · exact ⟨current, open?, rfl⟩
  | outdated code seen stale => exact retired rfl found
  | checked code seen current => exact retired rfl found
  | ended code seen unchecked => exact retired rfl found

theorem process?_of_receiveAll {events : List ProcessEvent}
    (found : (bridge.receiveAll generation events).1.processes.process? other =
      some (slot, current)) :
    ∃ observer, bridge.processes.process? other = some (slot, observer) ∧
      observer.subject? = current.subject? := by
  induction events generalizing bridge with
  | nil => exact ⟨current, found, rfl⟩
  | cons event events ih =>
      obtain ⟨between, known, same⟩ := ih found
      obtain ⟨observer, before, alike⟩ :=
        (bridge.receives generation event).process? known
      exact ⟨observer, before, alike.trans same⟩

theorem Receives.issued {event : ProcessEvent} {done : Bridge σ × List Effect}
    (receives : Receives bridge generation event done) :
    done.1.processes.issued = bridge.processes.issued := by
  cases receives <;> rfl

theorem issued_receiveAll (bridge : Bridge σ) (generation : Nat)
    (events : List ProcessEvent) :
    (bridge.receiveAll generation events).1.processes.issued =
      bridge.processes.issued := by
  induction events generalizing bridge with
  | nil => rfl
  | cons event events ih =>
      exact (ih _).trans (bridge.receives generation event).issued

end Bridge

namespace Server

variable {σ : Type}

/-! ## What is left over -/

/-- A snapshot of an open document is still to be checked: a batch is to check
it, or its newest request is queued. -/
def Leftover (server : Server σ) (snapshot : Snapshot) : Prop :=
  server.documents.get? snapshot.id = some snapshot ∧
    (server.Awaits snapshot ∨
      ∃ request config, .check request config ∈ server.tasks ∧
        request.snapshot = snapshot ∧ server.bridge.isCurrent request = true)

/-- A move in which the editor has no part. -/
def Move.IsInner : Move σ → Prop
  | .call _ _ => False
  | _ => True

theorem Waits.of_carries {launched : List (CheckRequest × Config)}
    {server next : Server σ} {snapshot : Snapshot}
    (carries : Carries launched server next)
    (settings : next.settings = server.settings)
    (waits : next.Waits snapshot) : server.Waits snapshot := by
  obtain ⟨number, batch, found, same, held⟩ := waits
  obtain ⟨earlier, known, kept, within⟩ := carries.batches found
  have now : earlier.settings = server.settings := by
    rw [← kept, same, settings]
  refine ⟨number, earlier, known, now, ?_⟩
  rcases held with pending | queued
  · exact Or.inl (within pending)
  · rcases carries.items queued with before | ⟨other, old, pending⟩
    · exact Or.inr before
    · rw [known] at old
      cases old
      exact Or.inl pending

theorem Waits.of_aside {server : Server σ} {move : Move σ} {snapshot : Snapshot}
    (waits : (server.aside move).Waits snapshot) : server.Waits snapshot := by
  obtain ⟨number, batch, found, same, held⟩ := waits
  refine ⟨number, batch, batches_aside server move ▸ found, ?_, ?_⟩
  · rw [same]
    exact congrArg Desk.settings (desk_aside server move)
  · exact held.imp_right fun queued => tasks_aside_subset server move queued

section

variable {server next : Server σ} {snapshot : Snapshot}

/-- A step after which no more is to be checked: the documents and the settings
stay, the batches are moved on, and a request does not become the newest unless
its snapshot is awaited anyway. -/
theorem Leftover.of_waits (documents : next.documents = server.documents)
    (tasks : ∀ {task}, task ∈ next.tasks →
      task ∈ server.tasks ∨ ∃ number item, task = .item number item)
    (waits : next.Waits snapshot → server.Awaits snapshot)
    (current : ∀ {request}, request.snapshot = snapshot →
      next.bridge.isCurrent request = true →
        server.bridge.isCurrent request = true ∨ server.Awaits snapshot)
    (left : next.Leftover snapshot) : server.Leftover snapshot := by
  have queued {task : Task} (member : task ∈ next.tasks)
      (other : ∀ number item, task ≠ .item number item) :
      task ∈ server.tasks := by
    rcases tasks member with before | ⟨number, item, same⟩
    · exact before
    · exact absurd same (other number item)
  obtain ⟨stored, (again | waiting) | ⟨request, config, member, same, newest⟩⟩ :=
    left
  · exact ⟨documents ▸ stored, Or.inl (Or.inl (queued again (by simp)))⟩
  · exact ⟨documents ▸ stored, Or.inl (waits waiting)⟩
  · refine ⟨documents ▸ stored, ?_⟩
    rcases current same newest with before | awaits
    · exact Or.inr ⟨request, config, queued member (by simp), same, before⟩
    · exact Or.inl awaits

theorem Leftover.of_abides {launched : List (CheckRequest × Config)}
    (move : Move σ) (abides : Abides launched (server.aside move) next)
    (tasks : ∀ {task}, task ∈ next.tasks →
      task ∈ server.tasks ∨ ∃ number item, task = .item number item)
    (left : next.Leftover snapshot) : server.Leftover snapshot := by
  have desk : next.desk = server.desk := abides.desk.trans (desk_aside server move)
  refine left.of_waits (congrArg Desk.documents desk) tasks ?_ ?_
  · intro waits
    have settings := congrArg Desk.settings abides.desk
    exact Or.inr (waits.of_carries abides.carries settings).of_aside
  · intro request _ newest
    have tickets : next.bridge.tickets = server.bridge.tickets :=
      congrArg Desk.tickets desk
    rw [Bridge.isCurrent_iff, tickets] at newest
    exact Or.inl (Bridge.isCurrent_iff.mpr newest)

/-- An item that is taken up makes its own request the newest, and no other. -/
theorem Leftover.of_renewal {launcher : Launcher σ} {index number : Nat}
    {order : Arrangement} {item : Snapshot}
    {launched : List (CheckRequest × Config)}
    (found : server.tasks[index]? = some (.item number item))
    (due : server.isDue number item = true)
    (carries : Carries launched (server.aside (.work launcher index order)) next)
    (desk : next.desk =
      { server.desk with
        tickets := (server.bridge.tickets.issue item.id).1 })
    (tasks : ∀ {task}, task ∈ next.tasks →
      task ∈ server.tasks ∨ ∃ number item, task = .item number item)
    (left : next.Leftover snapshot) : server.Leftover snapshot := by
  have documents : next.documents = server.documents :=
    congrArg Desk.documents desk
  obtain ⟨⟨batch, known, same⟩, stored⟩ := isDue_iff.mp due
  refine left.of_waits documents tasks ?_ ?_
  · intro waits
    have settings : next.settings = server.settings :=
      congrArg Desk.settings desk
    exact Or.inr (waits.of_carries carries settings).of_aside
  · intro request carried newest
    have tickets : next.bridge.tickets =
        (server.bridge.tickets.issue item.id).1 := congrArg Desk.tickets desk
    rw [Bridge.isCurrent_iff, tickets] at newest
    by_cases alike : item.id = request.id
    · -- Only one snapshot of a document is stored: that of the item.
      have kept : server.documents.get? item.id = some snapshot := by
        rw [alike, ← documents]
        exact carried ▸ left.1
      rw [stored] at kept
      cases kept
      exact Or.inr (Or.inr ⟨number, batch, known, same,
        Or.inr (List.mem_of_getElem? found)⟩)
    · simp only [Sequencer.issue, Dict.get?_insert, if_neg alike] at newest
      exact Or.inl (Bridge.isCurrent_iff.mpr newest)

end

variable [Storage σ]

theorem tasks_of_inner {server : Server σ} {move : Move σ}
    (inner : move.IsInner) {task : Task}
    (member : task ∈ (server.move move).1.tasks) :
    task ∈ server.tasks ∨ ∃ number item, task = .item number item := by
  cases move with
  | call => exact inner.elim
  | work launcher index order =>
      cases taken : server.taken? (.work launcher index order) with
      | none => exact (work_of_untaken taken).1.tasks member
      | some check =>
          obtain ⟨_, _, _, _, proceeds, _⟩ := work_of_taken taken
          exact proceeds.tasks member
  | receive generation events =>
      exact (server.proceeds_receive generation events).tasks member
  | disturb storage => exact Or.inl member

/-- While the editor is silent, nothing more comes to be checked. -/
theorem leftover_of_inner {server : Server σ} {move : Move σ}
    {snapshot : Snapshot} (inner : move.IsInner)
    (left : (server.move move).1.Leftover snapshot) :
    server.Leftover snapshot := by
  have tasks {task : Task} := @tasks_of_inner σ _ server move inner task
  rcases turns_move server move with begins | turns
  · -- A batch that begins now was awaited by every document.
    cases move with
    | work launcher index order =>
        have again : .revalidate ∈ server.tasks := List.mem_of_getElem? begins
        have documents : (server.move (.work launcher index order)).1.documents =
            server.documents := congrArg Desk.documents (desk_of_begins begins).1
        exact ⟨documents ▸ left.1, Or.inl (Or.inl again)⟩
    | _ => exact begins.elim
  · cases move with
    | call => exact inner.elim
    | receive generation events =>
        exact left.of_abides (.receive generation events)
          (server.quiet_receive generation events).abides tasks
    | disturb storage => exact left
    | work launcher index order =>
        cases found : server.tasks[index]? with
        | none =>
            simp only [Server.move, found] at left
            exact left
        | some task =>
            have hand : server.hand? (.work launcher index order) = some task := found
            rw [hand] at turns
            generalize orders (server.move (.work launcher index order)).2 = issued
              at turns
            cases turns with
            | launch request config abides => exact left.of_abides _ abides tasks
            | renew number item issued due carries desk =>
                exact left.of_renewal found due carries desk tasks
            | pass number item undue abides => exact left.of_abides _ abides tasks

/-! ## What is taken up -/

section

variable {storage : σ} {machine : Machine} {moves : List (Move σ)}

theorem leftover_of_taken {move : Move σ} {snapshot : Snapshot}
    {config : Config}
    (taken : (after storage machine moves).taken? move =
      some (snapshot, config)) :
    (after storage machine moves).Leftover snapshot := by
  refine ⟨stored_of_taken taken, ?_⟩
  obtain ⟨task, hand, wanted⟩ := Option.bind_eq_some_iff.mp taken
  have member := mem_of_hand? hand
  rcases of_wanted wanted with
    ⟨request, rfl, same, current⟩ | ⟨number, rfl, _, due⟩
  · exact Or.inr ⟨request, config, member, same, current⟩
  · obtain ⟨⟨batch, found, same⟩, _⟩ := isDue_iff.mp due
    exact Or.inl (Or.inr ⟨number, batch, found, same, Or.inr member⟩)

theorem leftover_after {first later : List (Move σ)} {snapshot : Snapshot}
    (inner : ∀ move ∈ later, move.IsInner)
    (left : (after storage machine (first ++ later)).Leftover snapshot) :
    (after storage machine first).Leftover snapshot := by
  induction later using List.reverseRecOn with
  | nil => exact List.append_nil first ▸ left
  | append_singleton later move ih =>
      rw [← List.append_assoc, after_append_singleton] at left
      apply ih
      · intro earlier member
        exact inner earlier (List.mem_append_left _ member)
      · exact leftover_of_inner (inner move (by simp)) left

end

/-! ## What is live -/

/-- Every live process is newer than a generation and checks a snapshot that was
left over. -/
structure Attends (origin : Server σ) (bound : Nat) (server : Server σ) :
    Prop where
  issued : bound ≤ server.bridge.processes.issued
  live : ∀ {generation slot observer},
    server.bridge.processes.process? generation = some (slot, observer) →
      bound < generation ∧
        ∃ request config, observer.subject? = some (request, config) ∧
          slot = .document request.id ∧ origin.Leftover request.snapshot

section

variable {origin server next : Server σ} {bound : Nat}

omit [Storage σ] in
theorem Attends.of_eq (attends : Attends origin bound server)
    (processes : next.bridge.processes = server.bridge.processes) :
    Attends origin bound next where
  issued := processes ▸ attends.issued
  live found := attends.live (processes ▸ found)

omit [Storage σ] in
theorem Attends.running? (attends : Attends origin bound server)
    (nothing : ∀ snapshot, ¬ origin.Leftover snapshot) (slot : Slot) :
    server.bridge.processes.running? slot = none := by
  rw [Option.eq_none_iff_forall_ne_some]
  intro running found
  obtain ⟨_, request, _, _, _, left⟩ :=
    attends.live (ProcessTable.running?_eq_some_iff.mp found)
  exact nothing _ left

omit [Storage σ] in
theorem Attends.launch {asked : Bridge σ} {request : CheckRequest}
    {config : Config} {done : Bridge σ × Except Failure Launch × List Effect}
    (attends : Attends origin bound server)
    (readies : Readies server.bridge asked request)
    (left : origin.Leftover request.snapshot)
    (launches : asked.Launches request config done)
    (bridge : next.bridge = done.1) : Attends origin bound next := by
  have issued : bound ≤ asked.processes.issued := readies.processes ▸ attends.issued
  cases launches with
  | stale outdated =>
      exact absurd readies.current (by simp [outdated])
  | unwritten current storage path cause =>
      apply attends.of_eq
      rw [bridge, ← readies.processes]
  | started current storage command =>
      constructor
      · rw [bridge]
        exact Nat.le_succ_of_le issued
      · intro generation slot observer found
        rw [bridge] at found
        rcases ProcessTable.process?_enter.mp found with
          ⟨rfl, rfl, rfl⟩ | ⟨_, before⟩
        · exact ⟨Nat.lt_succ_of_le issued, request, config, rfl, rfl, left⟩
        · exact attends.live (readies.processes ▸ before)
  | refused current storage command cause =>
      constructor
      · rw [bridge]
        exact Nat.le_succ_of_le issued
      · intro generation slot observer found
        rw [bridge] at found
        have before := (ProcessTable.process?_vacate.mp found).2
        exact attends.live (readies.processes ▸ before)

/-- A move of a server all of whose checks were left over. -/
theorem Attends.move {move : Move σ} (attends : Attends origin bound server)
    (inner : move.IsInner)
    (left : ∀ {snapshot config}, server.taken? move = some (snapshot, config) →
      origin.Leftover snapshot) :
    Attends origin bound (server.move move).1 := by
  cases move with
  | call => exact inner.elim
  | work launcher index order =>
      cases taken : server.taken? (.work launcher index order) with
      | none =>
          apply attends.of_eq
          rw [(work_of_untaken taken).1.bridge]
      | some check =>
          obtain ⟨asked, request, same, readies, proceeds, _⟩ := work_of_taken taken
          exact attends.launch readies (same ▸ left taken)
            (asked.launches launcher request check.2) proceeds.bridge
  | receive generation events =>
      have bridge := (server.proceeds_receive generation events).bridge
      constructor
      · change bound ≤ (server.receive generation events).1.bridge.processes.issued
        rw [bridge, Bridge.issued_receiveAll]
        exact attends.issued
      · intro other slot current found
        change (server.receive generation events).1.bridge.processes.process?
          other = some (slot, current) at found
        rw [bridge] at found
        obtain ⟨observer, before, same⟩ := Bridge.process?_of_receiveAll found
        obtain ⟨newer, request, config, subject, rest⟩ := attends.live before
        exact ⟨newer, request, config, same ▸ subject, rest⟩
  | disturb storage => exact attends.of_eq rfl

end

theorem receive_of_shut {server : Server σ} {generation : Nat}
    (shut : ∀ slot observer,
      server.bridge.processes.process? generation ≠ some (slot, observer))
    (events : List ProcessEvent) :
    server.move (.receive generation events) = (server, []) := by
  have closed : server.bridge.processes.observer? generation = none := by
    rw [Option.eq_none_iff_forall_ne_some]
    intro observer found
    obtain ⟨slot, live⟩ := ProcessTable.observer?_eq_some_iff.mp found
    exact shut slot observer live
  simp only [move, receive, Bridge.receiveAll_of_shut closed]
  rfl

theorem Attends.silent {origin server : Server σ} {bound : Nat} {move : Move σ}
    (attends : Attends origin bound server)
    (nothing : ∀ snapshot, ¬ origin.Leftover snapshot) (inner : move.IsInner)
    (left : ∀ {snapshot config}, server.taken? move = some (snapshot, config) →
      origin.Leftover snapshot) :
    (server.move move).2 = [] := by
  cases move with
  | call => exact inner.elim
  | work launcher index order =>
      cases taken : server.taken? (.work launcher index order) with
      | none => exact (work_of_untaken taken).2
      | some check => exact absurd (left taken) (nothing check.1)
  | receive generation events =>
      rw [receive_of_shut]
      intro slot observer live
      obtain ⟨_, request, _, _, _, leftover⟩ := attends.live live
      exact nothing _ leftover
  | disturb storage => rfl

/-! ## The last request -/

omit [Storage σ] in
/-- The editor is told nothing of processes that are terminated. -/
theorem reactAll_terminated (server : Server σ)
    (terminated : List (Running Observer)) :
    (server.reactAll (terminated.map Observer.terminated)).2 = [] := by
  induction terminated generalizing server with
  | nil => rfl
  | cons running terminated ih =>
      obtain ⟨generation, observer⟩ := running
      simp only [List.map_cons, reactAll, ih, List.append_nil]
      cases observer <;> rfl

theorem handle_quitting {server : Server σ} (ready : server.phase = .ready)
    (launcher : Launcher σ) :
    server.handle launcher .quitting =
      (server.shutdown.1, some (.ok .null), []) := by
  have silent : server.shutdown.2 = [] := reactAll_terminated _ _
  have known : expectsAnswer? "shutdown" = some true := by decide
  have allowed : phaseRefusal? .ready "shutdown" = none := by decide
  simp [handle, Call.quitting, ready, known, allowed, serve, silent]

omit [Storage σ] in
theorem proceeds_shutdown (server : Server σ) :
    Proceeds { server with phase := .closed, bridge := server.bridge.killAll.1 }
      server.shutdown.1 :=
  proceeds_reactAll _ _

omit [Storage σ] in
theorem Leftover.of_shutdown {server : Server σ} {snapshot : Snapshot}
    (left : server.shutdown.1.Leftover snapshot) : server.Leftover snapshot :=
  left.of_abides (.receive 0 []) server.quiet_shutdown.abides
    server.proceeds_shutdown.tasks

omit [Storage σ] in
theorem attends_shutdown (server : Server σ) :
    Attends server server.bridge.processes.issued server.shutdown.1 where
  issued := by
    rw [server.proceeds_shutdown.bridge]
    exact Nat.le_refl _
  live found := by
    rw [server.proceeds_shutdown.bridge] at found
    exact absurd found ProcessTable.process?_killAll

omit [Storage σ] in
/-- The newest request of a document does not lose its place in the queue. -/
theorem taken?_shutdown {server : Server σ} {request : CheckRequest}
    {config : Config} (queued : .check request config ∈ server.tasks)
    (current : server.bridge.isCurrent request = true) :
    ∃ index, ∀ launcher order,
      server.shutdown.1.taken? (.work launcher index order) =
        some (request.snapshot, config) := by
  have quiet := server.quiet_shutdown
  obtain ⟨index, found⟩ :=
    List.mem_iff_getElem?.mp (quiet.abides.carries.tasks queued)
  have tickets : server.shutdown.1.bridge.tickets = server.bridge.tickets :=
    congrArg Desk.tickets quiet.abides.desk
  have newest : server.shutdown.1.bridge.isCurrent request = true := by
    rw [Bridge.isCurrent_iff, tickets]
    exact Bridge.isCurrent_iff.mp current
  refine ⟨index, ?_⟩
  intro launcher order
  simp [taken?, hand?, found, wanted?, newest]

/-- The server after the last request and what happens later. -/
def afterQuitting (storage : σ) (machine : Machine) (moves : List (Move σ))
    (launcher : Launcher σ) (later : List (Move σ)) : Server σ :=
  after storage machine (moves ++ [.call launcher .quitting] ++ later)

section

variable {storage : σ} {machine : Machine} {moves later : List (Move σ)}

theorem afterQuitting_nil
    (ready : (after storage machine moves).phase = .ready)
    (launcher : Launcher σ) :
    afterQuitting storage machine moves launcher [] =
      (after storage machine moves).shutdown.1 := by
  rw [afterQuitting, List.append_nil, after_append_singleton]
  simp only [move, handle_quitting ready]

theorem leftover_afterQuitting {launcher : Launcher σ} {snapshot : Snapshot}
    (ready : (after storage machine moves).phase = .ready)
    (inner : ∀ move ∈ later, move.IsInner)
    (left : (afterQuitting storage machine moves launcher later).Leftover
      snapshot) :
    (after storage machine moves).Leftover snapshot := by
  have start : (afterQuitting storage machine moves launcher
      []).Leftover snapshot := by
    rw [afterQuitting, List.append_nil]
    exact leftover_after inner left
  rw [afterQuitting_nil ready] at start
  exact start.of_shutdown

theorem attends_afterQuitting
    (ready : (after storage machine moves).phase = .ready)
    (launcher : Launcher σ) (inner : ∀ move ∈ later, move.IsInner) :
    Attends (after storage machine moves)
      (after storage machine moves).bridge.processes.issued
      (afterQuitting storage machine moves launcher later) := by
  induction later using List.reverseRecOn with
  | nil =>
      rw [afterQuitting_nil ready]
      exact attends_shutdown _
  | append_singleton later move ih =>
      have earlier : ∀ move ∈ later, move.IsInner :=
        fun other member => inner other (List.mem_append_left _ member)
      have attends := ih earlier
      unfold afterQuitting at attends ⊢
      rw [← List.append_assoc, after_append_singleton]
      apply attends.move (inner move (by simp))
      intro snapshot config taken
      exact leftover_afterQuitting ready earlier (leftover_of_taken taken)

end

/-- What a server does after the last request while the editor is silent. -/
structure ShutdownFinality (storage : σ) (machine : Machine) (moves : List (Move σ))
    (launcher : Launcher σ) : Prop where
  /-- The request is answered, and nothing else is sent. -/
  answered : (after storage machine moves).handle launcher .quitting =
    (afterQuitting storage machine moves launcher [], some (.ok .null), [])
  /-- With the answer, every process is ended. -/
  ended : ∀ slot, (afterQuitting storage machine moves launcher
    []).bridge.processes.running? slot = none
  /-- A process that was started before is not heard any more. -/
  unheard : ∀ {later}, (∀ move ∈ later, move.IsInner) →
    ∀ {generation},
      generation ≤ (after storage machine moves).bridge.processes.issued →
      ∀ events, (afterQuitting storage machine moves launcher later).move
          (.receive generation events) =
        (afterQuitting storage machine moves launcher later, [])
  /-- A process that is live later checks a snapshot that was left over. -/
  live : ∀ {later}, (∀ move ∈ later, move.IsInner) →
    ∀ {generation slot observer},
      (afterQuitting storage machine moves launcher
        later).bridge.processes.process? generation = some (slot, observer) →
      ∃ request config, observer.subject? = some (request, config) ∧
        slot = .document request.id ∧
        (after storage machine moves).Leftover request.snapshot
  /-- A newest request that is still queued is left over: it can be taken up. -/
  resumed : ∀ {request config},
    .check request config ∈ (after storage machine moves).tasks →
    (after storage machine moves).bridge.isCurrent request = true →
    ∃ index, ∀ launching order, (afterQuitting storage machine moves launcher
      []).taken? (.work launching index order) = some (request.snapshot, config)
  /-- A check that is taken up later is one of a snapshot that was left over.  It
  starts a process unless the scratch file cannot be written or the system does
  not take the command. -/
  started : ∀ {later}, (∀ move ∈ later, move.IsInner) →
    ∀ {launching index order snapshot config},
      let server := afterQuitting storage machine moves launcher later
      let path := server.bridge.scratch.pathFor snapshot.id
      server.taken? (.work launching index order) = some (snapshot, config) →
      (after storage machine moves).Leftover snapshot ∧
        ∀ {process},
          .launched process ∈ (server.move (.work launching index order)).2 ↔
            ∃ kept, Storage.write server.bridge.storage path
                snapshot.document.text = (kept, .ok ()) ∧
              launching kept (config.checkCommand path) = .ok () ∧
              process = ⟨.document snapshot.id,
                server.bridge.processes.issued + 1, config.checkCommand path⟩
  /-- If nothing was left over, nothing is ever started or sent. -/
  final : (∀ snapshot, ¬ (after storage machine moves).Leftover snapshot) →
    ∀ {later}, (∀ move ∈ later, move.IsInner) →
      (∀ slot, (afterQuitting storage machine moves launcher
        later).bridge.processes.running? slot = none) ∧
      ∀ {move : Move σ}, move.IsInner →
        ((afterQuitting storage machine moves launcher later).move move).2 = []

theorem shutdownFinality_after (storage : σ) (machine : Machine) (moves : List (Move σ))
    (launcher : Launcher σ)
    (ready : (after storage machine moves).phase = .ready) :
    ShutdownFinality storage machine moves launcher where
  answered := by
    rw [afterQuitting_nil ready]
    exact handle_quitting ready launcher
  ended slot := by
    rw [afterQuitting_nil ready, Option.eq_none_iff_forall_ne_some]
    intro running found
    rw [(proceeds_shutdown _).bridge] at found
    have live := ProcessTable.running?_eq_some_iff.mp found
    exact ProcessTable.process?_killAll live
  unheard inner generation old events := by
    have attends := attends_afterQuitting ready launcher inner
    apply receive_of_shut
    intro slot observer live
    have newer := (attends.live live).1
    omega
  live inner generation slot observer found :=
    ((attends_afterQuitting ready launcher inner).live found).2
  resumed queued current := by
    rw [afterQuitting_nil ready]
    exact taken?_shutdown queued current
  started inner launching index order snapshot config taken := by
    refine ⟨leftover_afterQuitting ready inner (leftover_of_taken taken), ?_⟩
    intro process
    rw [launched_mem_work, taken]
    simp only [Option.some.injEq, Prod.mk.injEq]
    constructor
    · rintro ⟨_, _, kept, ⟨rfl, rfl⟩, rest⟩
      exact ⟨kept, rest⟩
    · rintro ⟨kept, rest⟩
      exact ⟨_, _, kept, ⟨rfl, rfl⟩, rest⟩
  final nothing later inner := by
    have attends := attends_afterQuitting ready launcher inner
    refine ⟨attends.running? nothing, fun quiet => ?_⟩
    apply attends.silent nothing quiet
    intro snapshot config taken
    exact leftover_afterQuitting ready inner (leftover_of_taken taken)

/-- One document is being checked, the check of another one is queued, and both
are to be checked again for a change of the settings. -/
def busyDesk : List (Move FileTree) :=
  [.call FileTree.admits .greeting,
    .call FileTree.admits (.opening "file:///hw/model.frg" "x"),
    .work FileTree.admits 0 .asOpened,
    .call FileTree.admits (.opening "file:///hw/other.frg" "y"),
    .call FileTree.admits (.retargeting "s")]

theorem shutdownFinality_busyDesk :
    (after {} plainMachine busyDesk).phase = .ready ∧
      ShutdownFinality {} plainMachine busyDesk FileTree.admits :=
  ⟨by decide +kernel, shutdownFinality_after {} _ busyDesk _ (by decide +kernel)⟩

/-- A document was opened, and its check was not launched yet. -/
def queuedCheck : List (Move FileTree) :=
  [.call FileTree.admits .greeting,
    .call FileTree.admits (.opening "file:///hw/model.frg" "x")]

/-- The queued check starts a process after the last request was answered. -/
theorem live_queuedCheck :
    (after {} plainMachine queuedCheck).phase = .ready ∧
      ((afterQuitting {} plainMachine queuedCheck FileTree.admits
        []).bridge.processes.running?
          (.document "file:///hw/model.frg")).isSome = false ∧
      ((afterQuitting {} plainMachine queuedCheck FileTree.admits
        [.work FileTree.admits 0 .asOpened]).bridge.processes.running?
          (.document "file:///hw/model.frg")).isSome = true := by
  decide +kernel

end Server

end ToolBridge
