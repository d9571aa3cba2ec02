import ToolBridge.Proofs.Server.Calls

/-!
# What a step of the server can do to its desk

A document is stored or closed, the settings change, a document of a batch is
asked for again, a batch is begun, or the desk is left alone.
-/

namespace ToolBridge.Server

variable {σ : Type}

/-- What a step, other than the beginning of a batch, can do to the desk, the
task that is taken up for it, and the requests that it issues. -/
inductive Turns (server next : Server σ) :
    Option Task → List (CheckRequest × Config) → Prop where
  | abide (abides : Abides [] server next) : Turns server next none []
  | store (document : Document) {request : CheckRequest}
      (issued : request =
        ⟨⟨document, server.stamps + 1⟩, server.bridge.tickets.issued + 1⟩)
      (introduced : server.phase ≠ .fresh)
      (carries : Carries [(request, server.config)] server next)
      (queued : .check request server.config ∈ next.tasks)
      (desk : next.desk =
        { server.desk with
          documents := server.documents.insert document.id
            ⟨document, server.stamps + 1⟩
          tickets := (server.bridge.tickets.issue document.id).1
          stamps := server.stamps + 1 }) :
      Turns server next none [(request, server.config)]
  | close (id : String) (carries : Carries [] server next)
      (desk : next.desk =
        { server.desk with
          documents := server.documents.erase id
          tickets := server.bridge.tickets.forget id }) :
      Turns server next none []
  /-- The documents are to be checked again, unless there cannot be any. -/
  | configure (config : Config)
      (again : .revalidate ∈ next.tasks ∨ server.phase = .fresh)
      (carries : Carries [] server next)
      (desk : next.desk =
        { server.desk with config, settings := server.settings + 1 }) :
      Turns server next none []
  | launch (request : CheckRequest) (config : Config)
      (abides : Abides [(request, config)] server next) :
      Turns server next (some (.check request config)) []
  /-- A stored snapshot is asked for again. -/
  | renew (number : Nat) (snapshot : Snapshot) {request : CheckRequest}
      (issued : request = ⟨snapshot, server.bridge.tickets.issued + 1⟩)
      (due : server.isDue number snapshot = true)
      (carries : Carries [(request, server.config)] server next)
      (desk : next.desk =
        { server.desk with
          tickets := (server.bridge.tickets.issue snapshot.id).1 }) :
      Turns server next (some (.item number snapshot))
        [(request, server.config)]
  | pass (number : Nat) (snapshot : Snapshot)
      (undue : server.isDue number snapshot = false)
      (abides : Abides [] server next) :
      Turns server next (some (.item number snapshot)) []

theorem Quiet.turns {server next : Server σ} {reactions : List Reaction}
    (quiet : Quiet [] server (next, reactions)) :
    Turns server next none (orders reactions) := by
  rw [quiet.silent]
  exact .abide quiet.abides

theorem Turns.carries {server next : Server σ} {hand : Option Task}
    {issued : List (CheckRequest × Config)}
    (turns : Turns server next hand issued) :
    (∃ launched, Carries launched server next) ∧
      next.batchCount = server.batchCount := by
  cases turns with
  | abide abides =>
      exact ⟨⟨_, abides.carries⟩, congrArg Desk.batchCount abides.desk⟩
  | store _ _ _ carries _ desk =>
      exact ⟨⟨_, carries⟩, congrArg Desk.batchCount desk⟩
  | close _ carries desk =>
      exact ⟨⟨_, carries⟩, congrArg Desk.batchCount desk⟩
  | configure _ _ carries desk =>
      exact ⟨⟨_, carries⟩, congrArg Desk.batchCount desk⟩
  | launch _ _ abides =>
      exact ⟨⟨_, abides.carries⟩, congrArg Desk.batchCount abides.desk⟩
  | renew _ _ _ _ carries desk =>
      exact ⟨⟨_, carries⟩, congrArg Desk.batchCount desk⟩
  | pass _ _ _ abides =>
      exact ⟨⟨_, abides.carries⟩, congrArg Desk.batchCount abides.desk⟩

/-- What is to be done after a step was to be done before, or is the task that
was taken up, or was asked for in the step. -/
theorem Turns.engaged {server next : Server σ} {hand : Option Task}
    {issued : List (CheckRequest × Config)} {request : CheckRequest}
    {config : Config} (turns : Turns server next hand issued)
    (engaged : next.Engaged request config) :
    server.Engaged request config ∨ hand = some (.check request config) ∨
      (request, config) ∈ issued := by
  have quiet (carries : Carries [] server next) :
      server.Engaged request config := by
    rcases carries.engaged engaged with before | now
    · exact before
    · cases now
  cases turns with
  | abide abides => exact Or.inl (quiet abides.carries)
  | store _ _ _ carries _ _ =>
      exact (carries.engaged engaged).imp_right Or.inr
  | close _ carries _ => exact Or.inl (quiet carries)
  | configure _ _ carries _ => exact Or.inl (quiet carries)
  | launch other settled abides =>
      rcases abides.carries.engaged engaged with before | now
      · exact Or.inl before
      · cases List.mem_singleton.mp now
        exact Or.inr (Or.inl rfl)
  | renew _ _ _ _ carries _ =>
      exact (carries.engaged engaged).imp_right Or.inr
  | pass _ _ _ abides => exact Or.inl (quiet abides.carries)

/-! ## Documents and settings -/

theorem turns_store (server : Server σ) (document : Document)
    (introduced : server.phase ≠ .fresh) :
    Turns server (server.store document).1 none
      (orders (server.store document).2) := by
  refine .store document rfl introduced ?_ ?_ rfl
  · refine Carries.trans ?_ (.enqueue _ ?_ ?_)
    · exact .of_eq rfl rfl rfl id
    · intro number snapshot same
      cases same
    · intro request config same
      cases same
      exact List.mem_singleton_self _
  · exact List.mem_append_right _ (List.mem_singleton_self _)

theorem turns_closeDocument [Storage σ] (server : Server σ) (id : String) :
    Turns server (server.closeDocument id).1 none
      (orders (server.closeDocument id).2) := by
  obtain ⟨storage, answer, closing⟩ := server.bridge.close_eq id
  simp only [closeDocument, absorb, closing]
  let erased : Server σ :=
    { server with
      documents := server.documents.erase id
      bridge :=
        { server.bridge with
          tickets := server.bridge.tickets.forget id
          processes := server.bridge.processes.vacate (.document id)
          publisher := (server.bridge.publisher.clear id).1
          storage } }
  have left : Carries [] server erased := by
    refine .of_ran rfl rfl ?_ (fun fresh => fresh)
    intro request config ran
    refine Or.inl (ran.of_eq ?_)
    intro generation
    exact ProcessTable.lastObserver?_vacate
  have reacted : Quiet [] erased _ := erased.quiet_reactAll
    (server.bridge.terminations (.document id) ++ [.deliver ⟨id, []⟩])
  -- The document is gone before the bridge is told, so the effects meet a
  -- desk without it.
  rw [reacted.silent]
  exact .close id (left.trans reacted.abides.carries) reacted.abides.desk

theorem orders_readSettings (machine : Machine) (value : Json) :
    orders (readSettings machine value).2 = [] := by
  unfold readSettings
  cases Settings.ofJson? value with
  | none => rfl
  | some settings => rfl

theorem turns_changeSettings (server : Server σ) (value : Json) :
    Turns server (server.changeSettings value).1 none
      (orders (server.changeSettings value).2) := by
  unfold changeSettings
  have silent := orders_readSettings server.machine value
  rcases read : readSettings server.machine value with ⟨found, reactions⟩
  rw [read] at silent
  cases found with
  | none => exact Quiet.turns ⟨.refl server, silent⟩
  | some settings =>
      dsimp only at silent ⊢
      split
      · exact Quiet.turns ⟨.refl server, silent⟩
      · rw [silent]
        refine .configure _ (Or.inl ?_) ?_ rfl
        · exact List.mem_append_right _ (List.mem_singleton_self _)
        · refine Carries.trans ?_ (.enqueue _ ?_ ?_)
          · exact .of_eq rfl rfl rfl id
          · intro number snapshot same
            cases same
          · intro request config same
            cases same

/-! ## Calls -/

/-- Settings that come with the first request find no document to check
again. -/
theorem turns_introduce (server : Server σ) (params : Json)
    (fresh : server.phase = .fresh) :
    Turns server (server.introduce params).1 none
      (orders (server.introduce params).2.2) := by
  have ready (related : Bool) :
      Abides [] server { server with related, phase := .ready } :=
    ⟨rfl, .of_eq rfl rfl rfl fun _ => fresh⟩
  unfold introduce
  rcases initializeParams? params with _ | ⟨related, _ | options⟩
  · exact .abide (.refl server)
  · exact .abide (ready related)
  · dsimp only
    have silent := orders_readSettings server.machine options
    rcases read : readSettings server.machine options with ⟨found, reactions⟩
    rw [read] at silent
    cases found with
    | none => exact Quiet.turns ⟨ready related, silent⟩
    | some settings =>
        dsimp only at silent ⊢
        rw [silent]
        exact .configure _ (Or.inr fresh)
          (.of_eq rfl rfl rfl fun _ => fresh) rfl

theorem quiet_shutdown (server : Server σ) :
    Quiet [] server server.shutdown := by
  let closed : Server σ := { server with phase := .closed }
  have shut : Abides [] server closed :=
    ⟨rfl, .of_eq rfl rfl rfl (by simp [closed])⟩
  have absorbed : Quiet [] closed server.shutdown := by
    have tickets : server.bridge.killAll.1.tickets = closed.bridge.tickets := rfl
    refine closed.quiet_absorb tickets ?_ server.bridge.killAll.2
    intro request config ran
    refine Or.inl (ran.of_eq ?_)
    intro generation
    exact ProcessTable.lastObserver?_killAll
  exact ⟨shut.trans absorbed.abides, absorbed.silent⟩

theorem quiet_startRun (server : Server σ) (launcher : Launcher σ)
    (document : Document) (path : String) :
    Quiet [] server
      ((server.startRun launcher document path).1,
        (server.startRun launcher document path).2.2) := by
  unfold startRun
  have starts := server.bridge.starts launcher document path server.config
  rcases started : server.bridge.start launcher document path server.config with
    ⟨bridge, answer, effects⟩
  rw [started] at starts
  have absorbed : Quiet [] server (server.absorb bridge effects) :=
    server.quiet_absorb starts.tickets_eq (fun ran => Or.inl (starts.ran ran))
      effects
  dsimp only
  rcases reacted : server.absorb bridge effects with ⟨next, reactions⟩
  rw [reacted] at absorbed
  have silent {more : List Reaction} (quiet : orders more = []) :
      orders (reactions ++ more) = [] := by
    rw [orders_append, quiet, List.append_nil]
    exact absorbed.silent
  rcases answer with failure | generation
  · cases failure with
    | notSource => exact ⟨absorbed.abides, silent rfl⟩
    | _ =>
        refine ⟨absorbed.abides, ?_⟩
        dsimp only
        rw [List.append_assoc]
        exact silent rfl
  · exact absorbed

theorem quiet_runFile [Storage σ] (server : Server σ) (launcher : Launcher σ)
    (arguments : List Json) :
    Quiet [] server
      ((server.runFile launcher arguments).1,
        (server.runFile launcher arguments).2.2) := by
  unfold runFile
  rcases pathToRun? server.config arguments with _ | ⟨uri, path⟩
  · exact ⟨.refl server, rfl⟩
  · dsimp only
    cases server.documentToRun uri path with
    | error cause => exact ⟨.refl server, rfl⟩
    | ok document => exact server.quiet_startRun launcher document path

theorem quiet_stopRun (server : Server σ) :
    Quiet [] server (server.stopRun.1, server.stopRun.2.2) := by
  have tickets : server.bridge.stop.1.tickets = server.bridge.tickets := by
    rw [Bridge.stop_eq]
  refine server.quiet_absorb tickets ?_ _
  intro request config ran
  refine Or.inl (ran.of_eq ?_)
  intro generation
  rw [Bridge.stop_eq]
  exact ProcessTable.lastObserver?_vacate

theorem Handles.turns [Storage σ] {server : Server σ} {launcher : Launcher σ}
    {call : Call} {done : Server σ × List Reaction}
    (handles : Handles server launcher call done) :
    Turns server done.1 none (orders done.2) := by
  cases handles with
  | stay phase later silent =>
      exact Quiet.turns ⟨⟨rfl, .of_eq rfl rfl rfl later⟩, silent⟩
  | introduce fresh => exact server.turns_introduce _ fresh
  | shutdown => exact server.quiet_shutdown.turns
  | run arguments => exact (server.quiet_runFile launcher arguments).turns
  | stop => exact server.quiet_stopRun.turns
  | store document ready => exact server.turns_store document (by simp [ready])
  | close => exact server.turns_closeDocument _
  | configure => exact server.turns_changeSettings _

theorem turns_handle [Storage σ] (server : Server σ) (launcher : Launcher σ)
    (call : Call) :
    Turns server (server.handle launcher call).1 none
      (orders (server.handle launcher call).2.2) :=
  (server.handles_handle launcher call).turns

/-! ## Tasks and processes -/

theorem isDue_iff {server : Server σ} {number : Nat} {snapshot : Snapshot} :
    server.isDue number snapshot = true ↔
      (∃ batch, server.batches.get? number = some batch ∧
        batch.settings = server.settings) ∧
        server.documents.get? snapshot.id = some snapshot := by
  simp [isDue, Option.any_eq_true]

theorem turns_runItem [Storage σ] (server : Server σ) (launcher : Launcher σ)
    (number : Nat) (snapshot : Snapshot) :
    Turns server (server.runItem launcher number snapshot).1
      (some (.item number snapshot))
      (orders (server.runItem launcher number snapshot).2) := by
  unfold runItem
  split
  · rename_i due
    have launched := (server.ask snapshot).1.quiet_launchCheck launcher
      (server.ask snapshot).2.1 (server.ask snapshot).1.config
      (some (number, snapshot))
    dsimp only
    rw [orders_append, launched.silent]
    refine .renew number snapshot rfl due ?_ launched.abides.desk
    refine Carries.trans ?_ launched.abides.carries
    exact .of_eq rfl rfl rfl id
  · rename_i undue
    exact .pass number snapshot (Bool.eq_false_iff.mpr undue)
      (server.abides_finishItem number snapshot)

/-- An item asks for nothing but its snapshot, and only if it is due. -/
theorem of_mem_requests_runItem [Storage σ] {server : Server σ}
    {launcher : Launcher σ} {number : Nat} {snapshot : Snapshot}
    {request : CheckRequest}
    (member : request ∈
      requests (server.runItem launcher number snapshot).2) :
    server.isDue number snapshot = true ∧ request.snapshot = snapshot := by
  rw [requests_eq_map_orders] at member
  obtain ⟨order, asked, rfl⟩ := List.mem_map.mp member
  have turns := server.turns_runItem launcher number snapshot
  generalize orders (server.runItem launcher number snapshot).2 = issued
    at turns asked
  cases turns with
  | renew _ _ issued due =>
      cases List.mem_singleton.mp asked
      exact ⟨due, issued ▸ rfl⟩
  | pass => cases asked

theorem turns_runTask [Storage σ] (server : Server σ) (launcher : Launcher σ)
    (order : Arrangement) {task : Task} (other : task ≠ .revalidate) :
    Turns server (server.runTask launcher order task).1 (some task)
      (orders (server.runTask launcher order task).2) := by
  cases task with
  | check request config =>
      have launched := server.quiet_launchCheck launcher request config none
      simp only [runTask]
      rw [launched.silent]
      exact .launch request config launched.abides
  | revalidate => exact absurd rfl other
  | item number snapshot => exact server.turns_runItem launcher number snapshot

theorem quiet_receive (server : Server σ) (generation : Nat)
    (events : List ProcessEvent) :
    Quiet [] server (server.receive generation events) :=
  server.quiet_absorb (server.bridge.tickets_receiveAll generation events)
    (fun ran => Or.inl (Bridge.ran_of_receiveAll ran)) _

theorem foldl_enqueue_item (server : Server σ) (number : Nat)
    (snapshots : List Snapshot) :
    snapshots.foldl
        (fun server snapshot => server.enqueue (.item number snapshot)) server =
      { server with
        tasks := server.tasks ++ snapshots.map (.item number) } := by
  induction snapshots generalizing server with
  | nil => simp
  | cons snapshot snapshots ih =>
      rw [List.foldl_cons, ih]
      simp [enqueue]

theorem startBatch_eq (server : Server σ) (order : Arrangement) :
    server.startBatch order =
      let dispatch := Dispatch.start
        (batchWidth server.machine.processors server.documents.values.length)
        (order.arrange server.documents.values)
      { server with
        batchCount := server.batchCount + 1
        batches := server.batches.insert (server.batchCount + 1)
          ⟨server.settings, dispatch⟩
        tasks := server.tasks ++
          dispatch.running.map (.item (server.batchCount + 1)) } := by
  unfold startBatch
  dsimp only
  rw [foldl_enqueue_item, (order.perm _).length_eq]

theorem of_item_mem_startBatch {server : Server σ} {number : Nat}
    {snapshot : Snapshot} {order : Arrangement}
    (member : .item number snapshot ∈ (server.startBatch order).tasks) :
    .item number snapshot ∈ server.tasks ∨
      (number = server.batchCount + 1 ∧
        snapshot ∈ server.documents.values) := by
  rw [startBatch_eq] at member
  rcases List.mem_append.mp member with old | new
  · exact Or.inl old
  · obtain ⟨item, running, same⟩ := List.mem_map.mp new
    cases same
    exact Or.inr ⟨rfl, (order.perm _).subset (List.mem_of_mem_take running)⟩

theorem of_get?_startBatch {server : Server σ} {number : Nat} {batch : Batch}
    {order : Arrangement}
    (found : (server.startBatch order).batches.get? number = some batch) :
    (number ≠ server.batchCount + 1 ∧
        server.batches.get? number = some batch) ∨
      (number = server.batchCount + 1 ∧ batch.settings = server.settings ∧
        batch.dispatch.pending ⊆ server.documents.values) := by
  rw [startBatch_eq] at found
  dsimp only at found
  rw [Dict.get?_insert] at found
  split at found
  · rename_i same
    cases found
    refine Or.inr ⟨same.symm, rfl, fun snapshot waiting => ?_⟩
    exact (order.perm _).subset (List.drop_subset _ _ waiting)
  · rename_i other
    exact Or.inl ⟨Ne.symm other, found⟩

end ToolBridge.Server
