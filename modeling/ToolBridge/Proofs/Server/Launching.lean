import ToolBridge.Proofs.Server.Freshness

/-!
# How the server comes to start a check

A task starts a check only if the check is still wanted: a queued request has to
be the newest of its document, and an item of a batch has to be due.  Otherwise
the bridge is left as it is and nobody is told anything.  Whatever the server
makes of the effects of its bridge, it only moves the batches on.
-/

namespace ToolBridge

/-- A process is started for a current request iff its scratch file can be
written and the system takes the command. -/
theorem Bridge.launched_mem_launch {σ : Type} [Storage σ] {bridge : Bridge σ}
    {request : CheckRequest} (current : bridge.isCurrent request = true)
    {launcher : Launcher σ} {config : Config} {process : Started} :
    .launched process ∈ (bridge.launch launcher request config).2.2 ↔
      ∃ storage,
        Storage.write bridge.storage (bridge.scratch.pathFor request.id)
            request.document.text = (storage, .ok ()) ∧
          launcher storage
            (config.checkCommand (bridge.scratch.pathFor request.id)) =
              .ok () ∧
          process = ⟨.document request.id, bridge.processes.issued + 1,
            config.checkCommand (bridge.scratch.pathFor request.id)⟩ := by
  rcases wrote : Storage.write bridge.storage
    (bridge.scratch.pathFor request.id) request.document.text with
    ⟨storage, cause | _⟩
  · rw [launch_of_unwritten current wrote]
    simp
  · cases accepted : launcher storage
      (config.checkCommand (bridge.scratch.pathFor request.id)) with
    | error cause =>
        rw [launch_of_refused current wrote accepted]
        simp [launched_notMem_terminations, accepted]
    | ok _ =>
        rw [launch_of_accepted current wrote accepted]
        simp [launched_notMem_terminations, accepted]

namespace Server

variable {σ : Type}

/-! ## The bridge is left alone -/

/-- The batches were moved on: the bridge is as it was, and nothing was queued
but items. -/
structure Proceeds (server next : Server σ) : Prop where
  bridge : next.bridge = server.bridge
  tasks : ∀ {task}, task ∈ next.tasks →
    task ∈ server.tasks ∨ ∃ number snapshot, task = .item number snapshot

namespace Proceeds

theorem of_eq {server next : Server σ} (bridge : next.bridge = server.bridge)
    (tasks : next.tasks = server.tasks) : Proceeds server next :=
  ⟨bridge, fun member => Or.inl (tasks ▸ member)⟩

theorem refl (server : Server σ) : Proceeds server server :=
  of_eq rfl rfl

theorem trans {first second third : Server σ} (earlier : Proceeds first second)
    (later : Proceeds second third) : Proceeds first third where
  bridge := later.bridge.trans earlier.bridge
  tasks member := by
    rcases later.tasks member with before | item
    · exact earlier.tasks before
    · exact Or.inr item

end Proceeds

theorem proceeds_finishItem (server : Server σ) (number : Nat)
    (snapshot : Snapshot) :
    Proceeds server (server.finishItem number snapshot) := by
  unfold finishItem
  cases server.batches.get? number with
  | none => exact .refl server
  | some batch =>
      dsimp only
      cases batch.dispatch.running.findIdx? (· == snapshot) with
      | none => exact .refl server
      | some index =>
          dsimp only
          rcases batch.dispatch.finish index false with ⟨dispatch, _ | next⟩
          · exact .of_eq rfl rfl
          · refine ⟨rfl, ?_⟩
            intro task member
            rcases List.mem_append.mp member with before | last
            · exact Or.inl before
            · exact Or.inr ⟨number, next, List.mem_singleton.mp last⟩

theorem proceeds_finishOwner (server : Server σ)
    (owner : Option (Nat × Snapshot)) :
    Proceeds server (server.finishOwner owner) := by
  cases owner with
  | none => exact .refl server
  | some owner => exact server.proceeds_finishItem owner.1 owner.2

theorem proceeds_react (server : Server σ) (effect : Effect) :
    Proceeds server (server.react effect).1 := by
  cases effect with
  | checked generation outcome =>
      change Proceeds server (server.finishProcess generation)
      unfold finishProcess
      cases server.owners.get? generation with
      | none => exact .refl server
      | some owner =>
          have released : Proceeds server
              { server with owners := server.owners.erase generation } :=
            .of_eq rfl rfl
          exact released.trans (proceeds_finishItem _ _ _)
  | _ => exact .refl server

theorem proceeds_reactAll (server : Server σ) (effects : List Effect) :
    Proceeds server (server.reactAll effects).1 := by
  induction effects generalizing server with
  | nil => exact .refl server
  | cons effect effects ih =>
      exact (server.proceeds_react effect).trans (ih _)

/-! ## What is launched -/

theorem launched_mem_react {server : Server σ} {effect : Effect}
    {process : Started} :
    .launched process ∈ (server.react effect).2 ↔ effect = .launched process := by
  cases effect with
  | launched other => simp [react, eq_comm]
  | _ => simp [react]

theorem launched_mem_reactAll {server : Server σ} {effects : List Effect}
    {process : Started} :
    .launched process ∈ (server.reactAll effects).2 ↔
      .launched process ∈ effects := by
  induction effects generalizing server with
  | nil => simp [reactAll]
  | cons effect effects ih =>
      simp only [reactAll, List.mem_append, List.mem_cons, launched_mem_react, ih]
      rw [eq_comm]

variable [Storage σ]

/-- The launch of a check is that of the bridge. -/
theorem proceeds_launchCheck (server : Server σ) (launcher : Launcher σ)
    (request : CheckRequest) (config : Config)
    (owner : Option (Nat × Snapshot)) :
    Proceeds
      { server with
        bridge := (server.bridge.launch launcher request config).1 }
      (server.launchCheck launcher request config owner).1 := by
  unfold launchCheck
  rcases server.bridge.launch launcher request config with
    ⟨bridge, answer, effects⟩
  have absorbed : Proceeds { server with bridge }
      (server.absorb bridge effects).1 := proceeds_reactAll _ effects
  dsimp only
  rcases reacted : server.absorb bridge effects with ⟨next, reactions⟩
  rw [reacted] at absorbed
  have finished := absorbed.trans (next.proceeds_finishOwner owner)
  rcases answer with failure | _ | generation
  · exact finished
  · exact finished
  · cases owner with
    | none => exact absorbed
    | some owner => exact absorbed.trans (.of_eq rfl rfl)

theorem launched_mem_launchCheck {server : Server σ} {launcher : Launcher σ}
    {request : CheckRequest} {config : Config}
    {owner : Option (Nat × Snapshot)} {process : Started} :
    .launched process ∈
        (server.launchCheck launcher request config owner).2 ↔
      .launched process ∈
        (server.bridge.launch launcher request config).2.2 := by
  unfold launchCheck
  rcases server.bridge.launch launcher request config with
    ⟨bridge, answer, effects⟩
  have absorbed : .launched process ∈ (server.absorb bridge effects).2 ↔
      .launched process ∈ effects := launched_mem_reactAll
  dsimp only
  rcases reacted : server.absorb bridge effects with ⟨next, reactions⟩
  rw [reacted] at absorbed
  rcases answer with failure | _ | generation
  · simp only [List.mem_append, absorbed]
    simp
  · exact absorbed
  · cases owner with
    | none => exact absorbed
    | some owner => exact absorbed

/-! ## Tasks -/

/-- The check that a task starts, if it is still wanted. -/
def wanted? (server : Server σ) : Task → Option (Snapshot × Config)
  | .check request config =>
      if server.bridge.isCurrent request then some (request.snapshot, config)
      else none
  | .revalidate => none
  | .item number snapshot =>
      if server.isDue number snapshot then some (snapshot, server.config)
      else none

omit [Storage σ] in
theorem of_wanted {server : Server σ} {task : Task} {snapshot : Snapshot}
    {config : Config}
    (wanted : server.wanted? task = some (snapshot, config)) :
    (∃ request, task = .check request config ∧ request.snapshot = snapshot ∧
        server.bridge.isCurrent request = true) ∨
      ∃ number, task = .item number snapshot ∧ config = server.config ∧
        server.isDue number snapshot = true := by
  cases task with
  | check request settled =>
      simp only [wanted?, Option.ite_none_right_eq_some, Option.some.injEq,
        Prod.mk.injEq] at wanted
      obtain ⟨current, same, rfl⟩ := wanted
      exact Or.inl ⟨request, rfl, same, current⟩
  | revalidate => cases wanted
  | item number other =>
      simp only [wanted?, Option.ite_none_right_eq_some, Option.some.injEq,
        Prod.mk.injEq] at wanted
      obtain ⟨due, rfl, rfl⟩ := wanted
      exact Or.inr ⟨number, rfl, rfl, due⟩

/-- A task that starts no check leaves the bridge alone, and nobody is told. -/
theorem runTask_of_unwanted {server : Server σ} {task : Task}
    (unwanted : server.wanted? task = none) (launcher : Launcher σ)
    (order : Arrangement) :
    Proceeds server (server.runTask launcher order task).1 ∧
      (server.runTask launcher order task).2 = [] := by
  cases task with
  | check request config =>
      have stale : server.bridge.isCurrent request = false := by
        simpa [wanted?] using unwanted
      have launched : server.launchCheck launcher request config none =
          (server, []) := by
        rw [launchCheck, Bridge.launch_of_stale stale]
        rfl
      simp only [runTask, launched]
      exact ⟨.refl server, trivial⟩
  | revalidate =>
      refine ⟨?_, rfl⟩
      simp only [runTask, startBatch_eq]
      refine ⟨rfl, ?_⟩
      intro task member
      rcases List.mem_append.mp member with before | new
      · exact Or.inl before
      · obtain ⟨item, _, same⟩ := List.mem_map.mp new
        exact Or.inr ⟨_, item, same.symm⟩
  | item number snapshot =>
      have undue : server.isDue number snapshot = false := by
        simpa [wanted?] using unwanted
      simp only [runTask, runItem, undue]
      exact ⟨server.proceeds_finishItem number snapshot, rfl⟩

/-- A bridge that differs in its tickets and diagnostics at most, and in which a
request is the newest of its document. -/
structure Readies (bridge asked : Bridge σ) (request : CheckRequest) :
    Prop where
  storage : asked.storage = bridge.storage
  scratch : asked.scratch = bridge.scratch
  processes : asked.processes = bridge.processes
  current : asked.isCurrent request = true

/-- A task that starts a check launches a request for it that is the newest. -/
theorem runTask_of_wanted {server : Server σ} {task : Task}
    {snapshot : Snapshot} {config : Config}
    (wanted : server.wanted? task = some (snapshot, config))
    (launcher : Launcher σ) (order : Arrangement) :
    ∃ asked request, request.snapshot = snapshot ∧
      Readies server.bridge asked request ∧
      Proceeds
        { server with bridge := (asked.launch launcher request config).1 }
        (server.runTask launcher order task).1 ∧
      ∀ {process}, .launched process ∈ (server.runTask launcher order task).2 ↔
        .launched process ∈ (asked.launch launcher request config).2.2 := by
  rcases of_wanted wanted with
    ⟨request, rfl, same, current⟩ | ⟨number, rfl, rfl, due⟩
  · exact ⟨server.bridge, request, same, ⟨rfl, rfl, rfl, current⟩,
      server.proceeds_launchCheck launcher request config none,
      launched_mem_launchCheck⟩
  · refine ⟨(server.bridge.ask snapshot).1, (server.bridge.ask snapshot).2.1,
      rfl, ⟨rfl, rfl, rfl, ?_⟩, ?_, ?_⟩
    · exact Bridge.isCurrent_iff.mpr (Dict.get?_insert_self ..)
    · simp only [runTask, runItem, due]
      exact (server.ask snapshot).1.proceeds_launchCheck launcher _ _ _
    · intro process
      simp only [runTask, runItem, due, if_true, List.mem_append,
        launched_mem_launchCheck]
      -- The question itself is answered with diagnostics only.
      exact or_iff_right (by simp [ask, absorb, reactAll, react, Bridge.ask])

/-! ## Moves -/

/-- The check that a move starts, if it is still wanted. -/
def taken? (server : Server σ) (move : Move σ) : Option (Snapshot × Config) :=
  (server.hand? move).bind server.wanted?

omit [Storage σ] in
theorem proceeds_aside (server : Server σ) (move : Move σ) :
    Proceeds server (server.aside move) where
  bridge := by cases move <;> rfl
  tasks member := Or.inl (tasks_aside_subset server move member)

omit [Storage σ] in
theorem proceeds_receive (server : Server σ) (generation : Nat)
    (events : List ProcessEvent) :
    Proceeds
      { server with bridge := (server.bridge.receiveAll generation events).1 }
      (server.receive generation events).1 :=
  proceeds_reactAll _ _

theorem work_of_untaken {server : Server σ} {launcher : Launcher σ}
    {index : Nat} {order : Arrangement}
    (untaken : server.taken? (.work launcher index order) = none) :
    Proceeds server (server.move (.work launcher index order)).1 ∧
      (server.move (.work launcher index order)).2 = [] := by
  cases found : server.tasks[index]? with
  | none =>
      simp only [move, found]
      exact ⟨.refl server, trivial⟩
  | some task =>
      have unwanted :
          (server.aside (.work launcher index order)).wanted? task = none := by
        have none := untaken
        rw [taken?, hand?, found] at none
        exact none
      obtain ⟨proceeds, silent⟩ := runTask_of_unwanted unwanted launcher order
      simp only [move, found]
      exact ⟨(server.proceeds_aside (.work launcher index order)).trans proceeds,
        silent⟩

theorem work_of_taken {server : Server σ} {launcher : Launcher σ} {index : Nat}
    {order : Arrangement} {snapshot : Snapshot} {config : Config}
    (taken : server.taken? (.work launcher index order) = some (snapshot, config)) :
    ∃ asked request, request.snapshot = snapshot ∧
      Readies server.bridge asked request ∧
      Proceeds
        { server with bridge := (asked.launch launcher request config).1 }
        (server.move (.work launcher index order)).1 ∧
      ∀ {process},
        .launched process ∈ (server.move (.work launcher index order)).2 ↔
          .launched process ∈ (asked.launch launcher request config).2.2 := by
  obtain ⟨task, found, wanted⟩ := Option.bind_eq_some_iff.mp taken
  have known : server.tasks[index]? = some task := found
  have same : (server.aside (.work launcher index order)).wanted? task =
      some (snapshot, config) := wanted
  obtain ⟨asked, request, carried, readies, proceeds, launched⟩ :=
    runTask_of_wanted same launcher order
  let next := { server with bridge := (asked.launch launcher request config).1 }
  simp only [move, known]
  exact ⟨asked, request, carried, readies,
    (next.proceeds_aside (.work launcher index order)).trans proceeds, launched⟩

/-- Work starts a process iff it takes up a check that is still wanted, the
scratch file can be written and the system takes the command. -/
theorem launched_mem_work {server : Server σ} {launcher : Launcher σ}
    {index : Nat} {order : Arrangement} {process : Started} :
    .launched process ∈ (server.move (.work launcher index order)).2 ↔
      ∃ snapshot config storage,
        server.taken? (.work launcher index order) = some (snapshot, config) ∧
        Storage.write server.bridge.storage
            (server.bridge.scratch.pathFor snapshot.id)
            snapshot.document.text = (storage, .ok ()) ∧
        launcher storage
            (config.checkCommand
              (server.bridge.scratch.pathFor snapshot.id)) = .ok () ∧
        process = ⟨.document snapshot.id, server.bridge.processes.issued + 1,
          config.checkCommand
            (server.bridge.scratch.pathFor snapshot.id)⟩ := by
  cases taken : server.taken? (.work launcher index order) with
  | none => simp [(work_of_untaken taken).2]
  | some check =>
      obtain ⟨snapshot, config⟩ := check
      obtain ⟨asked, request, rfl, readies, _, launched⟩ := work_of_taken taken
      rw [launched, Bridge.launched_mem_launch readies.current, readies.storage,
        readies.scratch, readies.processes]
      simp only [Option.some.injEq, Prod.mk.injEq]
      constructor
      · rintro ⟨storage, wrote, accepted, same⟩
        exact ⟨_, _, storage, ⟨rfl, rfl⟩, wrote, accepted, same⟩
      · rintro ⟨_, _, storage, ⟨rfl, rfl⟩, wrote, accepted, same⟩
        exact ⟨storage, wrote, accepted, same⟩

theorem stored_of_taken {storage : σ} {machine : Machine}
    {moves : List (Move σ)} {move : Move σ} {snapshot : Snapshot}
    {config : Config}
    (taken : (after storage machine moves).taken? move =
      some (snapshot, config)) :
    (after storage machine moves).documents.get? snapshot.id =
      some snapshot := by
  obtain ⟨task, hand, wanted⟩ := Option.bind_eq_some_iff.mp taken
  rcases of_wanted wanted with
    ⟨request, rfl, rfl, current⟩ | ⟨number, rfl, _, due⟩
  · have known : request ∈ issued storage machine moves := by
      rw [issued_eq_map_ordered]
      exact List.mem_map_of_mem
        (ordered_of_engaged (Or.inl (mem_of_hand? hand)))
    exact (aligned_after storage machine moves).stored_of_latest known
      (Bridge.isCurrent_iff.mp current)
  · exact (isDue_iff.mp due).2

end Server

end ToolBridge
