import ToolBridge.Proofs.Bridge.Records

/-!
# Survival

The process of the newest request of a document is not lost.  Nothing that is
done with older requests or with other documents ends it, and when it exits
its result is shown.
-/

namespace ToolBridge.Bridge

variable {σ : Type} {bridge next : Bridge σ} {past later : List Entry}
  {entry : Entry} {seen effects : List Effect} {request : CheckRequest}
  {config : Config} {generation : Nat}

/-- The current request of a document was launched, and the process of its
last launch has neither exited nor been killed with all others. -/
structure Pending (bridge : Bridge σ) (past : List Entry)
    (request : CheckRequest) (config : Config) (generation : Nat)
    (later : List Entry) : Prop where
  launched : Launched past request config generation later
  current : bridge.isCurrent request = true
  last : ∀ entry ∈ later, entry.spawned? ≠ some request
  unended : Unended generation later
  unkilled : .killed ∉ later

/-- The process of the current request outlives what is done with others. -/
theorem not_ends_of_current (ticketed : Ticketed bridge past)
    (known : .asked request ∈ past) (current : bridge.isCurrent request = true)
    (step : Steps past bridge entry effects next)
    (unspawned : entry.spawned? ≠ some request)
    (unended : ∀ code, entry ≠ .received generation (.exit code))
    (unclosed : entry ≠ .closed request.id) (unkilled : entry ≠ .killed) :
    ¬ entry.Ends generation (.document request.id) := by
  intro ends
  rcases Entry.ends_document ends with
    ⟨other, spawned, same⟩ | ⟨code, exited⟩ | closed | killed
  · -- Two current requests of one document are the same request.
    obtain ⟨issued, newest⟩ := step.current_of_spawned spawned
    have equal := ticketed.eq_of_isCurrent issued known same newest current
    exact unspawned (equal ▸ spawned)
  · exact unended code exited
  · exact unclosed closed
  · exact unkilled killed

/-- The process of a pending request is live. -/
def Secured (bridge : Bridge σ) (past : List Entry) : Prop :=
  ∀ ⦃request config generation later⦄,
    Pending bridge past request config generation later →
      bridge.processes.process? generation =
        some (.document request.id,
          .check request config (written generation later))

theorem Secured.step (secured : Secured bridge past)
    (ticketed : Ticketed bridge past)
    (step : Steps past bridge entry effects next) :
    Secured next (past ++ [entry]) := by
  intro request config generation later pending
  rcases pending.launched.of_append_singleton with
    ⟨since, rfl, launched⟩ | ⟨rfl, rfl⟩
  · have known := ticketed.launched launched.mem
    -- A stale request does not become current again, so this one was before.
    obtain ⟨unclosed, current⟩ :=
      ticketed.isCurrent_of_step step known pending.current
    have inside : entry ∈ since ++ [entry] := by simp
    have before : Pending bridge past request config generation since :=
      { launched
        current
        last := fun other member =>
          pending.last other (List.mem_append_left _ member)
        unended := fun code member =>
          pending.unended code (List.mem_append_left _ member)
        unkilled := fun member =>
          pending.unkilled (List.mem_append_left _ member) }
    have lasts := not_ends_of_current ticketed known current step
      (pending.last entry inside)
      (fun code exited => pending.unended code (exited ▸ inside)) unclosed
      (fun killed => pending.unkilled (killed ▸ inside))
    rw [written_append_singleton]
    exact step.check_iff.mpr (Or.inl ⟨lasts, _, secured before, rfl⟩)
  · exact step.check_iff.mpr (Or.inr ⟨rfl, rfl, rfl⟩)

theorem secured_after [Storage σ] (storage : σ) (scratch : Scratch)
    (actions : List (Action σ)) :
    Secured (History.after storage scratch actions).bridge
      (History.after storage scratch actions).past :=
  History.induction_on_recorded Secured storage scratch
    (fun _ _ _ _ pending => absurd pending.launched not_launched_nil)
    (fun taken recorded secured => secured.step recorded.tickets taken) actions

/-- An action that is not meant for the process of a request. -/
def Action.Spares (request : CheckRequest) (generation : Nat) :
    Action σ → Prop
  | launch _ ticket _ => ticket ≠ request.ticket
  | receive other (.exit _) => other ≠ generation
  | close id => id ≠ request.id
  | killAll => False
  | _ => True

/-- Such an action makes no entry that could end the process. -/
theorem History.entry_of_spares [Storage σ] {history : History σ}
    {action : Action σ} (spares : action.Spares request generation)
    (entered : (history.perform action).2.1 = [entry]) :
    entry.spawned? ≠ some request ∧
      (∀ code, entry ≠ .received generation (.exit code)) ∧
      entry ≠ .closed request.id ∧ entry ≠ .killed := by
  cases action with
  | launch launcher ticket config =>
      rw [perform] at entered
      cases found : history.request? ticket with
      | none => simp [found] at entered
      | some other =>
          simp only [found, List.cons.injEq, and_true] at entered
          subst entered
          refine ⟨?_, by simp, by simp, by simp⟩
          intro spawned
          have same := Entry.request_of_spawned spawned
          have issued : other.ticket = ticket := by
            simpa using List.find?_some found
          exact spares (by rw [← issued, same])
  | receive other event =>
      cases entered
      refine ⟨by simp [Entry.spawned?], ?_, by simp, by simp⟩
      rintro code ⟨⟩
      exact spares rfl
  | close id =>
      cases entered
      refine ⟨by simp [Entry.spawned?], by simp, ?_, by simp⟩
      rintro ⟨⟩
      exact spares rfl
  | killAll => exact spares.elim
  | _ =>
      cases entered
      simp [Entry.spawned?]

/-- What a pending check can rely on. -/
structure NewestResultKept [Storage σ] (history : History σ) (request : CheckRequest)
    (config : Config) (generation : Nat) (later : List Entry) : Prop where
  live : history.bridge.processes.generation? (.document request.id) =
    some generation
  observed : history.bridge.processes.process? generation =
    some (.document request.id,
      .check request config (written generation later))
  /-- Nothing but an action that is meant for the process ends it. -/
  spared : ∀ {action : Action σ}, action.Spares request generation →
    (history.advance action).bridge.processes.generation?
      (.document request.id) = some generation
  /-- The result is answered and shown when the process exits. -/
  concluded : ∀ code,
    let finding := findingOf config (written generation later) code
    let ended := history.advance (.receive generation (.exit code))
    ended.effects = history.effects ++
        [.deliver ⟨request.id, ended.bridge.publisher.held request.id⟩,
          .checked generation (.ofFinding? finding)] ∧
      (ended.bridge.publisher.sets request.id).check =
        diagnosticsOf request finding

theorem spared [Storage σ] {history : History σ}
    (recorded : Recorded history.bridge history.past history.effects)
    (pending : Pending history.bridge history.past request config generation
      later)
    (live : history.bridge.processes.process? generation =
      some (.document request.id,
        .check request config (written generation later)))
    {action : Action σ} (spares : action.Spares request generation) :
    (history.advance action).bridge.processes.generation?
      (.document request.id) = some generation := by
  refine ProcessTable.live_eq_some_iff.mpr ?_
  unfold History.advance
  rcases history.steps_perform action with
    idle | ⟨entry, effects, next, step, performed⟩
  · rw [idle]
    exact ⟨_, live⟩
  · obtain ⟨unspawned, unended, unclosed, unkilled⟩ :=
      History.entry_of_spares spares (congrArg (fun done => done.2.1) performed)
    have known := recorded.tickets.launched pending.launched.mem
    have lasts := not_ends_of_current recorded.tickets known pending.current
      step unspawned unended unclosed unkilled
    rw [performed]
    exact ⟨_, step.check_iff.mpr (Or.inl ⟨lasts, _, live, rfl⟩)⟩

theorem concluded [Storage σ] {history : History σ}
    (current : history.bridge.isCurrent request = true) {stderr : String}
    (live : history.bridge.processes.process? generation =
      some (.document request.id, .check request config stderr))
    (code : Option Int) :
    let finding := findingOf config stderr code
    let ended := history.advance (.receive generation (.exit code))
    ended.effects = history.effects ++
        [.deliver ⟨request.id, ended.bridge.publisher.held request.id⟩,
          .checked generation (.ofFinding? finding)] ∧
      (ended.bridge.publisher.sets request.id).check =
        diagnosticsOf request finding := by
  have observed := ProcessTable.observer?_eq_some_iff.mpr ⟨_, live⟩
  simp only [History.advance, History.perform,
    receive_exit_of_current observed current, published, Publisher.held,
    Publisher.sets_replace, if_true]
  exact ⟨rfl, rfl⟩

/-- A storage that takes every file and keeps none. -/
@[reducible] def forgetful : Storage Unit where
  write _ _ _ := ((), .ok ())
  remove _ _ := ((), .ok ())
  read _ _ := .error .notFound

/-- An older request is launched after the process of the newer one has begun
to write. -/
def lateLaunch : History Unit :=
  @History.after Unit forgetful () ⟨"", ""⟩
    [.ask ⟨⟨"a", 1, "("⟩, 0⟩, .ask ⟨⟨"a", 2, ")"⟩, 1⟩,
      .launch (fun _ _ => .ok ()) 2 {}, .receive 1 (.stderr "read"),
      .launch (fun _ _ => .ok ()) 1 {}]

end ToolBridge.Bridge
