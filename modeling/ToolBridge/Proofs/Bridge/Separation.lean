import ToolBridge.Proofs.Bridge.Narration

/-!
# Checks and runs do not interfere

Checks and runs share the table of processes with its generations and the publisher
of diagnostics, and each side changes them through operations of its own.  Here
every action of one side is shown to leave the other side's part as it was: the
slots, the sets of diagnostics, the tickets, the files and the logs.
-/

namespace ToolBridge

/-- Is the effect a line on the console or a move of the cursor? -/
def Effect.isRemark : Effect → Bool
  | .console _ => true
  | .navigate _ _ => true
  | _ => false

namespace Bridge

variable {σ : Type} {bridge : Bridge σ} {generation number : Nat}
  {document : Document} {request : CheckRequest} {config : Config}
  {extension stderr path : String} {event : ProcessEvent}

/-! ## What the runs leave alone -/

/-- Everything that belongs to the checks is the same in two states. -/
structure SparesChecks (bridge next : Bridge σ) : Prop where
  sets : ∀ id, (next.publisher.sets id).check = (bridge.publisher.sets id).check
  slots : ∀ id, next.processes.running? (.document id) =
    bridge.processes.running? (.document id)
  current : ∀ request, next.isCurrent request = bridge.isCurrent request
  storage : next.storage = bridge.storage
  scratch : next.scratch = bridge.scratch

namespace SparesChecks

theorem refl (bridge : Bridge σ) : SparesChecks bridge bridge := by
  constructor
  · intro id
    rfl
  · intro id
    rfl
  · intro request
    rfl
  · rfl
  · rfl

theorem of_starts {done : Bridge σ × Except Failure Nat × List Effect}
    (starts : Starts bridge document path config done) :
    SparesChecks bridge done.1 := by
  have other (id : String) : Slot.document id ≠ .interactive := by simp
  cases starts with
  | refused => exact refl bridge
  | started command =>
      refine ⟨fun _ => rfl, ?_, fun _ => rfl, rfl, rfl⟩
      intro id
      rw [ProcessTable.running?_enter_of_ne (other id)]
      exact ProcessTable.running?_vacate_of_ne (other id)
  | failed command cause =>
      refine ⟨fun _ => rfl, ?_, fun _ => rfl, rfl, rfl⟩
      intro id
      rw [ProcessTable.running?_skip, ProcessTable.running?_vacate_of_ne (other id)]
      exact ProcessTable.running?_vacate_of_ne (other id)

theorem of_stop (bridge : Bridge σ) : SparesChecks bridge bridge.stop.1 := by
  rw [stop_eq]
  refine ⟨fun _ => rfl, ?_, fun _ => rfl, rfl, rfl⟩
  intro id
  apply ProcessTable.running?_vacate_of_ne
  simp

/-- The run of a process outside all documents' slots touches its own channel. -/
theorem of_receives {done : Bridge σ × List Effect}
    (seen : bridge.processes.observer? generation =
      some (.run number document extension stderr))
    (elsewhere : ∀ id observer,
      bridge.processes.process? generation ≠ some (.document id, observer))
    (receives : Receives bridge generation event done) :
    SparesChecks bridge done.1 := by
  cases receives with
  | shut => exact refl bridge
  | stdout => exact refl bridge
  | stderr line known =>
      refine ⟨fun _ => rfl, ?_, fun _ => rfl, rfl, rfl⟩
      intro id
      exact ProcessTable.running?_observe_of_ne (elsewhere id)
  | ended code known unchecked =>
      refine ⟨?_, ?_, fun _ => rfl, rfl, rfl⟩
      · intro id
        rw [Publisher.sets_put]
        split
        · rename_i same
          rw [← same]
          exact check_afterRun _ _
        · rfl
      · intro id
        exact ProcessTable.running?_retire_of_ne (elsewhere id)
  | _ code known =>
      rw [seen] at known
      cases known

end SparesChecks

theorem Starts.publisher_eq {done : Bridge σ × Except Failure Nat × List Effect}
    (starts : Starts bridge document path config done) :
    done.1.publisher = bridge.publisher := by
  cases starts <;> rfl

/-- A live run shows what it found when it exits, and nothing before. -/
theorem Receives.run_set {done : Bridge σ × List Effect}
    (seen : bridge.processes.observer? generation =
      some (.run number document extension stderr))
    (receives : Receives bridge generation event done) (id : String) :
    (done.1.publisher.sets id).run = (bridge.publisher.sets id).run ∨
      ∃ code, event = .exit code ∧ document.id = id ∧
        (done.1.publisher.sets id).run =
          (runFinding document extension stderr).toList := by
  cases receives with
  | shut => exact Or.inl rfl
  | stdout => exact Or.inl rfl
  | stderr => exact Or.inl rfl
  | ended code known unchecked =>
      rw [seen] at known
      cases known
      rw [Publisher.sets_put]
      split
      · rename_i same
        exact Or.inr ⟨code, rfl, same, run_afterRun _ _⟩
      · exact Or.inl rfl
  | _ code known =>
      rw [seen] at known
      cases known

/-! ## What the checks leave alone -/

/-- Everything that belongs to the runs, but their diagnostics, is the same in
two states, and nothing is said in between. -/
structure SparesRuns (bridge next : Bridge σ) (effects : List Effect) : Prop where
  process : next.processes.running? .interactive =
    bridge.processes.running? .interactive
  active : next.active = bridge.active
  runs : next.runs = bridge.runs
  silent : effects.filter Effect.isRemark = []

theorem remarks_terminations (bridge : Bridge σ) (slot : Slot) :
    (bridge.terminations slot).filter Effect.isRemark = [] := by
  unfold terminations
  cases bridge.processes.running? slot with
  | none => rfl
  | some running =>
      obtain ⟨generation, observer⟩ := running
      cases observer with
      | check => rfl
      | run => rfl

namespace SparesRuns

theorem of_launches {done : Bridge σ × Except Failure Launch × List Effect}
    (launches : Launches bridge request config done) :
    SparesRuns bridge done.1 done.2.2 := by
  have other : Slot.interactive ≠ .document request.id := by simp
  cases launches with
  | stale => exact ⟨rfl, rfl, rfl, rfl⟩
  | unwritten => exact ⟨rfl, rfl, rfl, rfl⟩
  | started =>
      refine ⟨ProcessTable.running?_enter_of_ne other, rfl, rfl, ?_⟩
      rw [List.filter_append, remarks_terminations]
      rfl
  | refused =>
      refine ⟨?_, rfl, rfl, remarks_terminations bridge _⟩
      rw [ProcessTable.running?_skip]
      exact ProcessTable.running?_vacate_of_ne other

theorem of_close [Storage σ] (bridge : Bridge σ) (id : String) :
    SparesRuns bridge (bridge.close id).1 (bridge.close id).2.2 := by
  obtain ⟨storage, answer, closing⟩ := close_eq bridge id
  rw [closing]
  refine ⟨?_, rfl, rfl, ?_⟩
  · apply ProcessTable.running?_vacate_of_ne
    simp
  · rw [List.filter_append, remarks_terminations]
    rfl

theorem of_receives {done : Bridge σ × List Effect}
    (seen : bridge.processes.observer? generation =
      some (.check request config stderr))
    (elsewhere : ∀ observer,
      bridge.processes.process? generation ≠ some (.interactive, observer))
    (receives : Receives bridge generation event done) :
    SparesRuns bridge done.1 done.2 := by
  have retired := ProcessTable.running?_retire_of_ne elsewhere
  cases receives with
  | shut => exact ⟨rfl, rfl, rfl, rfl⟩
  | stdout line known =>
      rw [seen] at known
      cases known
      exact ⟨rfl, rfl, rfl, rfl⟩
  | stderr =>
      exact ⟨ProcessTable.running?_observe_of_ne elsewhere, rfl, rfl, rfl⟩
  | outdated => exact ⟨retired, rfl, rfl, rfl⟩
  | checked => exact ⟨retired, rfl, rfl, rfl⟩
  | ended code known unchecked =>
      rw [seen] at known
      cases known

end SparesRuns

theorem Launches.publisher_eq {done : Bridge σ × Except Failure Launch × List Effect}
    (launches : Launches bridge request config done) :
    done.1.publisher = bridge.publisher := by
  cases launches <;> rfl

theorem Receives.check_run_set {done : Bridge σ × List Effect}
    (seen : bridge.processes.observer? generation =
      some (.check request config stderr))
    (receives : Receives bridge generation event done) (id : String) :
    (done.1.publisher.sets id).run = (bridge.publisher.sets id).run := by
  cases receives with
  | checked code known current =>
      rw [published, Publisher.sets_replace]
      split
      · rename_i same
        rw [← same]
        rfl
      · rfl
  | ended code known unchecked =>
      rw [seen] at known
      cases known
  | _ => rfl

/-! ## The two kinds of actions -/

namespace Registered

variable (registered : Registered bridge)
include registered

theorem outside_documents
    (seen : bridge.processes.observer? generation =
      some (.run number document extension stderr)) (id : String)
    (observer : Observer) :
    bridge.processes.process? generation ≠ some (.document id, observer) := by
  intro live
  obtain ⟨slot, known⟩ := ProcessTable.observer?_eq_some_iff.mp seen
  obtain ⟨rfl, _⟩ := registered.active known
  rw [live] at known
  cases known

theorem outside_runs
    (seen : bridge.processes.observer? generation =
      some (.check request config stderr)) (observer : Observer) :
    bridge.processes.process? generation ≠ some (.interactive, observer) := by
  intro live
  obtain ⟨number, document, extension, text, rfl⟩ := registered.run live
  rw [ProcessTable.observer?_eq_some_iff.mpr ⟨_, live⟩] at seen
  cases seen

end Registered

/-- Does the action empty all sets of a document? -/
def Action.clears (id : String) : Action σ → Bool
  | .ask snapshot => decide (snapshot.id = id)
  | .close other => decide (other = id)
  | _ => false

namespace History

/-- Is the action one of the runs? -/
def ofRun (history : History σ) : Action σ → Bool
  | .start _ _ _ _ => true
  | .stop => true
  | .receive generation _ =>
      match history.bridge.processes.observer? generation with
      | some (.run _ _ _ _) => true
      | _ => false
  | _ => false

/-- The logs of the console and of the cursor, in one. -/
def remarks (history : History σ) : List Effect :=
  history.effects.filter Effect.isRemark

variable {history : History σ} {action : Action σ}

theorem observer?_of_ofRun
    (own : history.ofRun (.receive generation event) = true) :
    ∃ number document extension stderr,
      history.bridge.processes.observer? generation =
        some (.run number document extension stderr) := by
  simp only [ofRun] at own
  split at own
  · rename_i number document extension stderr seen
    exact ⟨number, document, extension, stderr, seen⟩
  · cases own

theorem observer?_of_ofCheck
    (own : history.ofCheck (.receive generation event) = true) :
    ∃ request config stderr,
      history.bridge.processes.observer? generation =
        some (.check request config stderr) := by
  simp only [ofCheck] at own
  split at own
  · rename_i request config stderr seen
    exact ⟨request, config, stderr, seen⟩
  · cases own

variable [Storage σ]

theorem remarks_advance (history : History σ) (action : Action σ) :
    (history.advance action).remarks =
      history.remarks ++ (history.perform action).2.2.filter Effect.isRemark :=
  List.filter_append history.effects _

theorem sparesChecks_advance (registered : Registered history.bridge)
    (own : history.ofRun action = true) :
    SparesChecks history.bridge (history.advance action).bridge := by
  cases action with
  | start launcher document path config =>
      exact .of_starts (starts history.bridge launcher document path config)
  | stop => exact .of_stop history.bridge
  | receive generation event =>
      obtain ⟨number, document, extension, stderr, seen⟩ := observer?_of_ofRun own
      exact .of_receives seen (registered.outside_documents seen)
        (receives history.bridge generation event)
  | _ => cases own

theorem run_set_advance (registered : Registered history.bridge)
    (own : history.ofRun action = true) (id : String) :
    ((history.advance action).bridge.publisher.sets id).run =
        (history.bridge.publisher.sets id).run ∨
      ∃ generation code number document extension stderr,
        action = .receive generation (.exit code) ∧
        history.bridge.processes.process? generation =
          some (.interactive, .run number document extension stderr) ∧
        document.id = id ∧
        ((history.advance action).bridge.publisher.sets id).run =
          (runFinding document extension stderr).toList := by
  cases action with
  | start launcher document path config =>
      left
      have starts := starts history.bridge launcher document path config
      exact congrArg (fun publisher => (publisher.sets id).run) starts.publisher_eq
  | stop =>
      left
      change (history.bridge.stop.1.publisher.sets id).run = _
      rw [stop_eq]
  | receive generation event =>
      obtain ⟨number, document, extension, stderr, seen⟩ := observer?_of_ofRun own
      have receives := receives history.bridge generation event
      rcases receives.run_set seen id with kept | ⟨code, rfl, same, shown⟩
      · exact Or.inl kept
      · obtain ⟨slot, live⟩ := ProcessTable.observer?_eq_some_iff.mp seen
        obtain ⟨rfl, _⟩ := registered.active live
        exact Or.inr ⟨generation, code, number, document, extension, stderr, rfl,
          live, same, shown⟩
  | _ => cases own

theorem sparesRuns_perform (registered : Registered history.bridge)
    (own : history.ofCheck action = true) :
    SparesRuns history.bridge (history.perform action).1
      (history.perform action).2.2 := by
  cases action with
  | ask snapshot => exact ⟨rfl, rfl, rfl, rfl⟩
  | launch launcher ticket config =>
      rw [perform]
      cases history.request? ticket with
      | none => exact ⟨rfl, rfl, rfl, rfl⟩
      | some request =>
          exact .of_launches (launches history.bridge launcher request config)
  | close id => exact .of_close history.bridge id
  | receive generation event =>
      obtain ⟨request, config, stderr, seen⟩ := observer?_of_ofCheck own
      exact .of_receives seen (registered.outside_runs seen)
        (receives history.bridge generation event)
  | _ => cases own

theorem check_set_advance (own : history.ofCheck action = true) (id : String) :
    ((history.advance action).bridge.publisher.sets id).run =
      if action.clears id then [] else (history.bridge.publisher.sets id).run := by
  change ((history.perform action).1.publisher.sets id).run = _
  cases action with
  | ask snapshot =>
      change (((history.bridge.publisher.clear snapshot.id).1).sets id).run = _
      rw [Publisher.sets_clear]
      by_cases same : snapshot.id = id
      · simp [Action.clears, same]
      · simp [Action.clears, same]
  | launch launcher ticket config =>
      rw [perform]
      cases history.request? ticket with
      | none => rfl
      | some request =>
          have launches := launches history.bridge launcher request config
          exact congrArg (fun publisher => (publisher.sets id).run)
            launches.publisher_eq
  | close other =>
      obtain ⟨storage, answer, closing⟩ := close_eq history.bridge other
      simp only [perform, closing, Publisher.sets_clear]
      by_cases same : other = id
      · simp [Action.clears, same]
      · simp [Action.clears, same]
  | receive generation event =>
      obtain ⟨request, config, stderr, seen⟩ := observer?_of_ofCheck own
      exact (receives history.bridge generation event).check_run_set seen id
  | _ => cases own

end History

/-! ## Every history -/

/-- What checks and runs leave to each other after a history. -/
structure ChecksAndRunsSeparate [Storage σ] (history : History σ) : Prop where
  /-- The events of whatever is live in the slot of the runs are theirs. -/
  interactive : ∀ {generation observer} event,
    history.bridge.processes.process? generation =
        some (.interactive, observer) →
      history.ofRun (.receive generation event) = true
  background : ∀ {generation id observer} event,
    history.bridge.processes.process? generation =
        some (.document id, observer) →
      history.ofCheck (.receive generation event) = true
  unheard : ∀ {generation} event,
    history.bridge.processes.process? generation = none →
      history.bridge.receive generation event = (history.bridge, [])
  runs : ∀ {action}, history.ofRun action = true →
    SparesChecks history.bridge (history.advance action).bridge
  /-- Of the sets of the runs, a run changes only that of its own document, and
  only when it exits. -/
  run_sets : ∀ {action}, history.ofRun action = true → ∀ id,
    ((history.advance action).bridge.publisher.sets id).run =
        (history.bridge.publisher.sets id).run ∨
      ∃ generation code number document extension stderr,
        action = .receive generation (.exit code) ∧
        history.bridge.processes.process? generation =
          some (.interactive, .run number document extension stderr) ∧
        document.id = id ∧
        ((history.advance action).bridge.publisher.sets id).run =
          (runFinding document extension stderr).toList
  checks : ∀ {action}, history.ofCheck action = true →
    SparesRuns history.bridge (history.perform action).1
        (history.perform action).2.2 ∧
      (history.advance action).bridge.activeDocument =
        history.bridge.activeDocument ∧
      (history.advance action).remarks = history.remarks
  /-- Of the sets of the runs, a check empties that of its own document when it
  is asked for or the document is closed, and changes no other. -/
  check_sets : ∀ {action}, history.ofCheck action = true → ∀ id,
    ((history.advance action).bridge.publisher.sets id).run =
      if action.clears id then [] else (history.bridge.publisher.sets id).run

/-- Whatever was done with a bridge before, what is done for the runs leaves
everything that belongs to the checks as it was, and the other way round; the
diagnostics of a run are touched only by its own end, and by the next edit or
the close of its document. -/
theorem checksAndRunsSeparate_after [Storage σ] (storage : σ) (scratch : Scratch)
    (actions : List (Action σ)) :
    ChecksAndRunsSeparate (History.after storage scratch actions) := by
  have registered := registered_after storage scratch actions
  constructor
  · intro generation observer event live
    obtain ⟨number, document, extension, stderr, rfl⟩ := registered.run live
    have seen := ProcessTable.observer?_eq_some_iff.mpr ⟨_, live⟩
    simp only [History.ofRun, seen]
  · intro generation id observer event live
    have seen := ProcessTable.observer?_eq_some_iff.mpr ⟨_, live⟩
    cases observer with
    | check => simp only [History.ofCheck, seen]
    | run => cases (registered.active live).1
  · intro generation event closed
    apply receive_of_shut
    rw [ProcessTable.observer?, closed, Option.map_none]
  · intro action own
    exact History.sparesChecks_advance registered own
  · intro action own id
    exact History.run_set_advance registered own id
  · intro action own
    have spares := History.sparesRuns_perform registered own
    refine ⟨spares, ?_, ?_⟩
    · exact congrArg (Option.map fun active => active.document.id) spares.active
    · rw [History.remarks_advance, spares.silent, List.append_nil]
  · intro action own id
    exact History.check_set_advance own id

end Bridge

end ToolBridge
