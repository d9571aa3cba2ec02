import ToolBridge.Proofs.Bridge.Records

/-!
# Supersession

What is shown of a check comes from the newest request of its document.  A
request that a newer one or a close came in front of changes nothing that is
shown, whether it is launched late or its process ends late.
-/

namespace ToolBridge.Bridge

variable {σ : Type} {bridge next : Bridge σ} {past : List Entry} {entry : Entry}
  {seen effects : List Effect}

/-- Nothing is shown, or the one finding of a completed check of the newest
request of a document. -/
def Shows (past : List Entry) (id : String) (diagnostics : List Diagnostic) :
    Prop :=
  diagnostics = [] ∨
    ∃ request config generation stderr code finding,
      newest? id past = some request ∧
      Completed past request config generation stderr code ∧
      findingOf config stderr code = some finding ∧
      diagnostics = [finding.diagnostic request.document]

theorem Shows.append_singleton {id : String} {diagnostics : List Diagnostic}
    (shows : Shows past id diagnostics)
    (kept : ∀ newest, entry.renew id newest = newest) :
    Shows (past ++ [entry]) id diagnostics := by
  rcases shows with none | ⟨request, config, generation, stderr, code, finding,
    newest, completed, found, same⟩
  · exact Or.inl none
  · refine Or.inr ⟨request, config, generation, stderr, code, finding, ?_,
      completed.append _, found, same⟩
    rw [newest?_append_singleton, kept, newest]

/-- What ends now is shown if it is the check of the newest request. -/
theorem Shows.completed {request : CheckRequest} {config : Config}
    {generation : Nat} {later : List Entry} (code : Option Int)
    (newest : newest? request.id past = some request)
    (launched : Launched past request config generation later)
    (unended : Unended generation later) :
    Shows (past ++ [.received generation (.exit code)]) request.id
      (diagnosticsOf request
        (findingOf config (written generation later) code)) := by
  cases found : findingOf config (written generation later) code with
  | none => exact Or.inl rfl
  | some finding =>
      refine Or.inr ⟨request, config, generation, written generation later,
        code, finding, ?_, ⟨later, [], launched.append _, unended, rfl⟩, found,
        rfl⟩
      rw [newest?_append_singleton]
      exact newest

/-- Every document shows what its newest request came to, or nothing. -/
def Displayed (bridge : Bridge σ) (past : List Entry) : Prop :=
  ∀ id, Shows past id (bridge.publisher.sets id).check

theorem Displayed.step (displayed : Displayed bridge past)
    (recorded : Recorded bridge past seen)
    (step : Steps past bridge entry effects next) :
    Displayed next (past ++ [entry]) := by
  intro id
  rcases step.check_sets id with empty | ⟨same, kept⟩ |
    ⟨slot, generation, request, config, stderr, code, rfl, live, current, rfl,
      shown⟩
  · exact Or.inl empty
  · rw [same]
    exact (displayed id).append_singleton kept
  · -- What the observer holds is what the process wrote since its launch.
    obtain ⟨_, later, launched, unended, rfl⟩ := recorded.checks live
    have known := recorded.tickets.launched launched.mem
    rw [shown]
    exact .completed code ((recorded.tickets.isCurrent_iff known).mp current)
      launched unended

theorem displayed_after [Storage σ] (storage : σ) (scratch : Scratch)
    (actions : List (Action σ)) :
    Displayed (History.after storage scratch actions).bridge
      (History.after storage scratch actions).past :=
  History.induction_on_recorded Displayed storage scratch
    (fun _ => Or.inl rfl)
    (fun taken recorded displayed => displayed.step recorded taken) actions

/-! ## Requests that something came in front of -/

theorem late_exit [Storage σ] {history : History σ}
    (recorded : Recorded history.bridge history.past history.effects)
    {request : CheckRequest} {config : Config} {generation : Nat}
    {later : List Entry} (code : Option Int)
    (launched : Launched history.past request config generation later)
    (stale : history.bridge.isCurrent request = false) :
    (history.advance (.receive generation (.exit code))).bridge.publisher =
        history.bridge.publisher ∧
      (history.advance (.receive generation (.exit code))).sink =
        history.sink ∧
      (history.perform (.receive generation (.exit code))).2.2 =
        if (history.bridge.processes.process? generation).isSome then
          [.checked generation .superseded]
        else [] := by
  rw [History.sink_advance]
  simp only [History.advance, History.perform]
  rcases recorded.answers launched with ⟨stderr, live⟩ | ⟨closed, _⟩
  · have observed := ProcessTable.observer?_eq_some_iff.mpr ⟨_, live⟩
    rw [receive_exit_of_stale observed stale, live]
    exact ⟨rfl, rfl, rfl⟩
  · have unobserved : history.bridge.processes.observer? generation = none := by
      simp [ProcessTable.observer?, closed]
    rw [receive_of_shut unobserved, closed]
    exact ⟨rfl, rfl, rfl⟩

/-- What is said of a check, unless it is superseded, is said when its process
exits while its request is current. -/
theorem of_checked_perform [Storage σ] {history : History σ}
    (recorded : Recorded history.bridge history.past history.effects)
    {action : Action σ} {generation : Nat} {outcome : CheckOutcome}
    (told : .checked generation outcome ∈ (history.perform action).2.2) :
    outcome = .superseded ∨
      ∃ request config later code,
        action = .receive generation (.exit code) ∧
        Launched history.past request config generation later ∧
        history.bridge.isCurrent request = true ∧
        outcome = .ofFinding?
          (findingOf config (written generation later) code) := by
  rcases history.steps_perform action with
    idle | ⟨entry, effects, next, step, performed⟩
  · rw [idle] at told
    cases told
  · rw [performed] at told
    rcases step.of_checked told with stale |
      ⟨slot, request, config, stderr, code, rfl, live, current, said⟩
    · exact Or.inl stale
    · obtain ⟨_, later, launched, _, rfl⟩ := recorded.checks live
      refine Or.inr ⟨request, config, later, code, ?_, launched, current, said⟩
      exact History.action_of_received (congrArg (fun done => done.2.1) performed)

/-! ## Fresh requests and closed documents -/

theorem clean_after_ask [Storage σ] (history : History σ)
    (snapshot : Snapshot) :
    (history.advance (.ask snapshot)).bridge.publisher.sets snapshot.id = {} ∧
      (history.advance (.ask snapshot)).sink.shown snapshot.id = [] := by
  constructor
  · exact (Publisher.sets_clear _ _ _).trans (if_pos rfl)
  · rw [History.sink_advance]
    exact (DeliveryLog.shown_receive _ _ _).trans (if_pos rfl)

theorem clean_after_close [Storage σ] (history : History σ) (id : String) :
    (history.advance (.close id)).bridge.publisher.sets id = {} ∧
      (history.advance (.close id)).sink.shown id = [] := by
  obtain ⟨storage, answer, closing⟩ := close_eq history.bridge id
  constructor
  · simp [History.advance, History.perform, closing, Publisher.sets_clear]
  · rw [History.sink_advance]
    simp only [History.perform, closing, deliveries_terminations_append]
    exact (DeliveryLog.shown_receive _ _ _).trans (if_pos rfl)

/-- What supersession means after a history. -/
structure SupersedeSafe [Storage σ] (history : History σ) : Prop where
  shown : ∀ id, Shows history.past id (history.bridge.publisher.sets id).check
  /-- A request is current as long as it is the newest of its document. -/
  current : ∀ {request}, .asked request ∈ history.past →
    (history.bridge.isCurrent request = true ↔
      newest? request.id history.past = some request)
  launched_late : ∀ {request} launcher config,
    history.bridge.isCurrent request = false →
      history.bridge.launch launcher request config =
        (history.bridge, .ok .superseded, [])
  ended_late : ∀ {request config generation later} code,
    Launched history.past request config generation later →
      history.bridge.isCurrent request = false →
      (history.advance (.receive generation (.exit code))).bridge.publisher =
          history.bridge.publisher ∧
        (history.advance (.receive generation (.exit code))).sink =
          history.sink ∧
        (history.perform (.receive generation (.exit code))).2.2 =
          if (history.bridge.processes.process? generation).isSome then
            [.checked generation .superseded]
          else []
  answered : ∀ {request config generation later},
    Launched history.past request config generation later →
      (history.bridge.processes.process? generation).isSome ∨
        ∃ outcome, .checked generation outcome ∈ history.effects
  answers : ∀ {action generation outcome},
    .checked generation outcome ∈ (history.perform action).2.2 →
      outcome = .superseded ∨
        ∃ request config later code,
          action = .receive generation (.exit code) ∧
          Launched history.past request config generation later ∧
          history.bridge.isCurrent request = true ∧
          outcome = .ofFinding?
            (findingOf config (written generation later) code)
  asked : ∀ snapshot,
    (history.advance (.ask snapshot)).bridge.publisher.sets snapshot.id = {} ∧
      (history.advance (.ask snapshot)).sink.shown snapshot.id = []
  closed : ∀ id,
    (history.advance (.close id)).bridge.publisher.sets id = {} ∧
      (history.advance (.close id)).sink.shown id = []

end ToolBridge.Bridge
