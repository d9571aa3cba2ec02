import ToolBridge.Proofs.Bridge.History

/-!
# What one action can do

An action makes one step of the bridge, or nothing at all if it names a ticket
that was not issued.  The steps are listed here once.  From the list follows
what a step does to the tickets, to the processes of the checks and to the
diagnostics, and what it says of the checks.
-/

namespace ToolBridge.Bridge

variable {σ : Type}

/-- A step of the bridge: what is entered in the journal, what is seen, and
the next state. -/
inductive Steps (past : List Entry) (bridge : Bridge σ) :
    Entry → List Effect → Bridge σ → Prop where
  | ask (snapshot : Snapshot) :
      Steps past bridge (.asked ⟨snapshot, bridge.tickets.issued + 1⟩)
        [.deliver ⟨snapshot.id, []⟩]
        { bridge with
          tickets := (bridge.tickets.issue snapshot.id).1
          publisher := (bridge.publisher.clear snapshot.id).1 }
  | launch {request : CheckRequest} {config : Config} {next : Bridge σ}
      {answer : Except Failure Launch} {effects : List Effect}
      (known : .asked request ∈ past)
      (launches : Launches bridge request config (next, answer, effects)) :
      Steps past bridge (.launched request config answer) effects next
  | receive {generation : Nat} {event : ProcessEvent} {next : Bridge σ}
      {effects : List Effect}
      (receives : Receives bridge generation event (next, effects)) :
      Steps past bridge (.received generation event) effects next
  | close (id : String) (storage : σ) :
      Steps past bridge (.closed id)
        (bridge.terminations (.document id) ++ [.deliver ⟨id, []⟩])
        { bridge with
          tickets := bridge.tickets.forget id
          processes := bridge.processes.vacate (.document id)
          publisher := (bridge.publisher.clear id).1
          storage }
  | start {document : Document} {path : String} {config : Config}
      {next : Bridge σ} {answer : Except Failure Nat} {effects : List Effect}
      (starts : Starts bridge document path config (next, answer, effects)) :
      Steps past bridge
        (.started (bridge.runs + 1) document config.extension answer) effects
        next
  | stop :
      Steps past bridge .stopped (bridge.dismissal ++ bridge.returning)
        { bridge with
          processes := bridge.processes.vacate .interactive
          active := none }
  | retarget (directory extension : String) :
      Steps past bridge .retargeted [] (bridge.retarget directory extension)
  | disturb (storage : σ) :
      Steps past bridge .disturbed [] { bridge with storage }
  | killAll : Steps past bridge .killed bridge.killAll.2 bridge.killAll.1

/-- An action makes a step or does nothing. -/
theorem History.steps_perform [Storage σ] (history : History σ)
    (action : Action σ) :
    history.perform action = (history.bridge, [], []) ∨
      ∃ entry effects next,
        Steps history.past history.bridge entry effects next ∧
        history.perform action = (next, [entry], effects) := by
  cases action with
  | ask snapshot => exact Or.inr ⟨_, _, _, .ask snapshot, rfl⟩
  | launch launcher ticket config =>
      cases found : history.request? ticket with
      | none => exact Or.inl (by simp only [perform, found])
      | some request =>
          have launches := launches history.bridge launcher request config
          rcases launched : history.bridge.launch launcher request config with
            ⟨next, answer, effects⟩
          rw [launched] at launches
          refine Or.inr ⟨_, _, _,
            .launch (asked_of_request? found) launches, ?_⟩
          simp only [perform, found, launched]
  | receive generation event =>
      exact Or.inr ⟨_, _, _,
        .receive (receives history.bridge generation event), rfl⟩
  | close id =>
      obtain ⟨storage, answer, closing⟩ := close_eq history.bridge id
      refine Or.inr ⟨_, _, _, .close id storage, ?_⟩
      simp only [perform, closing]
  | start launcher document path config =>
      exact Or.inr ⟨_, _, _,
        .start (starts history.bridge launcher document path config), rfl⟩
  | stop =>
      refine Or.inr ⟨_, _, _, .stop, ?_⟩
      simp only [perform, stop_eq]
  | retarget directory extension =>
      exact Or.inr ⟨_, _, _, .retarget directory extension, rfl⟩
  | disturb storage => exact Or.inr ⟨_, _, _, .disturb storage, rfl⟩
  | killAll => exact Or.inr ⟨_, _, _, .killAll, rfl⟩

/-- What every step keeps is kept by an action. -/
theorem History.advance_of_step [Storage σ]
    (holds : Bridge σ → List Entry → List Effect → Prop)
    (step : ∀ {bridge next past entry seen effects},
      Steps past bridge entry effects next → holds bridge past seen →
        holds next (past ++ [entry]) (seen ++ effects))
    {history : History σ}
    (held : holds history.bridge history.past history.effects)
    (action : Action σ) :
    holds (history.advance action).bridge (history.advance action).past
      (history.advance action).effects := by
  unfold advance
  rcases history.steps_perform action with
    idle | ⟨entry, effects, next, taken, performed⟩
  · simpa [idle] using held
  · rw [performed]
    exact step taken held

/-- What every step keeps holds of every history. -/
theorem History.induction_on [Storage σ]
    (holds : Bridge σ → List Entry → List Effect → Prop) (storage : σ)
    (scratch : Scratch)
    (initially : holds { storage, scratch } [] [])
    (step : ∀ {bridge next past entry seen effects},
      Steps past bridge entry effects next → holds bridge past seen →
        holds next (past ++ [entry]) (seen ++ effects))
    (actions : List (Action σ)) :
    holds (after storage scratch actions).bridge
      (after storage scratch actions).past
      (after storage scratch actions).effects := by
  induction actions using List.reverseRecOn with
  | nil => exact initially
  | append_singleton actions action ih =>
      rw [after_append_singleton]
      exact advance_of_step holds step ih action

namespace Steps

variable {past : List Entry} {bridge next : Bridge σ} {entry : Entry}
  {effects : List Effect}

theorem tickets_eq (step : Steps past bridge entry effects next)
    (neutral : entry.Neutral) : next.tickets = bridge.tickets := by
  cases step with
  | ask => exact neutral.elim
  | close => exact neutral.elim
  | launch _ launches => exact launches.tickets_eq
  | receive receives => exact receives.tickets_eq
  | start starts => exact starts.tickets_eq
  | _ => rfl

theorem current_of_spawned {request : CheckRequest}
    (step : Steps past bridge entry effects next)
    (spawned : entry.spawned? = some request) :
    .asked request ∈ past ∧ bridge.isCurrent request = true := by
  cases step with
  | launch known launches =>
      cases launches with
      | started current =>
          cases spawned
          exact ⟨known, current⟩
      | refused current =>
          cases spawned
          exact ⟨known, current⟩
      | _ => cases spawned
  | _ => cases spawned

/-! ## The processes -/

variable {slot : Slot} {generation : Nat} {observer : Observer}
  {request : CheckRequest} {config : Config} {stderr : String}

/-- A process is live after a step if it was live and the step does not end
it, or if the step started it. -/
theorem process?_iff (step : Steps past bridge entry effects next) :
    next.processes.process? generation = some (slot, observer) ↔
      (¬ entry.Ends generation slot ∧
        ∃ earlier,
          bridge.processes.process? generation = some (slot, earlier) ∧
          observer = entry.notice generation earlier) ∨
      entry.born? = some (generation, slot, observer) := by
  -- Every operation of the table has its own law for `process?`, and the entry
  -- tells which of them was used.
  cases step with
  | ask => simp [Entry.Ends, Entry.notice, Entry.born?]
  | launch known launches =>
      cases launches with
      | stale => simp [Entry.Ends, Entry.notice, Entry.born?]
      | unwritten => simp [Entry.Ends, Entry.notice, Entry.born?]
      | started =>
          rw [ProcessTable.process?_enter, or_comm]
          refine or_congr ?_ ?_
          · simp [Entry.Ends, Entry.notice]
          · simp [Entry.born?, eq_comm]
      | refused =>
          simp [Entry.Ends, Entry.notice, Entry.born?,
            ProcessTable.process?_vacate]
  | @receive number event _ _ receives =>
      cases receives with
      | shut _ closed =>
          by_cases same : number = generation
          · subst same
            have absent : bridge.processes.process? number = none := by
              simpa [ProcessTable.observer?] using closed
            simp [absent, Entry.born?]
          · cases event <;> simp [Entry.Ends, Entry.notice, Entry.born?, same]
      | stdout => simp [Entry.Ends, Entry.notice, Entry.born?]
      | @stderr observer line seen =>
          obtain ⟨place, known⟩ := ProcessTable.observer?_eq_some_iff.mp seen
          by_cases same : number = generation
          · subst same
            simp [Entry.Ends, Entry.notice, Entry.born?,
              ProcessTable.process?_observe, known, and_comm]
          · simp [Entry.Ends, Entry.notice, Entry.born?,
              ProcessTable.process?_observe, same]
      | _ =>
          simp [Entry.Ends, Entry.notice, Entry.born?,
            ProcessTable.process?_retire]
  | close =>
      simp [Entry.Ends, Entry.notice, Entry.born?, ProcessTable.process?_vacate]
  | start starts =>
      cases starts with
      | refused => simp [Entry.Ends, Entry.notice, Entry.born?]
      | started =>
          rw [ProcessTable.process?_enter, ProcessTable.process?_vacate,
            or_comm]
          refine or_congr ?_ ?_
          · simp [Entry.Ends, Entry.notice]
          · simp [Entry.born?, eq_comm]
      | failed =>
          simp [Entry.Ends, Entry.notice, Entry.born?,
            ProcessTable.process?_vacate]
  | stop =>
      simp [Entry.Ends, Entry.notice, Entry.born?, ProcessTable.process?_vacate]
  | retarget => simp [Entry.Ends, Entry.notice, Entry.born?, Bridge.retarget]
  | disturb => simp [Entry.Ends, Entry.notice, Entry.born?]
  | killAll =>
      simp [Entry.Ends, Entry.born?, Bridge.killAll,
        ProcessTable.process?_killAll]

theorem issued_le (step : Steps past bridge entry effects next) :
    bridge.processes.issued ≤ next.processes.issued := by
  cases step with
  | launch known launches =>
      cases launches with
      | started => exact Nat.le_succ _
      | refused => exact Nat.le_succ _
      | _ => exact Nat.le_refl _
  | start starts =>
      cases starts with
      | refused => exact Nat.le_refl _
      | _ => exact Nat.le_succ _
  | receive receives => cases receives <;> exact Nat.le_refl _
  | _ => exact Nat.le_refl _

theorem issued_of_born (step : Steps past bridge entry effects next)
    (born : entry.born? = some (generation, slot, observer)) :
    generation = bridge.processes.issued + 1 ∧
      next.processes.issued = generation := by
  cases step with
  | launch known launches =>
      cases launches with
      | started =>
          cases born
          exact ⟨rfl, rfl⟩
      | _ => cases born
  | start starts =>
      cases starts with
      | started =>
          cases born
          exact ⟨rfl, rfl⟩
      | _ => cases born
  | receive => cases born
  | _ => cases born

theorem check_iff (step : Steps past bridge entry effects next) :
    next.processes.process? generation =
        some (slot, .check request config stderr) ↔
      (¬ entry.Ends generation slot ∧
        ∃ text,
          bridge.processes.process? generation =
            some (slot, .check request config text) ∧
          stderr = entry.extend generation text) ∨
      (entry = .launched request config (.ok (.started generation)) ∧
        slot = .document request.id ∧ stderr = "") := by
  rw [step.process?_iff]
  refine or_congr (and_congr_right fun _ => ?_) Entry.born?_check_iff
  constructor
  · rintro ⟨earlier, live, said⟩
    obtain ⟨text, rfl, rfl⟩ := Entry.check_eq_notice said
    exact ⟨text, live, rfl⟩
  · rintro ⟨text, live, rfl⟩
    exact ⟨_, live, (Entry.notice_check _ _).symm⟩

theorem process?_of_closed (step : Steps past bridge entry effects next)
    (closed : bridge.processes.process? generation = none)
    (old : generation ≤ bridge.processes.issued) :
    next.processes.process? generation = none := by
  refine Option.eq_none_iff_forall_ne_some.mpr ?_
  rintro ⟨slot, observer⟩ live
  rcases step.process?_iff.mp live with ⟨_, earlier, before, _⟩ | born
  · rw [closed] at before
    cases before
  · have fresh := (step.issued_of_born born).1
    omega

theorem process?_of_ends (step : Steps past bridge entry effects next)
    (live : bridge.processes.process? generation = some (slot, observer))
    (ends : entry.Ends generation slot) :
    next.processes.process? generation = none := by
  refine Option.eq_none_iff_forall_ne_some.mpr ?_
  rintro ⟨place, current⟩ after
  rcases step.process?_iff.mp after with ⟨lasts, earlier, before, _⟩ | born
  · rw [live] at before
    cases before
    exact lasts ends
  · have bound := ProcessTable.le_issued_of_process? live
    have fresh := (step.issued_of_born born).1
    omega

theorem checked_of_ends (step : Steps past bridge entry effects next)
    (live : bridge.processes.process? generation =
      some (slot, .check request config stderr))
    (ends : entry.Ends generation slot) :
    ∃ outcome, .checked generation outcome ∈ effects := by
  cases step with
  | launch known launches =>
      cases launches with
      | started =>
          cases ends
          exact ⟨_, List.mem_append_left _ (superseded_mem_terminations live)⟩
      | refused =>
          cases ends
          exact ⟨_, superseded_mem_terminations live⟩
      | _ => cases ends
  | @receive number event _ _ receives =>
      have seen := ProcessTable.observer?_eq_some_iff.mpr ⟨_, live⟩
      cases receives with
      | shut _ closed =>
          cases event with
          | exit code =>
              cases ends
              rw [seen] at closed
              cases closed
          | _ => cases ends
      | outdated =>
          cases ends
          exact ⟨_, List.mem_cons_self⟩
      | checked =>
          cases ends
          exact ⟨_, List.mem_cons_of_mem _ List.mem_cons_self⟩
      | ended code other =>
          cases ends
          rw [seen] at other
          cases other
      | _ => cases ends
  | close =>
      cases ends
      exact ⟨_, List.mem_append_left _ (superseded_mem_terminations live)⟩
  | start starts =>
      cases starts with
      | refused => cases ends
      | _ =>
          cases ends
          have dismissed := bridge.terminations_subset_dismissal
            (superseded_mem_terminations live)
          exact ⟨.superseded, by simp [dismissed]⟩
  | stop =>
      cases ends
      exact ⟨_, List.mem_append_left _ (bridge.terminations_subset_dismissal
        (superseded_mem_terminations live))⟩
  | killAll =>
      refine ⟨.superseded, List.mem_map.mpr
        ⟨⟨generation, .check request config stderr⟩, ?_, rfl⟩⟩
      exact ProcessTable.mem_killAll_iff.mpr ⟨_, live⟩
  | _ => cases ends

theorem ends_of_checked {outcome : CheckOutcome}
    (step : Steps past bridge entry effects next)
    (seen : .checked generation outcome ∈ effects) :
    ∃ slot observer,
      bridge.processes.process? generation = some (slot, observer) ∧
      entry.Ends generation slot := by
  cases step with
  | ask => simp at seen
  | launch known launches =>
      cases launches with
      | started =>
          rcases List.mem_append.mp seen with terminated | started
          · obtain ⟨observer, live⟩ := live_of_mem_terminations terminated
            exact ⟨_, observer, live, rfl⟩
          · simp at started
      | refused =>
          obtain ⟨observer, live⟩ := live_of_mem_terminations seen
          exact ⟨_, observer, live, rfl⟩
      | _ => cases seen
  | receive receives =>
      cases receives with
      | shut => cases seen
      | @stdout observer =>
          cases observer <;> simp [relayStdout, Effect.line] at seen
      | stderr => cases seen
      | outdated code known =>
          obtain ⟨slot, live⟩ := ProcessTable.observer?_eq_some_iff.mp known
          cases List.mem_singleton.mp seen
          exact ⟨slot, _, live, rfl⟩
      | checked code known =>
          obtain ⟨slot, live⟩ := ProcessTable.observer?_eq_some_iff.mp known
          simp at seen
          obtain ⟨rfl, _⟩ := seen
          exact ⟨slot, _, live, rfl⟩
      | ended code known unchecked =>
          rcases List.mem_append.mp seen with closing | ended
          · exact absurd closing (unchecked _ _)
          · simp at ended
  | close =>
      rcases List.mem_append.mp seen with terminated | delivered
      · obtain ⟨observer, live⟩ := live_of_mem_terminations terminated
        exact ⟨_, observer, live, rfl⟩
      · simp at delivered
  | start starts =>
      have dismissed (seen : .checked generation outcome ∈ bridge.dismissal) :=
        live_of_mem_terminations (mem_terminations_of_mem_dismissal seen)
      cases starts with
      | refused => cases seen
      | _ =>
          obtain ⟨observer, live⟩ := dismissed (by simpa [Effect.line] using seen)
          exact ⟨_, observer, live, rfl⟩
  | stop =>
      rcases List.mem_append.mp seen with dismissed | returned
      · obtain ⟨observer, live⟩ := live_of_mem_terminations
          (mem_terminations_of_mem_dismissal dismissed)
        exact ⟨_, observer, live, rfl⟩
      · exact absurd returned not_checked_of_mem_returning
  | killAll =>
      obtain ⟨running, handed, same⟩ := List.mem_map.mp seen
      obtain ⟨slot, live⟩ := ProcessTable.mem_killAll_iff.mp handed
      obtain ⟨number, observer⟩ := running
      cases observer with
      | check =>
          cases same
          exact ⟨slot, _, live, trivial⟩
      | run => cases same
  | _ => cases seen

/-- A step says of a check that it is superseded, or that it ended by itself
while it was asked for. -/
theorem of_checked {outcome : CheckOutcome}
    (step : Steps past bridge entry effects next)
    (seen : .checked generation outcome ∈ effects) :
    outcome = .superseded ∨
      ∃ slot request config stderr code,
        entry = .received generation (.exit code) ∧
        bridge.processes.process? generation =
          some (slot, .check request config stderr) ∧
        bridge.isCurrent request = true ∧
        outcome = .ofFinding? (findingOf config stderr code) := by
  cases step with
  | ask => simp at seen
  | launch known launches =>
      cases launches with
      | started =>
          left
          rcases List.mem_append.mp seen with terminated | started
          · exact superseded_of_mem_terminations terminated
          · simp at started
      | refused => exact Or.inl (superseded_of_mem_terminations seen)
      | _ => cases seen
  | receive receives =>
      cases receives with
      | shut => cases seen
      | @stdout observer =>
          cases observer <;> simp [relayStdout, Effect.line] at seen
      | stderr => cases seen
      | outdated =>
          cases List.mem_singleton.mp seen
          exact Or.inl rfl
      | checked code known current =>
          right
          obtain ⟨slot, live⟩ := ProcessTable.observer?_eq_some_iff.mp known
          simp at seen
          obtain ⟨rfl, rfl⟩ := seen
          exact ⟨slot, _, _, _, code, rfl, live, current, rfl⟩
      | ended code known unchecked =>
          rcases List.mem_append.mp seen with closing | ended
          · exact absurd closing (unchecked _ _)
          · simp at ended
  | close =>
      left
      rcases List.mem_append.mp seen with terminated | delivered
      · exact superseded_of_mem_terminations terminated
      · simp at delivered
  | start starts =>
      have dismissed (seen : .checked generation outcome ∈ bridge.dismissal) :=
        superseded_of_mem_terminations (mem_terminations_of_mem_dismissal seen)
      cases starts with
      | refused => cases seen
      | _ =>
          left
          apply dismissed
          simpa [Effect.line] using seen
  | stop =>
      left
      rcases List.mem_append.mp seen with dismissed | returned
      · exact superseded_of_mem_terminations
          (mem_terminations_of_mem_dismissal dismissed)
      · exact absurd returned not_checked_of_mem_returning
  | killAll =>
      obtain ⟨running, _, same⟩ := List.mem_map.mp seen
      exact Or.inl (Observer.outcome_of_terminated same.symm)
  | _ => cases seen

/-! ## The diagnostics of the checks -/

/-- A step shows what a check found that ended while it was asked for, or it
empties the set of a document, or it leaves the set as it is and the newest
request too. -/
theorem check_sets (step : Steps past bridge entry effects next)
    (id : String) :
    (next.publisher.sets id).check = [] ∨
      ((next.publisher.sets id).check = (bridge.publisher.sets id).check ∧
        ∀ newest, entry.renew id newest = newest) ∨
      ∃ slot generation request config stderr code,
        entry = .received generation (.exit code) ∧
        bridge.processes.process? generation =
          some (slot, .check request config stderr) ∧
        bridge.isCurrent request = true ∧ request.id = id ∧
        (next.publisher.sets id).check =
          diagnosticsOf request (findingOf config stderr code) := by
  cases step with
  | ask snapshot =>
      rw [Publisher.sets_clear]
      split
      · exact Or.inl rfl
      · rename_i other
        exact Or.inr (Or.inl ⟨rfl, fun _ => if_neg other⟩)
  | close other =>
      rw [Publisher.sets_clear]
      split
      · exact Or.inl rfl
      · rename_i other
        exact Or.inr (Or.inl ⟨rfl, fun _ => if_neg other⟩)
  | launch known launches =>
      cases launches <;> exact Or.inr (Or.inl ⟨rfl, fun _ => rfl⟩)
  | start starts =>
      cases starts <;> exact Or.inr (Or.inl ⟨rfl, fun _ => rfl⟩)
  | receive receives =>
      cases receives with
      | checked code seen current =>
          obtain ⟨slot, live⟩ := ProcessTable.observer?_eq_some_iff.mp seen
          unfold published
          rw [Publisher.sets_replace]
          split
          · rename_i same
            exact Or.inr (Or.inr
              ⟨_, _, _, _, _, code, rfl, live, current, same, rfl⟩)
          · exact Or.inr (Or.inl ⟨rfl, fun _ => rfl⟩)
      | ended code seen unchecked =>
          refine Or.inr (Or.inl ⟨?_, fun _ => rfl⟩)
          rw [Publisher.sets_put]
          split
          · rename_i same
            rw [← same]
            exact check_afterRun _ _
          · rfl
      | _ => exact Or.inr (Or.inl ⟨rfl, fun _ => rfl⟩)
  | _ => exact Or.inr (Or.inl ⟨rfl, fun _ => rfl⟩)

/-! ## The diagnostics of the runs -/

/-- A step empties the set of a document whose newest request it changes, or
it shows what a run of the document came to that ended by itself, or it does
neither and leaves the set as it is. -/
theorem run_sets (step : Steps past bridge entry effects next)
    (id : String) :
    (entry.Renews id ∧ (next.publisher.sets id).run = []) ∨
      (∃ generation slot number document extension stderr code,
        entry = .received generation (.exit code) ∧
        bridge.processes.process? generation =
          some (slot, .run number document extension stderr) ∧
        document.id = id ∧
        (next.publisher.sets id).run =
          (runFinding document extension stderr).toList) ∨
      (¬ entry.Renews id ∧
        (next.publisher.sets id).run = (bridge.publisher.sets id).run ∧
        ∀ generation slot number document extension stderr code,
          entry = .received generation (.exit code) →
          bridge.processes.process? generation =
            some (slot, .run number document extension stderr) →
          document.id ≠ id) := by
  cases step with
  | ask snapshot =>
      rw [Publisher.sets_clear]
      split
      · rename_i same
        exact Or.inl ⟨same, rfl⟩
      · rename_i other
        exact Or.inr (Or.inr ⟨other, rfl, by simp⟩)
  | close closed =>
      rw [Publisher.sets_clear]
      split
      · rename_i same
        exact Or.inl ⟨same, rfl⟩
      · rename_i other
        exact Or.inr (Or.inr ⟨other, rfl, by simp⟩)
  | launch known launches =>
      cases launches <;> exact Or.inr (Or.inr ⟨not_false, rfl, by simp⟩)
  | start starts =>
      cases starts <;> exact Or.inr (Or.inr ⟨not_false, rfl, by simp⟩)
  | receive receives =>
      cases receives with
      | shut event closed =>
          refine Or.inr (Or.inr ⟨not_false, rfl, ?_⟩)
          rintro _ _ _ _ _ _ _ ⟨⟩ running
          rw [ProcessTable.observer?_eq_some_iff.mpr ⟨_, running⟩] at closed
          cases closed
      | stdout => exact Or.inr (Or.inr ⟨not_false, rfl, by simp⟩)
      | stderr => exact Or.inr (Or.inr ⟨not_false, rfl, by simp⟩)
      | outdated code seen stale =>
          refine Or.inr (Or.inr ⟨not_false, rfl, ?_⟩)
          rintro _ _ _ _ _ _ _ ⟨⟩ running
          rw [ProcessTable.observer?_eq_some_iff.mpr ⟨_, running⟩] at seen
          cases seen
      | checked code seen current =>
          refine Or.inr (Or.inr ⟨not_false, ?_, ?_⟩)
          · unfold published
            rw [Publisher.sets_replace]
            split
            · rename_i same
              rw [← same]
              rfl
            · rfl
          · rintro _ _ _ _ _ _ _ ⟨⟩ running
            rw [ProcessTable.observer?_eq_some_iff.mpr ⟨_, running⟩] at seen
            cases seen
      | ended code seen unchecked =>
          obtain ⟨slot, live⟩ := ProcessTable.observer?_eq_some_iff.mp seen
          rw [Publisher.sets_put]
          split
          · rename_i same
            exact Or.inr (Or.inl
              ⟨_, _, _, _, _, _, code, rfl, live, same, run_afterRun _ _⟩)
          · rename_i other
            refine Or.inr (Or.inr ⟨not_false, rfl, ?_⟩)
            rintro _ _ _ _ _ _ _ ⟨⟩ running
            rw [live] at running
            cases running
            exact other
  | _ => exact Or.inr (Or.inr ⟨not_false, rfl, by simp⟩)

end Steps

end ToolBridge.Bridge
