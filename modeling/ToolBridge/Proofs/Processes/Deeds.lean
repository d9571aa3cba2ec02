import ToolBridge.Proofs.Processes.History

/-!
# Deeds

What one deed does to the processes.  A deed starts one generation at most
and lets one process speak at most.  To every other generation it does
nothing, or it terminates the process that is live in the deed's slot; this
is what `Spares` says.
-/

namespace ToolBridge.Scenario

namespace Processes

def perform (processes : Processes) : Deed → Processes
  | .spawn slot launched => (processes.attempt slot launched).1
  | .kill slot => (processes.kill slot).1
  | .killAll => processes.killAll
  | .receive generation event => processes.receive generation event

def after (tree : FileTree) (history : List Deed) : Processes :=
  history.foldl perform { tree }

theorem after_append (tree : FileTree) (history more : List Deed) :
    after tree (history ++ more) = more.foldl perform (after tree history) :=
  List.foldl_append

theorem after_append_singleton (tree : FileTree) (history : List Deed)
    (deed : Deed) :
    after tree (history ++ [deed]) = (after tree history).perform deed :=
  after_append tree history [deed]

variable {processes : Processes} {slot : Slot} {generation : Nat}
  {events : List ProcessEvent}

theorem get?_completed_supersede (processes : Processes)
    (terminated : List (Running (List ProcessEvent))) (generation : Nat) :
    (processes.supersede terminated).completed.get? generation =
      if ∃ running ∈ terminated, running.generation = generation then
        some .superseded
      else processes.completed.get? generation := by
  unfold supersede
  dsimp only
  generalize processes.completed = completed
  induction terminated generalizing completed with
  | nil => simp
  | cons running rest ih =>
      rw [List.foldl_cons, ih, Dict.get?_insert]
      by_cases here : running.generation = generation <;> simp [here]

theorem exists_running?_iff {table : ProcessTable (List ProcessEvent)} :
    (∃ running ∈ (table.running? slot).toList,
        running.generation = generation) ↔
      ∃ events, table.process? generation = some (slot, events) := by
  simp only [Option.mem_toList, ProcessTable.running?_eq_some_iff]
  constructor
  · rintro ⟨running, found, rfl⟩
    exact ⟨running.observer, found⟩
  · rintro ⟨events, found⟩
    exact ⟨⟨generation, events⟩, found, rfl⟩

/-- The deed neither starts the generation nor is something that its process
does. -/
def Passes (processes : Processes) (generation : Nat) : Deed → Prop
  | .spawn _ (.ok _) => generation ≠ processes.table.issued + 1
  | .receive other _ => generation ≠ other
  | _ => True

/-- All that a deed does to a generation which it passes by is to terminate
its process. -/
structure Spares (deed : Deed) (before after : Processes)
    (generation : Nat) : Prop where
  process : ∀ {slot events},
    after.table.process? generation = some (slot, events) ↔
      ¬ deed.Terminates slot ∧
        before.table.process? generation = some (slot, events)
  observer : after.table.lastObserver? generation =
    before.table.lastObserver? generation
  superseded : ∀ {slot events},
    before.table.process? generation = some (slot, events) →
      deed.Terminates slot →
        after.completed.get? generation = some .superseded
  kept : (∀ {slot events},
      before.table.process? generation = some (slot, events) →
        ¬ deed.Terminates slot) →
    after.completed.get? generation = before.completed.get? generation

/-- A deed that hands back what it terminates, and supersedes it. -/
theorem Spares.of_supersede {deed : Deed}
    {table : ProcessTable (List ProcessEvent)}
    {terminated : List (Running (List ProcessEvent))}
    (process : ∀ {slot events},
      table.process? generation = some (slot, events) ↔
        ¬ deed.Terminates slot ∧
          processes.table.process? generation = some (slot, events))
    (observer : table.lastObserver? generation =
      processes.table.lastObserver? generation)
    (handed : (∃ running ∈ terminated, running.generation = generation) ↔
      ∃ slot events, deed.Terminates slot ∧
        processes.table.process? generation = some (slot, events)) :
    Spares deed processes ({ processes with table }.supersede terminated)
      generation where
  process := process
  observer := observer
  superseded {slot events} found terminates := by
    rw [get?_completed_supersede,
      if_pos (handed.mpr ⟨slot, events, terminates, found⟩)]
  kept spared := by
    rw [get?_completed_supersede, if_neg]
    intro member
    obtain ⟨slot, events, terminates, found⟩ := handed.mp member
    exact spared found terminates

theorem exists_running?_slot_iff (processes : Processes) (generation : Nat)
    {deed : Deed} (only : ∀ other, deed.Terminates other ↔ slot = other) :
    (∃ running ∈ (processes.table.running? slot).toList,
        running.generation = generation) ↔
      ∃ other events, deed.Terminates other ∧
        processes.table.process? generation = some (other, events) := by
  simp only [only, exists_and_left, exists_eq_left', exists_running?_iff]

theorem receive_of_closed
    (closed : processes.table.observer? generation = none)
    (event : ProcessEvent) : processes.receive generation event = processes := by
  simp only [receive, closed]

theorem receive_of_line {event : ProcessEvent}
    (seen : processes.table.observer? generation = some events)
    (line : ∀ code, event ≠ .exit code) :
    processes.receive generation event =
      { processes with
        table := processes.table.observe generation (events ++ [event]) } := by
  cases event with
  | exit code => exact absurd rfl (line code)
  | stdout => simp only [receive, seen]
  | stderr => simp only [receive, seen]

theorem captured_append_exit (events : List ProcessEvent)
    (code : Option Int) :
    captured code (events ++ [.exit code]) = captured code events := by
  simp [captured, stdoutLines, stderrLines]

theorem receive_of_exit {code : Option Int}
    (seen : processes.table.observer? generation = some events) :
    processes.receive generation (.exit code) =
      { processes with
        table := (processes.table.observe generation
          (events ++ [.exit code])).retire generation
        completed := processes.completed.insert generation
          (.finished (captured code events)) } := by
  simp only [receive, seen, captured_append_exit]

theorem line_or_exit (event : ProcessEvent) :
    (∀ code, event ≠ .exit code) ∨ ∃ code, event = .exit code := by
  cases event <;> simp

theorem spares_receive {other : Nat} (different : generation ≠ other)
    (event : ProcessEvent) :
    Spares (.receive other event) processes
      (processes.receive other event) generation := by
  have apart : other ≠ generation := Ne.symm different
  cases seen : processes.table.observer? other with
  | none =>
      rw [receive_of_closed seen]
      exact
        { process := by simp [Deed.Terminates]
          observer := rfl
          superseded := fun _ impossible => impossible.elim
          kept := fun _ => rfl }
  | some earlier =>
      rcases line_or_exit event with line | ⟨code, rfl⟩
      · rw [receive_of_line seen line]
        exact
          { process := by
              simp [ProcessTable.process?_observe, apart, Deed.Terminates]
            observer := by
              simp [ProcessTable.lastObserver?_observe, apart]
            superseded := fun _ impossible => impossible.elim
            kept := fun _ => rfl }
      · rw [receive_of_exit seen]
        exact
          { process := by
              simp [ProcessTable.process?_retire,
                ProcessTable.process?_observe, apart, Deed.Terminates]
            observer := by
              simp [ProcessTable.lastObserver?_observe, apart]
            superseded := fun _ impossible => impossible.elim
            kept := fun _ => by simp [Dict.get?_insert, apart] }

/-- The step lemma for a generation that a deed passes by. -/
theorem spares_perform {deed : Deed}
    (passes : processes.Passes generation deed) :
    Spares deed processes (processes.perform deed) generation := by
  cases deed with
  | spawn slot launched =>
      cases launched with
      | ok _ =>
          refine .of_supersede (fun {place events} => ?_) ?_
            (exists_running?_slot_iff processes generation fun _ => Iff.rfl)
          · rw [ProcessTable.process?_enter]
            simp only [show generation ≠ processes.table.issued + 1 from passes,
              false_and, false_or, Deed.Terminates, ne_comm, ne_eq]
          · rw [ProcessTable.lastObserver?_enter, if_neg (Ne.symm passes)]
      | error cause =>
          refine .of_supersede (fun {place events} => ?_) ?_
            (exists_running?_slot_iff processes generation fun _ => Iff.rfl)
          · rw [ProcessTable.process?_skip, ProcessTable.process?_vacate]
            simp only [Deed.Terminates, ne_comm, ne_eq]
          · simp
  | kill slot =>
      refine .of_supersede (fun {place events} => ?_)
        ProcessTable.lastObserver?_vacate
        (exists_running?_slot_iff processes generation fun _ => Iff.rfl)
      rw [ProcessTable.process?_vacate]
      simp only [Deed.Terminates, ne_comm, ne_eq]
  | killAll =>
      change Spares .killAll processes
        ({ processes with table := processes.table.killAll.1 }.supersede
          processes.table.killAll.2) generation
      refine .of_supersede (fun {place events} => ?_)
        ProcessTable.lastObserver?_killAll ?_
      · simp [ProcessTable.process?_killAll, Deed.Terminates]
      · simp only [ProcessTable.mem_killAll_iff, Deed.Terminates, true_and]
        constructor
        · rintro ⟨running, ⟨slot, found⟩, rfl⟩
          exact ⟨slot, running.observer, found⟩
        · rintro ⟨slot, events, found⟩
          exact ⟨⟨generation, events⟩, ⟨slot, found⟩, rfl⟩
  | receive other event => exact spares_receive passes event

theorem passes_or (processes : Processes) (generation : Nat) (deed : Deed) :
    processes.Passes generation deed ∨
      (∃ slot, deed = .spawn slot (.ok ()) ∧
        generation = processes.table.issued + 1) ∨
      ∃ event, deed = .receive generation event := by
  cases deed with
  | spawn slot launched =>
      cases launched with
      | ok _ =>
          by_cases next : generation = processes.table.issued + 1
          · exact Or.inr (Or.inl ⟨slot, rfl, next⟩)
          · exact Or.inl next
      | error cause => exact Or.inl trivial
  | kill => exact Or.inl trivial
  | killAll => exact Or.inl trivial
  | receive other event =>
      by_cases same : generation = other
      · exact Or.inr (Or.inr ⟨event, same ▸ rfl⟩)
      · exact Or.inl same

theorem issued_perform (processes : Processes) (deed : Deed) :
    (processes.perform deed).table.issued =
      processes.table.issued + attempts [deed] := by
  cases deed with
  | spawn slot launched => cases launched <;> rfl
  | kill => rfl
  | killAll => rfl
  | receive generation event =>
      cases seen : processes.table.observer? generation with
      | none =>
          rw [perform, receive_of_closed seen]
          rfl
      | some events =>
          rcases line_or_exit event with line | ⟨code, rfl⟩
          · rw [perform, receive_of_line seen line]
            rfl
          · rw [perform, receive_of_exit seen]
            rfl

theorem attempt_answer (processes : Processes) (slot : Slot)
    (launched : Except OsError Unit) :
    (processes.attempt slot launched).2 =
      launched.map fun _ => processes.table.issued + 1 := by
  cases launched <;> rfl

theorem attempt_failed (processes : Processes) (slot : Slot)
    (cause : OsError) :
    let next := (processes.attempt slot (.error cause)).1
    next.table.generation? slot = none ∧
      ∀ generation, processes.table.generation? slot = some generation →
        next.table.observer? generation = none ∧
          next.completed.get? generation = some .superseded := by
  refine ⟨Dict.get?_erase_self _ _, fun generation entry => ?_⟩
  obtain ⟨events, found⟩ := ProcessTable.live_eq_some_iff.mp entry
  have spares : Spares (.spawn slot (.error cause)) processes
      (processes.perform (.spawn slot (.error cause))) generation :=
    spares_perform trivial
  refine ⟨?_, spares.superseded found rfl⟩
  rw [Option.eq_none_iff_forall_ne_some]
  intro observer seen
  obtain ⟨place, process⟩ := ProcessTable.observer?_eq_some_iff.mp seen
  obtain ⟨spared, earlier⟩ := spares.process.mp process
  rw [found] at earlier
  cases earlier
  exact spared rfl

theorem eventsOf_of_observer?
    (seen : processes.table.observer? generation = some events) :
    processes.eventsOf generation = events := by
  obtain ⟨slot, found⟩ := ProcessTable.observer?_eq_some_iff.mp seen
  rw [eventsOf, ProcessTable.lastObserver?_of_process? found, Option.getD_some]

theorem eventsOf_receive
    (seen : processes.table.observer? generation = some events)
    (event : ProcessEvent) :
    (processes.receive generation event).eventsOf generation =
      events ++ [event] := by
  obtain ⟨slot, found⟩ := ProcessTable.observer?_eq_some_iff.mp seen
  have known := ProcessTable.lastObserver?_of_process? found
  rcases line_or_exit event with line | ⟨code, rfl⟩
  · rw [receive_of_line seen line, eventsOf,
      ProcessTable.lastObserver?_observe, if_pos rfl, known]
    rfl
  · rw [receive_of_exit seen, eventsOf, ProcessTable.lastObserver?_retire,
      ProcessTable.lastObserver?_observe, if_pos rfl, known]
    rfl

theorem eventsOf_spawn (processes : Processes) (slot : Slot) :
    (processes.perform (.spawn slot (.ok ()))).eventsOf
        (processes.table.issued + 1) =
      processes.eventsOf (processes.table.issued + 1) := by
  have unknown : processes.table.lastObserver? (processes.table.issued + 1) =
      none := by
    rw [Option.eq_none_iff_forall_ne_some]
    intro events found
    have := ProcessTable.le_issued_of_lastObserver? found
    omega
  change ((processes.table.enter slot []).lastObserver? _).getD [] = _
  rw [ProcessTable.lastObserver?_enter, if_pos rfl, eventsOf, unknown]
  rfl

/-- The gate: whatever an observer receives comes from its own process, which
is live in its slot. -/
theorem eventsOf_perform_of_ne (processes : Processes) (deed : Deed)
    (generation : Nat)
    (changed : (processes.perform deed).eventsOf generation ≠
      processes.eventsOf generation) :
    ∃ slot event, deed = .receive generation event ∧
      processes.table.generation? slot = some generation ∧
      (processes.perform deed).eventsOf generation =
        processes.eventsOf generation ++ [event] := by
  rcases passes_or processes generation deed with
    passes | ⟨slot, rfl, rfl⟩ | ⟨event, rfl⟩
  · refine absurd ?_ changed
    rw [eventsOf, (spares_perform passes).observer, eventsOf]
  · exact absurd (eventsOf_spawn processes slot) changed
  · cases seen : processes.table.observer? generation with
    | none =>
        refine absurd ?_ changed
        rw [perform, receive_of_closed seen]
    | some events =>
        obtain ⟨slot, found⟩ := ProcessTable.observer?_eq_some_iff.mp seen
        refine ⟨slot, event, rfl,
          ProcessTable.live_eq_some_iff.mpr ⟨_, found⟩, ?_⟩
        rw [perform, eventsOf_receive seen, eventsOf_of_observer? seen]

end Processes

end ToolBridge.Scenario
