import ToolBridge.Process.OutputStream
import ToolBridge.Proofs.Bridge.Operations

/-!
# The end of a process

The bridge hears a process line by line.  When the process ends, all its lines
of error text have been put together, and the check or the run that it was
started for ends with them.
-/

namespace ToolBridge

/-- A process writes lines on standard error and ends with a code.  What comes
after its end is nobody's concern. -/
inductive Ends : List ProcessEvent → List String → Option Int → Prop where
  | exit (code : Option Int) (later : List ProcessEvent) :
      Ends (.exit code :: later) [] code
  | stdout (line : String) {events : List ProcessEvent} {lines : List String}
      {code : Option Int} (ends : Ends events lines code) :
      Ends (.stdout line :: events) lines code
  | stderr (line : String) {events : List ProcessEvent} {lines : List String}
      {code : Option Int} (ends : Ends events lines code) :
      Ends (.stderr line :: events) (line :: lines) code

namespace ProcessTable

variable {α : Type} {table : ProcessTable α} {generation : Nat} {observer : α}

theorem observer?_retire_self :
    (table.retire generation).observer? generation = none := by
  rw [Option.eq_none_iff_forall_ne_some]
  intro observer found
  obtain ⟨slot, live⟩ := observer?_eq_some_iff.mp found
  exact (process?_retire.mp live).1 rfl

theorem observer?_observe_self
    (seen : table.observer? generation = some observer) (next : α) :
    (table.observe generation next).observer? generation = some next := by
  obtain ⟨slot, live⟩ := observer?_eq_some_iff.mp seen
  refine observer?_eq_some_iff.mpr ⟨slot, process?_observe.mpr ?_⟩
  rw [if_pos rfl]
  exact ⟨rfl, observer, live⟩

end ProcessTable

namespace Bridge

open ToolBridge.OutputStream (captured)

variable {σ : Type} {bridge : Bridge σ} {generation number : Nat}
  {observer : Observer} {request : CheckRequest} {config : Config}
  {document : Document} {extension stderr : String} {events : List ProcessEvent}
  {lines : List String} {code : Option Int}

theorem processes_finish (bridge : Bridge σ) (generation : Nat) (observer : Observer)
    (code : Option Int) :
    (bridge.finish generation observer code).1.processes = bridge.processes := by
  cases observer with
  | check request config stderr =>
      cases current : bridge.isCurrent request with
      | false => rw [finish, finishCheck_of_stale current]
      | true => rw [finish, finishCheck_of_current current]
  | run number document extension stderr =>
      obtain ⟨closing, done, _⟩ :=
        finishRun_eq bridge generation number document extension stderr code
      rw [finish, done]

/-- What a process does until it ends comes to the end of an observer that saw
all its lines of error text. -/
theorem receiveAll_eq_finish
    (seen : bridge.processes.observer? generation = some observer)
    (ends : Ends events lines code) :
    ∃ processes front, ∀ {ended},
      { bridge with processes }.finish generation
        (lines.foldl (fun observer line => observeStderr line observer) observer)
        code = ended →
      bridge.receiveAll generation events = (ended.1, front ++ ended.2) := by
  induction ends generalizing bridge observer with
  | exit code later =>
      refine ⟨bridge.processes.retire generation, [], ?_⟩
      rintro ended rfl
      rw [receiveAll, receive, seen]
      dsimp only
      -- The exit shuts the gate, so that nothing is heard of what comes later.
      rw [receiveAll_of_shut]
      · rw [List.append_nil]
        rfl
      · rw [processes_finish]
        exact ProcessTable.observer?_retire_self
  | stdout line ends ih =>
      obtain ⟨processes, front, played⟩ := ih seen
      refine ⟨processes, relayStdout line observer ++ front, ?_⟩
      intro ended done
      rw [receiveAll, receive, seen]
      dsimp only
      rw [played done, List.append_assoc]
  | stderr line ends ih =>
      let next : Bridge σ :=
        { bridge with
          processes := bridge.processes.observe generation
            (observeStderr line observer) }
      have heard : next.processes.observer? generation =
          some (observeStderr line observer) :=
        ProcessTable.observer?_observe_self seen _
      obtain ⟨processes, front, played⟩ := ih heard
      refine ⟨processes, front, ?_⟩
      intro ended done
      rw [receiveAll, receive, seen]
      exact played done

theorem foldl_observeStderr_check (lines : List String) :
    lines.foldl (fun observer line => observeStderr line observer)
        (.check request config stderr) =
      .check request config (lines.foldl addLine stderr) := by
  induction lines generalizing stderr with
  | nil => rfl
  | cons line lines ih =>
      rw [List.foldl_cons, List.foldl_cons, observeStderr, ih]

theorem foldl_observeStderr_run (lines : List String) :
    lines.foldl (fun observer line => observeStderr line observer)
        (.run number document extension stderr) =
      .run number document extension (lines.foldl addLine stderr) := by
  induction lines generalizing stderr with
  | nil => rfl
  | cons line lines ih =>
      rw [List.foldl_cons, List.foldl_cons, observeStderr, ih]

/-- A check that is asked for until its process ends puts on the publisher what was
found in all the lines of error text, and touches nothing else. -/
theorem receiveAll_of_ends
    (seen : bridge.processes.observer? generation =
      some (.check request config ""))
    (current : bridge.isCurrent request = true) (ends : Ends events lines code) :
    ∃ processes front, bridge.receiveAll generation events =
      ({ bridge with
          processes
          publisher := (bridge.published request
            (findingOf config (captured lines) code)).1 },
        front ++ [.checked generation
          (.ofFinding? (findingOf config (captured lines) code))]) := by
  obtain ⟨processes, front, played⟩ := receiveAll_eq_finish seen ends
  rw [foldl_observeStderr_check] at played
  have asked : { bridge with processes }.isCurrent request = true := current
  have done := played
    (finishCheck_of_current asked generation config (captured lines) code)
  let told : Effect :=
    .deliver (bridge.published request (findingOf config (captured lines) code)).2
  refine ⟨processes, front ++ [told], done.trans ?_⟩
  exact congrArg (Prod.mk _) (List.append_cons front told _)

theorem ended_of_ends
    (seen : bridge.processes.observer? generation =
      some (.run number document extension ""))
    (ends : Ends events lines code) :
    ∃ front, (bridge.receiveAll generation events).2 = front ++
      [.ended generation
        (some ⟨code, runFinding document extension (captured lines)⟩)] := by
  obtain ⟨processes, front, played⟩ := receiveAll_eq_finish seen ends
  rw [foldl_observeStderr_run] at played
  obtain ⟨closing, done, _⟩ :=
    finishRun_eq { bridge with processes } generation number document extension
      (captured lines) code
  refine ⟨front ++ closing, (congrArg Prod.snd (played done)).trans ?_⟩
  exact (List.append_assoc front closing _).symm

end Bridge

end ToolBridge
