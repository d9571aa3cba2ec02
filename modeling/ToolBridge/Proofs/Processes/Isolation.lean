import ToolBridge.Proofs.Processes.Deeds

/-!
# Isolation of processes

Processes that share a table do not disturb each other.  The state after any
history is compared with the fate that the history has for each generation:
`Reflects` says what the state must hold for a fate, and one deed carries it
from one state to the next.  All that is said of slots, observers and results
in `Isolated` then follows from the history alone.
-/

namespace ToolBridge.Scenario

namespace Processes

variable {processes : Processes} {slot : Slot} {generation : Nat}
  {events : List ProcessEvent} {history : List Deed} {fate : Fate} {deed : Deed}

/-- The state holds for a generation what its fate asks for. -/
structure Reflects (processes : Processes) (generation : Nat)
    (fate : Fate) : Prop where
  process : processes.table.process? generation = fate.process?
  record : processes.table.lastObserver? generation = fate.record?
  completion : processes.completed.get? generation = fate.completion?

theorem Spares.of_closed {after : Processes}
    (spares : Spares deed processes after generation)
    (reflects : Reflects processes generation fate)
    (closed : fate.process? = none) :
    Reflects after generation fate where
  process := by
    rw [closed, Option.eq_none_iff_forall_ne_some]
    rintro ⟨slot, events⟩ found
    have earlier := (spares.process.mp found).2
    rw [reflects.process, closed] at earlier
    cases earlier
  record := spares.observer.trans reflects.record
  completion := by
    rw [spares.kept, reflects.completion]
    intro slot events found
    rw [reflects.process, closed] at found
    cases found

theorem not_ends_of_passes (passes : processes.Passes generation deed)
    (spared : ¬ deed.Terminates slot) : ¬ deed.Ends slot generation := by
  cases deed with
  | receive other event =>
      cases event with
      | exit code => exact fun same => passes same.symm
      | stdout => exact spared
      | stderr => exact spared
  | spawn => exact spared
  | kill => exact spared
  | killAll => exact spared

theorem said?_of_passes (passes : processes.Passes generation deed) :
    deed.said? generation = none := by
  cases deed with
  | receive other event => exact if_neg (Ne.symm passes)
  | spawn => rfl
  | kill => rfl
  | killAll => rfl

theorem reflects_of_passes (fated : Fated history generation fate)
    (reflects : Reflects processes generation fate)
    (counted : processes.table.issued = attempts history)
    (passes : processes.Passes generation deed) :
    ∃ next, Fated (history ++ [deed]) generation next ∧
      Reflects (processes.perform deed) generation next := by
  have spares := spares_perform passes
  cases fate with
  | absent =>
      refine ⟨.absent, fated.absent_append ?_, spares.of_closed reflects rfl⟩
      rintro slot rfl same
      exact passes (same.trans (counted ▸ rfl))
  | terminated events =>
      exact ⟨_, fated.terminated_append deed, spares.of_closed reflects rfl⟩
  | exited events code =>
      exact ⟨_, fated.exited_append deed, spares.of_closed reflects rfl⟩
  | live slot events =>
      by_cases terminates : deed.Terminates slot
      · refine ⟨_, fated.live_terminated terminates, ?_, ?_, ?_⟩
        · refine Option.eq_none_iff_forall_ne_some.mpr ?_
          rintro ⟨place, later⟩ found
          obtain ⟨spared, earlier⟩ := spares.process.mp found
          rw [reflects.process] at earlier
          cases earlier
          exact spared terminates
        · exact spares.observer.trans reflects.record
        · exact spares.superseded reflects.process terminates
      · have extended :=
          fated.live_append (not_ends_of_passes passes terminates)
        rw [said?_of_passes passes, Option.toList_none, List.append_nil]
          at extended
        refine ⟨_, extended, ?_, ?_, ?_⟩
        · exact spares.process.mpr ⟨terminates, reflects.process⟩
        · exact spares.observer.trans reflects.record
        · rw [spares.kept, reflects.completion]
          intro place later found
          rw [reflects.process] at found
          cases found
          exact terminates

theorem reflects_of_spawn (fated : Fated history generation fate)
    (reflects : Reflects processes generation fate)
    (counted : processes.table.issued = attempts history)
    (next : generation = processes.table.issued + 1) (slot : Slot) :
    Fated (history ++ [.spawn slot (.ok ())]) generation (.live slot []) ∧
      Reflects (processes.perform (.spawn slot (.ok ()))) generation
        (.live slot []) := by
  -- The generation is beyond all that were issued, so nothing is known of it.
  have unheard : fate.record? = none := by
    rw [← reflects.record, Option.eq_none_iff_forall_ne_some]
    intro events found
    have := ProcessTable.le_issued_of_lastObserver? found
    omega
  have unresolved : fate.completion? = none := by
    cases fate with
    | absent => rfl
    | live => cases unheard
    | terminated => cases unheard
    | exited => cases unheard
  subst next
  refine ⟨?_, ?_, ?_, ?_⟩
  · rw [counted]
    exact .live (Started.last history slot) (by simp [Lasting])
  · exact ProcessTable.process?_enter.mpr (Or.inl ⟨rfl, rfl, rfl⟩)
  · change (processes.table.enter slot []).lastObserver? _ = _
    rw [ProcessTable.lastObserver?_enter, if_pos rfl]
    rfl
  · change ({ processes with table := processes.table.enter slot [] }.supersede
      (processes.table.running? slot).toList).completed.get? _ = _
    rw [get?_completed_supersede, if_neg, reflects.completion, unresolved]
    · rfl
    · rw [exists_running?_iff]
      rintro ⟨events, found⟩
      have := ProcessTable.le_issued_of_process? found
      omega

theorem reflects_of_receive (fated : Fated history generation fate)
    (reflects : Reflects processes generation fate) (event : ProcessEvent) :
    ∃ next, Fated (history ++ [.receive generation event]) generation next ∧
      Reflects (processes.perform (.receive generation event)) generation
        next := by
  have unheard (closed : fate.process? = none) :
      Reflects (processes.perform (.receive generation event)) generation
        fate := by
    rw [perform, receive_of_closed]
    · exact reflects
    · rw [ProcessTable.observer?, reflects.process, closed, Option.map_none]
  cases fate with
  | absent =>
      refine ⟨.absent, fated.absent_append ?_, unheard rfl⟩
      intro slot impossible
      cases impossible
  | terminated events =>
      exact ⟨_, fated.terminated_append _, unheard rfl⟩
  | exited events code =>
      exact ⟨_, fated.exited_append _, unheard rfl⟩
  | live slot events =>
      have seen : processes.table.observer? generation = some events := by
        rw [ProcessTable.observer?, reflects.process]
        rfl
      rcases line_or_exit event with line | ⟨code, rfl⟩
      · have continues :
            ¬ (Deed.receive generation event).Ends slot generation := by
          cases event with
          | exit code => exact absurd rfl (line code)
          | stdout => exact id
          | stderr => exact id
        have extended := fated.live_append continues
        rw [Deed.said?, if_pos rfl, Option.toList_some] at extended
        refine ⟨_, extended, ?_⟩
        rw [perform, receive_of_line seen line]
        refine ⟨?_, ?_, reflects.completion⟩
        · refine ProcessTable.process?_observe.mpr ?_
          rw [if_pos rfl]
          exact ⟨rfl, events, reflects.process⟩
        · rw [ProcessTable.lastObserver?_observe, if_pos rfl, reflects.record]
          rfl
      · refine ⟨_, fated.live_exited code, ?_⟩
        rw [perform, receive_of_exit seen]
        refine ⟨?_, ?_, ?_⟩
        · refine Option.eq_none_iff_forall_ne_some.mpr ?_
          rintro ⟨place, later⟩ found
          exact (ProcessTable.process?_retire.mp found).1 rfl
        · rw [ProcessTable.lastObserver?_retire,
            ProcessTable.lastObserver?_observe, if_pos rfl, reflects.record]
          rfl
        · exact Dict.get?_insert_self _ _ _

theorem reflects_step (fated : Fated history generation fate)
    (reflects : Reflects processes generation fate)
    (counted : processes.table.issued = attempts history) (deed : Deed) :
    ∃ next, Fated (history ++ [deed]) generation next ∧
      Reflects (processes.perform deed) generation next := by
  rcases passes_or processes generation deed with
    passes | ⟨slot, rfl, next⟩ | ⟨event, rfl⟩
  · exact reflects_of_passes fated reflects counted passes
  · exact ⟨_, reflects_of_spawn fated reflects counted next slot⟩
  · exact reflects_of_receive fated reflects event

theorem issued_after (tree : FileTree) (history : List Deed) :
    (after tree history).table.issued = attempts history := by
  induction history using List.reverseRecOn with
  | nil => rfl
  | append_singleton history deed ih =>
      rw [after_append_singleton, issued_perform, ih, attempts_append]

theorem exists_fate (tree : FileTree) (history : List Deed)
    (generation : Nat) :
    ∃ fate, Fated history generation fate ∧
      Reflects (after tree history) generation fate := by
  induction history using List.reverseRecOn with
  | nil =>
      refine ⟨.absent, .absent fun slot later started => ?_, rfl, rfl, rfl⟩
      obtain ⟨earlier, empty, _⟩ := started
      simp at empty
  | append_singleton history deed ih =>
      -- The history grows at its end, where the state does.
      obtain ⟨fate, fated, reflects⟩ := ih
      rw [after_append_singleton]
      exact reflects_step fated reflects (issued_after tree history) deed

theorem reflects_after (tree : FileTree)
    (fated : Fated history generation fate) :
    Reflects (after tree history) generation fate := by
  obtain ⟨actual, actualFated, reflects⟩ := exists_fate tree history generation
  rw [fated.unique actualFated]
  exact reflects

theorem Reflects.eventsOf (reflects : Reflects processes generation fate) :
    processes.eventsOf generation = fate.record?.getD [] := by
  rw [Processes.eventsOf, reflects.record]

/-! ## What follows from the fates -/

theorem answer_eq_ok {tree : FileTree} {launched : Except OsError Unit}
    (handed : ((after tree history).attempt slot launched).2 =
      .ok generation) :
    generation = attempts history + 1 := by
  rw [attempt_answer, issued_after] at handed
  cases launched with
  | ok => exact (Except.ok.inj handed).symm
  | error => cases handed

theorem generation?_after_iff (tree : FileTree) (history : List Deed)
    (slot : Slot) (generation : Nat) :
    (after tree history).table.generation? slot = some generation ↔
      ∃ later, Started history slot generation later ∧
        Lasting slot generation later := by
  rw [ProcessTable.generation?, ProcessTable.live_eq_some_iff]
  constructor
  · rintro ⟨events, found⟩
    obtain ⟨fate, fated, reflects⟩ := exists_fate tree history generation
    rw [reflects.process] at found
    cases fated with
    | live started lasting =>
        cases found
        exact ⟨_, started, lasting⟩
    | absent => cases found
    | terminated => cases found
    | exited => cases found
  · rintro ⟨later, started, lasting⟩
    exact ⟨_, (reflects_after tree (.live started lasting)).process⟩

/-- What is received is the beginning of what is said, up to the exit. -/
theorem eventsOf_after_ordered (tree : FileTree) {later : List Deed}
    (started : Started history slot generation later) :
    (after tree history).eventsOf generation <+: said generation later ∧
      ∃ lines, (∀ code, .exit code ∉ lines) ∧
        ((after tree history).eventsOf generation = lines ∨
          ∃ code, (after tree history).eventsOf generation =
            lines ++ [.exit code]) := by
  obtain ⟨fate, fated, reflects⟩ := exists_fate tree history generation
  rw [reflects.eventsOf]
  cases fated with
  | absent never => exact absurd started (never _ _)
  | live again lasting =>
      obtain ⟨rfl, rfl⟩ := started.unique again
      exact ⟨List.prefix_rfl, _, exit_not_mem_said lasting, Or.inl rfl⟩
  | terminated again lasting _ =>
      obtain ⟨rfl, rfl⟩ := started.unique again
      refine ⟨?_, _, exit_not_mem_said lasting, Or.inl rfl⟩
      rw [said_append]
      exact List.prefix_append _ _
  | @exited place before rest code again lasting =>
      obtain ⟨rfl, rfl⟩ := started.unique again
      refine ⟨?_, _, exit_not_mem_said lasting, Or.inr ⟨code, rfl⟩⟩
      have spoken : said generation (.receive generation (.exit code) :: rest) =
          .exit code :: said generation rest :=
        List.filterMap_cons_some (if_pos rfl)
      rw [said_append, spoken]
      exact ⟨said generation rest, by simp [Fate.record?]⟩

theorem completed_after_eq_none_iff (tree : FileTree) {later : List Deed}
    (started : Started history slot generation later) :
    (after tree history).completed.get? generation = none ↔
      Lasting slot generation later := by
  constructor
  · intro unresolved
    obtain ⟨fate, fated, reflects⟩ := exists_fate tree history generation
    rw [reflects.completion] at unresolved
    cases fated with
    | absent never => exact absurd started (never _ _)
    | live again lasting =>
        obtain ⟨rfl, rfl⟩ := started.unique again
        exact lasting
    | terminated => cases unresolved
    | exited => cases unresolved
  · intro lasting
    exact (reflects_after tree (.live started lasting)).completion

theorem completed_after_eq_superseded_iff (tree : FileTree)
    {later : List Deed} (started : Started history slot generation later) :
    (after tree history).completed.get? generation = some .superseded ↔
      ∃ before deed rest, later = before ++ deed :: rest ∧
        Lasting slot generation before ∧ deed.Terminates slot := by
  constructor
  · intro resolved
    obtain ⟨fate, fated, reflects⟩ := exists_fate tree history generation
    rw [reflects.completion] at resolved
    cases fated with
    | terminated again lasting ending =>
        obtain ⟨rfl, rfl⟩ := started.unique again
        exact ⟨_, _, _, rfl, lasting, ending⟩
    | absent => cases resolved
    | live => cases resolved
    | exited => cases resolved
  · rintro ⟨before, deed, rest, rfl, lasting, ending⟩
    exact (reflects_after tree (.terminated started lasting ending)).completion

theorem completed_after_eq_finished_iff (tree : FileTree)
    {later : List Deed} {output : Captured}
    (started : Started history slot generation later) :
    (after tree history).completed.get? generation =
        some (.finished output) ↔
      ∃ before code rest,
        later = before ++ .receive generation (.exit code) :: rest ∧
          Lasting slot generation before ∧
          output = captured code (said generation before) := by
  constructor
  · intro resolved
    obtain ⟨fate, fated, reflects⟩ := exists_fate tree history generation
    rw [reflects.completion] at resolved
    cases fated with
    | exited again lasting =>
        obtain ⟨rfl, rfl⟩ := started.unique again
        cases resolved
        exact ⟨_, _, _, rfl, lasting, rfl⟩
    | absent => cases resolved
    | live => cases resolved
    | terminated => cases resolved
  · rintro ⟨before, code, rest, rfl, lasting, rfl⟩
    exact (reflects_after tree (.exited started lasting)).completion

theorem completed_after_append (tree : FileTree) {completion : Completion}
    (resolved : (after tree history).completed.get? generation =
      some completion) (more : List Deed) :
    (after tree (history ++ more)).completed.get? generation =
      some completion := by
  obtain ⟨fate, fated, reflects⟩ := exists_fate tree history generation
  rw [reflects.completion] at resolved
  have settled := fated.settled_append resolved more
  rw [(reflects_after tree settled).completion, resolved]

/-- What holds of the processes after a history. -/
structure Isolated (tree : FileTree) (history : List Deed) : Prop where
  /-- The next attempt uses up the next generation, whatever came before. -/
  numbered : ∀ slot launched,
    (after tree history).table.issued = attempts history ∧
      ((after tree history).attempt slot launched).2 =
        launched.map fun _ => attempts history + 1
  /-- A generation is greater than all that were handed out before. -/
  increasing : ∀ first rest place answer slot launched generation next,
    history = first ++ .spawn place answer :: rest →
    ((after tree first).attempt place answer).2 = .ok generation →
    ((after tree history).attempt slot launched).2 = .ok next →
      generation < next
  /-- An attempt that fails uses a generation up, terminates what was live in
  the slot and leaves the slot empty. -/
  failed : ∀ slot cause,
    let next := ((after tree history).attempt slot (.error cause)).1
    next.table.issued = (after tree history).table.issued + 1 ∧
      next.table.generation? slot = none ∧
      ∀ generation,
        (after tree history).table.generation? slot = some generation →
          next.table.observer? generation = none ∧
            next.completed.get? generation = some .superseded
  /-- A slot has the generation that was started in it last and has neither
  exited nor been terminated since. -/
  table : ∀ slot generation,
    (after tree history).table.generation? slot = some generation ↔
      ∃ later, Started history slot generation later ∧
        Lasting slot generation later
  /-- An observer receives something only while its generation has its
  slot. -/
  gated : ∀ deed generation,
    ((after tree history).perform deed).eventsOf generation ≠
        (after tree history).eventsOf generation →
      ∃ slot event, deed = .receive generation event ∧
        (after tree history).table.generation? slot = some generation ∧
        ((after tree history).perform deed).eventsOf generation =
          (after tree history).eventsOf generation ++ [event]
  /-- After a termination nothing reaches the observer any more. -/
  silenced : ∀ {slot generation before deed rest},
    Started history slot generation (before ++ deed :: rest) →
    Lasting slot generation before → deed.Terminates slot →
      ∀ more, (after tree (history ++ more)).eventsOf generation =
        said generation before
  /-- An observer receives a first part of what its process does, with at
  most one exit, which comes last. -/
  ordered : ∀ {slot generation later},
    Started history slot generation later →
      (after tree history).eventsOf generation <+: said generation later ∧
        ∃ lines, (∀ code, .exit code ∉ lines) ∧
          ((after tree history).eventsOf generation = lines ∨
            ∃ code, (after tree history).eventsOf generation =
              lines ++ [.exit code])
  /-- There is no result while the process is live. -/
  pending : ∀ {slot generation later},
    Started history slot generation later →
      ((after tree history).completed.get? generation = none ↔
        Lasting slot generation later)
  /-- The result is that of a superseded process exactly when the process was
  terminated before it exited. -/
  superseded : ∀ {slot generation later},
    Started history slot generation later →
      ((after tree history).completed.get? generation = some .superseded ↔
        ∃ before deed rest, later = before ++ deed :: rest ∧
          Lasting slot generation before ∧ deed.Terminates slot)
  /-- Otherwise it is the code and the whole output of the process. -/
  finished : ∀ {slot generation later output},
    Started history slot generation later →
      ((after tree history).completed.get? generation =
          some (.finished output) ↔
        ∃ before code rest,
          later = before ++ .receive generation (.exit code) :: rest ∧
            Lasting slot generation before ∧
            output = captured code (said generation before))
  /-- A result is had once and for all. -/
  final : ∀ {generation completion},
    (after tree history).completed.get? generation = some completion →
      ∀ more, (after tree (history ++ more)).completed.get? generation =
        some completion

/-- Whatever is done to processes, and whatever they do, in whatever order,
they stay isolated from each other. -/
theorem isolated_after (tree : FileTree) (history : List Deed) :
    Isolated tree history where
  numbered slot launched := by
    refine ⟨issued_after tree history, ?_⟩
    rw [attempt_answer, issued_after]
  increasing first rest place answer slot launched generation next split
      handed handedNext := by
    have earlier := answer_eq_ok handed
    have later := answer_eq_ok handedNext
    rw [split, attempts_append, attempts_spawn_cons] at later
    omega
  failed slot cause := by
    obtain ⟨empty, terminated⟩ := attempt_failed (after tree history) slot cause
    exact ⟨rfl, empty, terminated⟩
  table := generation?_after_iff tree history
  gated deed generation := eventsOf_perform_of_ne _ deed generation
  silenced started lasting ending more := by
    have settled := (Fated.terminated started lasting ending).settled_append
      rfl more
    exact (reflects_after tree settled).eventsOf
  ordered := eventsOf_after_ordered tree
  pending := completed_after_eq_none_iff tree
  superseded := completed_after_eq_superseded_iff tree
  finished := completed_after_eq_finished_iff tree
  final := completed_after_append tree

end Processes

end ToolBridge.Scenario
