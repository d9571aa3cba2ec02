import ToolBridge.Proofs.Bridge.Supersession

/-!
# Failures of checks

A launch fails if the scratch file cannot be written, or later, if the system
refuses the command when the slot of the document has already been taken over.  A
close fails only in its last step, the removal of the scratch file.  A failure is
an answer to the caller and nothing else: a failed launch touches at most the slot
of its document, a failed close gives up what a successful one gives up, and
neither shows anything.
-/

namespace ToolBridge

/-- A slot has been emptied, and no other slot has changed. -/
structure ProcessTable.Emptied {α : Type} (table next : ProcessTable α)
    (slot : Slot) : Prop where
  empty : next.running? slot = none
  /-- What was live in the slot is not listened to any more. -/
  shut : ∀ generation observer, table.process? generation = some (slot, observer) →
    next.process? generation = none
  others : ∀ place, place ≠ slot → next.running? place = table.running? place

theorem ProcessTable.emptied_vacate {α : Type} (table : ProcessTable α)
    (slot : Slot) : table.Emptied (table.vacate slot) slot where
  empty := running?_vacate_self
  shut := by
    intro generation observer live
    apply Option.eq_none_iff_forall_ne_some.mpr
    rintro ⟨place, current⟩ found
    obtain ⟨elsewhere, known⟩ := process?_vacate.mp found
    rw [live] at known
    cases known
    exact elsewhere rfl
  others := fun _ => running?_vacate_of_ne

namespace Bridge

variable {σ : Type}

/-- What the editor has been told after some more effects. -/
def History.told (history : History σ) (effects : List Effect) : DeliveryLog :=
  (deliveries effects).foldl DeliveryLog.receive history.sink

/-! ## Launches -/

/-- Why the launch of a request fails.  A stale request is never refused. -/
inductive Refuses [Storage σ] (bridge : Bridge σ) (launcher : Launcher σ)
    (request : CheckRequest) (config : Config) : Failure → Prop where
  | unwritten {storage : σ} {cause : OsError}
      (current : bridge.isCurrent request = true)
      (unwritten : Storage.write bridge.storage (bridge.scratch.pathFor request.id)
        request.document.text = (storage, .error cause)) :
      Refuses bridge launcher request config
        (.scratch (bridge.scratch.pathFor request.id) cause)
  | unstarted {storage : σ} {cause : OsError}
      (current : bridge.isCurrent request = true)
      (wrote : Storage.write bridge.storage (bridge.scratch.pathFor request.id)
        request.document.text = (storage, .ok ()))
      (unstarted : launcher storage
        (config.checkCommand (bridge.scratch.pathFor request.id)) = .error cause) :
      Refuses bridge launcher request config
        (.launch (config.checkCommand
          (bridge.scratch.pathFor request.id)).display cause)

theorem launch_eq_error_iff [Storage σ] {bridge : Bridge σ} {launcher : Launcher σ}
    {request : CheckRequest} {config : Config} {failure : Failure} :
    (bridge.launch launcher request config).2.1 = .error failure ↔
      Refuses bridge launcher request config failure := by
  constructor
  · intro failed
    cases current : bridge.isCurrent request with
    | false =>
        rw [launch_of_stale current] at failed
        cases failed
    | true =>
        rcases wrote : Storage.write bridge.storage
          (bridge.scratch.pathFor request.id) request.document.text with
          ⟨storage, cause | _⟩
        · rw [launch_of_unwritten current wrote] at failed
          cases failed
          exact .unwritten current wrote
        · cases taken : launcher storage
            (config.checkCommand (bridge.scratch.pathFor request.id)) with
          | error cause =>
              rw [launch_of_refused current wrote taken] at failed
              cases failed
              exact .unstarted current wrote taken
          | ok _ =>
              rw [launch_of_accepted current wrote taken] at failed
              cases failed
  · intro refuses
    cases refuses with
    | unwritten current unwritten => rw [launch_of_unwritten current unwritten]
    | unstarted current wrote unstarted =>
        rw [launch_of_refused current wrote unstarted]

/-- What no failed launch touches: everything but the files and the processes, and
what the editor has been told. -/
structure Spares (history : History σ) (next : Bridge σ) (effects : List Effect) :
    Prop where
  rest : next =
    { history.bridge with storage := next.storage, processes := next.processes }
  quiet : deliveries effects = []
  told : history.told effects = history.sink
  unlaunched : ∀ process, .launched process ∉ effects

theorem Launches.spares {history : History σ} {next : Bridge σ}
    {request : CheckRequest} {config : Config} {failure : Failure}
    {effects : List Effect}
    (launches : Launches history.bridge request config
      (next, .error failure, effects)) : Spares history next effects := by
  cases launches with
  | unwritten current storage path cause =>
      exact ⟨rfl, rfl, rfl, fun _ => List.not_mem_nil⟩
  | refused current storage command cause =>
      have quiet : deliveries (history.bridge.terminations (.document request.id)) =
          [] := by
        have silent := deliveries_terminations_append history.bridge
          (.document request.id) []
        rw [List.append_nil] at silent
        exact silent
      refine ⟨rfl, quiet, ?_, launched_notMem_terminations _ _⟩
      rw [History.told, quiet, List.foldl_nil]

theorem Launches.of_launch [Storage σ] {bridge next : Bridge σ}
    {launcher : Launcher σ} {request : CheckRequest} {config : Config}
    {answer : Except Failure Launch} {effects : List Effect}
    (launched : bridge.launch launcher request config = (next, answer, effects)) :
    Launches bridge request config (next, answer, effects) := by
  rw [← launched]
  exact launches bridge launcher request config

theorem Launches.of_unwritten {bridge next : Bridge σ} {request : CheckRequest}
    {config : Config} {path : String} {cause : OsError} {effects : List Effect}
    (launches : Launches bridge request config
      (next, .error (.scratch path cause), effects)) :
    next.processes = bridge.processes ∧ effects = [] := by
  cases launches
  exact ⟨rfl, rfl⟩

theorem Launches.of_refused {bridge next : Bridge σ} {request : CheckRequest}
    {config : Config} {command : String} {cause : OsError} {effects : List Effect}
    (launches : Launches bridge request config
      (next, .error (.launch command cause), effects)) :
    bridge.processes.Emptied next.processes (.document request.id) ∧
      next.processes.issued = bridge.processes.issued + 1 ∧
      effects = bridge.terminations (.document request.id) := by
  cases launches
  -- The generation that is used up changes nothing in any slot.
  have emptied := bridge.processes.emptied_vacate (.document request.id)
  exact ⟨⟨emptied.empty, emptied.shut, emptied.others⟩, rfl, rfl⟩

/-! ## Closes -/

/-- What is left of a document that was closed, and of the others. -/
structure GivenUp (history : History σ) (id : String) (next : Bridge σ)
    (effects : List Effect) : Prop where
  stale : ∀ request, request.id = id → next.isCurrent request = false
  emptied : history.bridge.processes.Emptied next.processes (.document id)
  sets : next.publisher.sets id = {}
  shown : (history.told effects).shown id = []
  deliveries : deliveries effects = [⟨id, []⟩]
  others : ∀ other, other ≠ id →
    (∀ request, request.id = other →
      next.isCurrent request = history.bridge.isCurrent request) ∧
    next.publisher.sets other = history.bridge.publisher.sets other ∧
    (history.told effects).shown other = history.sink.shown other

/-- Whether the scratch file can be removed decides the answer and nothing
else. -/
theorem givenUp_close [Storage σ] (history : History σ) (id : String) :
    GivenUp history id (history.bridge.close id).1 (history.bridge.close id).2.2 := by
  obtain ⟨storage, answer, closing⟩ := close_eq history.bridge id
  rw [closing]
  have delivered : deliveries
      (history.bridge.terminations (.document id) ++ [.deliver ⟨id, []⟩]) =
        [⟨id, []⟩] :=
    deliveries_terminations_append history.bridge (.document id) _
  have told (other : String) : (history.told
      (history.bridge.terminations (.document id) ++
        [.deliver ⟨id, []⟩])).shown other =
          if id = other then [] else history.sink.shown other := by
    rw [History.told, delivered]
    exact DeliveryLog.shown_receive _ _ _
  exact {
    stale := by
      rintro request rfl
      apply Bool.eq_false_iff.mpr
      intro current
      have latest := isCurrent_iff.mp current
      rw [Sequencer.forget, Dict.get?_erase_self] at latest
      cases latest
    emptied := history.bridge.processes.emptied_vacate (.document id)
    sets := (Publisher.sets_clear _ _ _).trans (if_pos rfl)
    shown := (told id).trans (if_pos rfl)
    deliveries := delivered
    others := by
      intro other apart
      refine ⟨?_, (Publisher.sets_clear _ _ _).trans (if_neg apart.symm),
        (told other).trans (if_neg apart.symm)⟩
      rintro request rfl
      apply Bool.eq_iff_iff.mpr
      rw [isCurrent_iff, isCurrent_iff]
      dsimp only [Sequencer.forget]
      rw [Dict.get?_erase, if_neg apart.symm] }

theorem close_eq_error_iff [Storage σ] {bridge : Bridge σ} {id : String}
    {failure : Failure} :
    (bridge.close id).2.1 = .error failure ↔
      ∃ cause, (Storage.remove bridge.storage (bridge.scratch.pathFor id)).2 =
          .error cause ∧
        failure = .scratch (bridge.scratch.pathFor id) cause := by
  simp only [close, Scratch.remove]
  cases (Storage.remove bridge.storage (bridge.scratch.pathFor id)).2 with
  | error cause => simp [Except.mapError, eq_comm]
  | ok _ => simp [Except.mapError]

/-- A close does the same whatever the storage is, but to the storage. -/
theorem close_with_storage [Storage σ] (bridge : Bridge σ) (id : String)
    (storage : σ) :
    ({ bridge with storage }.close id).1 =
        { (bridge.close id).1 with
          storage := ({ bridge with storage }.close id).1.storage } ∧
      ({ bridge with storage }.close id).2.2 = (bridge.close id).2.2 :=
  ⟨rfl, rfl⟩

/-! ## Every history -/

/-- What a failure leaves alone after a history. -/
structure FailureContained [Storage σ] (history : History σ) : Prop where
  refuses : ∀ {launcher request config failure},
    (history.bridge.launch launcher request config).2.1 = .error failure ↔
      Refuses history.bridge launcher request config failure
  /-- A failure to write the scratch file comes before everything else. -/
  unwritten : ∀ {launcher request config path cause next effects},
    history.bridge.launch launcher request config =
        (next, .error (.scratch path cause), effects) →
      Spares history next effects ∧
        next.processes = history.bridge.processes ∧ effects = []
  /-- A refused command costs the slot of the document and one generation. -/
  refused : ∀ {launcher request config command cause next effects},
    history.bridge.launch launcher request config =
        (next, .error (.launch command cause), effects) →
      Spares history next effects ∧
        history.bridge.processes.Emptied next.processes (.document request.id) ∧
        next.processes.issued = history.bridge.processes.issued + 1 ∧
        effects = history.bridge.terminations (.document request.id)
  unremoved : ∀ {id failure},
    (history.bridge.close id).2.1 = .error failure ↔
      ∃ cause,
        (Storage.remove history.bridge.storage
          (history.bridge.scratch.pathFor id)).2 = .error cause ∧
        failure = .scratch (history.bridge.scratch.pathFor id) cause
  closed : ∀ id, GivenUp history id (history.bridge.close id).1
    (history.bridge.close id).2.2
  alike : ∀ (id : String) (storage : σ),
    ({ history.bridge with storage }.close id).1 =
        { (history.bridge.close id).1 with
          storage := ({ history.bridge with storage }.close id).1.storage } ∧
      ({ history.bridge with storage }.close id).2.2 =
        (history.bridge.close id).2.2
  /-- What is held of checks was found by a process that was started and has
  ended. -/
  shown : ∀ id, Shows history.past id (history.bridge.publisher.sets id).check

/-- Whatever was done with a bridge before, a failed launch shows nothing and
touches at most the slot of its document, and a close that cannot remove the
scratch file gives the document up as any other close does. -/
theorem failureContained_after [Storage σ] (storage : σ) (scratch : Scratch)
    (actions : List (Action σ)) :
    FailureContained (History.after storage scratch actions) where
  refuses := launch_eq_error_iff
  unwritten := by
    intro launcher request config path cause next effects failed
    have launches := Launches.of_launch failed
    exact ⟨launches.spares, launches.of_unwritten⟩
  refused := by
    intro launcher request config command cause next effects failed
    have launches := Launches.of_launch failed
    exact ⟨launches.spares, launches.of_refused⟩
  unremoved := close_eq_error_iff
  closed := givenUp_close _
  alike := close_with_storage _
  shown := displayed_after storage scratch actions

end Bridge

end ToolBridge
