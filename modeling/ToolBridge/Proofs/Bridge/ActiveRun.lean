import ToolBridge.Proofs.Bridge.Steps

/-!
# The active run

The bridge remembers the run that was started last, and the table of processes
has one slot for all runs.  A start, a stop and the end of a run change the two
one after the other.  Here they are shown to agree after every action: what is
live in the slot is the run that is remembered, and it is remembered no longer
than it is live, unless everything was killed.
-/

namespace ToolBridge.Bridge

variable {σ : Type} {bridge next : Bridge σ} {past : List Entry} {entry : Entry}
  {effects : List Effect} {generation number : Nat} {slot : Slot}
  {observer : Observer} {document : Document} {extension stderr : String}

namespace Entry

theorem notice_run (generation : Nat) (entry : Entry) :
    entry.notice generation (.run number document extension stderr) =
      .run number document extension (entry.extend generation stderr) := by
  unfold notice extend
  split
  · split
    · rfl
    · rfl
  · rfl

theorem run_eq_notice
    (said : .run number document extension stderr =
      entry.notice generation observer) :
    ∃ text, observer = .run number document extension text ∧
      stderr = entry.extend generation text := by
  cases observer with
  | run =>
      rw [notice_run] at said
      cases said
      exact ⟨_, rfl, rfl⟩
  | check =>
      rw [notice_check] at said
      cases said

theorem born?_interactive
    (born : entry.born? = some (generation, .interactive, observer)) :
    ∃ number document extension,
      entry = .started number document extension (.ok generation) ∧
      observer = .run number document extension "" := by
  unfold born? at born
  split at born
  · cases born
  · cases born
    exact ⟨_, _, _, rfl, rfl⟩
  · cases born

theorem born?_run
    (born : entry.born? =
      some (generation, slot, .run number document extension stderr)) :
    entry = .started number document extension (.ok generation) ∧
      slot = .interactive := by
  unfold born? at born
  split at born
  · cases born
  · cases born
    exact ⟨rfl, rfl⟩
  · cases born

end Entry

theorem isRunning_iff :
    bridge.isRunning = true ↔
      ∃ generation observer,
        bridge.processes.process? generation = some (.interactive, observer) := by
  unfold isRunning ProcessTable.isLive Dict.contains
  rw [Option.isSome_iff_exists]
  simp only [ProcessTable.live_eq_some_iff]

theorem generation_unique {first second : Nat} {left right : Observer}
    (one : bridge.processes.process? first = some (slot, left))
    (other : bridge.processes.process? second = some (slot, right)) :
    first = second := by
  have entered := ProcessTable.live_eq_some_iff.mpr ⟨_, one⟩
  rw [ProcessTable.live_eq_some_iff.mpr ⟨_, other⟩] at entered
  exact (Option.some.inj entered).symm

/-! ## The live run is the active one -/

/-- The runs have their slot for themselves, and the live one is active. -/
structure Registered (bridge : Bridge σ) : Prop where
  run : ∀ {generation observer},
    bridge.processes.process? generation = some (.interactive, observer) →
      ∃ number document extension stderr,
        observer = .run number document extension stderr
  active : ∀ {generation slot number document extension stderr},
    bridge.processes.process? generation =
        some (slot, .run number document extension stderr) →
      slot = .interactive ∧ bridge.active = some ⟨number, document⟩

namespace Registered

theorem active_of_lasts (registered : Registered bridge)
    (step : Steps past bridge entry effects next)
    (live : bridge.processes.process? generation = some (.interactive, observer))
    (lasts : ¬ entry.Ends generation .interactive) :
    next.active = bridge.active := by
  cases step with
  | launch known launches => cases launches <;> rfl
  | receive receives =>
      cases receives with
      | ended code seen unchecked =>
          -- The run that ends is the live one, as there is no other.
          obtain ⟨place, ending⟩ := ProcessTable.observer?_eq_some_iff.mp seen
          obtain ⟨rfl, _⟩ := registered.active ending
          have same := generation_unique ending live
          exact absurd same lasts
      | _ => rfl
  | start starts =>
      cases starts with
      | refused => rfl
      | _ => exact absurd rfl lasts
  | stop => exact absurd rfl lasts
  | killAll => exact absurd trivial lasts
  | _ => rfl

theorem step (registered : Registered bridge)
    (step : Steps past bridge entry effects next) : Registered next := by
  constructor
  · intro generation observer live
    rcases step.process?_iff.mp live with ⟨_, earlier, before, rfl⟩ | born
    · obtain ⟨number, document, extension, stderr, rfl⟩ := registered.run before
      exact ⟨number, document, extension, _, Entry.notice_run _ _⟩
    · obtain ⟨number, document, extension, _, rfl⟩ := Entry.born?_interactive born
      exact ⟨number, document, extension, "", rfl⟩
  · intro generation slot number document extension stderr live
    rcases step.process?_iff.mp live with ⟨lasts, earlier, before, said⟩ | born
    · obtain ⟨text, rfl, _⟩ := Entry.run_eq_notice said
      obtain ⟨rfl, active⟩ := registered.active before
      refine ⟨rfl, ?_⟩
      rw [registered.active_of_lasts step before lasts]
      exact active
    · obtain ⟨rfl, rfl⟩ := Entry.born?_run born
      refine ⟨rfl, ?_⟩
      cases step with
      | start starts =>
          cases starts with
          | started => rfl

theorem initially (storage : σ) (scratch : Scratch) :
    Registered ({ storage, scratch } : Bridge σ) := by
  constructor
  · intro generation observer live
    cases live
  · intro generation slot number document extension stderr live
    cases live

end Registered

theorem registered_after [Storage σ] (storage : σ) (scratch : Scratch)
    (actions : List (Action σ)) :
    Registered (History.after storage scratch actions).bridge :=
  History.induction_on (fun bridge _ _ => Registered bridge) storage scratch
    (Registered.initially storage scratch)
    (fun step registered => registered.step step) actions

/-! ## The active run is live -/

/-- The active run has a live process. -/
def Staffed (bridge : Bridge σ) : Prop :=
  ∀ ⦃number document⦄, bridge.active = some ⟨number, document⟩ →
    ∃ generation extension stderr,
      bridge.processes.process? generation =
        some (.interactive, .run number document extension stderr)

theorem Steps.run_of_lasts (step : Steps past bridge entry effects next)
    (live : bridge.processes.process? generation =
      some (slot, .run number document extension stderr))
    (lasts : ¬ entry.Ends generation slot) :
    next.processes.process? generation =
      some (slot, .run number document extension
        (entry.extend generation stderr)) := by
  refine step.process?_iff.mpr (Or.inl ⟨lasts, _, live, ?_⟩)
  rw [Entry.notice_run]

theorem ne_of_observer? {other : Nat} {current : Observer}
    (live : bridge.processes.process? generation = some (slot, observer))
    (seen : bridge.processes.observer? other = some current)
    (unlike : current ≠ observer) : other ≠ generation := by
  rintro rfl
  rw [ProcessTable.observer?_eq_some_iff.mpr ⟨_, live⟩] at seen
  cases seen
  exact unlike rfl

theorem Staffed.step (staffed : Staffed bridge)
    (step : Steps past bridge entry effects next) (spared : entry ≠ .killed) :
    Staffed next := by
  intro number document active
  -- A run that was active before stays live, unless the entry ends it.
  have kept (before : bridge.active = some ⟨number, document⟩)
      (lasts : ∀ {generation extension stderr},
        bridge.processes.process? generation =
            some (.interactive, .run number document extension stderr) →
          ¬ entry.Ends generation .interactive) :
      ∃ generation extension stderr,
        next.processes.process? generation =
          some (.interactive, .run number document extension stderr) := by
    obtain ⟨generation, extension, stderr, live⟩ := staffed before
    exact ⟨generation, extension, _, step.run_of_lasts live (lasts live)⟩
  cases step with
  | ask => exact kept active fun _ => not_false
  | launch known launches =>
      cases launches with
      | started => exact kept active (by simp [Entry.Ends])
      | refused => exact kept active (by simp [Entry.Ends])
      | _ => exact kept active fun _ => not_false
  | @receive other event _ _ receives =>
      cases receives with
      | shut _ closed =>
          apply kept active
          intro generation extension stderr live ends
          cases event with
          | exit code =>
              cases ends
              rw [ProcessTable.observer?_eq_some_iff.mpr ⟨_, live⟩] at closed
              cases closed
          | _ => exact ends
      | stdout => exact kept active fun _ => not_false
      | stderr => exact kept active fun _ => not_false
      | outdated code seen stale =>
          exact kept active fun live => ne_of_observer? live seen (by simp)
      | checked code seen current =>
          exact kept active fun live => ne_of_observer? live seen (by simp)
      | ended code seen unchecked =>
          dsimp only at active
          obtain ⟨before, unlike⟩ := Option.filter_eq_some_iff.mp active
          apply kept before
          intro generation extension stderr live
          apply ne_of_observer? live seen
          rintro ⟨⟩
          simp at unlike
  | close => exact kept active (by simp [Entry.Ends])
  | start starts =>
      cases starts with
      | refused => exact kept active fun _ => not_false
      | started =>
          cases active
          exact ⟨_, _, _, ProcessTable.process?_enter.mpr
            (Or.inl ⟨rfl, rfl, rfl⟩)⟩
      | failed => cases active
  | stop => cases active
  | retarget => exact kept active fun _ => not_false
  | disturb => exact kept active fun _ => not_false
  | killAll => exact absurd rfl spared

/-! ## The journal of the runs -/

/-- The process of a run in the journal is not somebody else's. -/
def Enrolled (bridge : Bridge σ) (past : List Entry) : Prop :=
  ∀ ⦃number document extension generation⦄,
    .started number document extension (.ok generation) ∈ past →
      generation ≤ bridge.processes.issued ∧
        ∀ ⦃slot observer⦄,
          bridge.processes.process? generation = some (slot, observer) →
            ∃ stderr, observer = .run number document extension stderr

theorem Enrolled.step (enrolled : Enrolled bridge past)
    (step : Steps past bridge entry effects next) :
    Enrolled next (past ++ [entry]) := by
  intro number document extension generation member
  rcases List.mem_append.mp member with inside | last
  · obtain ⟨bound, own⟩ := enrolled inside
    refine ⟨Nat.le_trans bound step.issued_le, ?_⟩
    intro slot observer live
    rcases step.process?_iff.mp live with ⟨_, earlier, before, rfl⟩ | born
    · obtain ⟨stderr, rfl⟩ := own before
      exact ⟨_, Entry.notice_run _ _⟩
    · have fresh := (step.issued_of_born born).1
      omega
  · cases List.mem_singleton.mp last
    obtain ⟨fresh, issued⟩ := step.issued_of_born rfl
    refine ⟨Nat.le_of_eq issued.symm, ?_⟩
    intro slot observer live
    rcases step.process?_iff.mp live with ⟨_, earlier, before, _⟩ | born
    · have bound := ProcessTable.le_issued_of_process? before
      omega
    · cases born
      exact ⟨"", rfl⟩

/-- The end of a run forgets no run but itself. -/
theorem Enrolled.active_of_exit [Storage σ] {history : History σ}
    (enrolled : Enrolled history.bridge history.past) {active : ActiveRun}
    (started : .started number document extension (.ok generation) ∈
      history.past)
    (newer : history.bridge.active = some active)
    (unlike : active.number ≠ number) (code : Option Int) :
    (history.advance (.receive generation (.exit code))).bridge.active =
      some active := by
  change (history.bridge.receive generation (.exit code)).1.active = some active
  have receives := receives history.bridge generation (.exit code)
  generalize history.bridge.receive generation (.exit code) = done at receives
  cases receives with
  | ended code seen unchecked =>
      obtain ⟨slot, live⟩ := ProcessTable.observer?_eq_some_iff.mp seen
      obtain ⟨stderr, same⟩ := (enrolled started).2 live
      cases same
      simp [newer, Option.filter, unlike]
  | _ => exact newer

/-! ## Starts that come to nothing -/

/-- The path decides whether a start is tried, and the system whether it
succeeds. -/
theorem start_answer (bridge : Bridge σ) (launcher : Launcher σ)
    (document : Document) (path : String) (config : Config) :
    (bridge.start launcher document path config).2.1 =
      if config.isSourcePath path then
        match launcher bridge.storage (config.runCommand path) with
        | .ok _ => .ok (bridge.processes.issued + 1)
        | .error cause =>
            .error (.launch (config.runCommand path).display cause)
      else .error (.notSource path config.extension) := by
  unfold start
  cases config.isSourcePath path with
  | false => rfl
  | true =>
      rw [if_pos rfl, if_pos rfl, dismissRun_eq]
      dsimp only [spawnRun, ProcessTable.spawn]
      cases launcher bridge.storage (config.runCommand path) with
      | ok _ => rfl
      | error cause => rfl

theorem start_of_refused {launcher : Launcher σ} {path : String}
    {config : Config} {failed form : String}
    (answer : (bridge.start launcher document path config).2.1 =
      .error (.notSource failed form)) :
    (bridge.start launcher document path config).1 = bridge ∧
      (bridge.start launcher document path config).2.2 = [] := by
  have starts := starts bridge launcher document path config
  generalize bridge.start launcher document path config = done at starts answer
  cases starts with
  | refused => exact ⟨rfl, rfl⟩
  | started => cases answer
  | failed => cases answer

theorem idle_of_unlaunched {launcher : Launcher σ} {path : String}
    {config : Config} {command : String} {cause : OsError}
    (answer : (bridge.start launcher document path config).2.1 =
      .error (.launch command cause)) :
    (bridge.start launcher document path config).1.isRunning = false ∧
      (bridge.start launcher document path config).1.activeDocument = none := by
  have starts := starts bridge launcher document path config
  generalize bridge.start launcher document path config = done at starts answer
  cases starts with
  | refused => cases answer
  | started => cases answer
  | failed =>
      refine ⟨?_, rfl⟩
      apply Bool.eq_false_iff.mpr
      intro running
      obtain ⟨generation, observer, live⟩ := isRunning_iff.mp running
      exact (ProcessTable.process?_vacate.mp live).1 rfl

/-! ## Every history -/

/-- What the records of the runs say to each other after a history. -/
structure RunSessionCoherent [Storage σ] (history : History σ) : Prop where
  /-- What is live in the slot of the runs is the active run. -/
  live : history.bridge.isRunning = true →
    ∃ generation number document extension stderr,
      history.bridge.processes.running? .interactive =
        some ⟨generation, .run number document extension stderr⟩ ∧
      history.bridge.active = some ⟨number, document⟩ ∧
      history.bridge.activeDocument = some document.id
  running_iff : .killed ∉ history.past →
    (history.bridge.isRunning = true ↔
      history.bridge.activeDocument.isSome = true)
  /-- The end of an older run leaves the record of a newer one. -/
  outlived : ∀ {number document extension generation active} code,
    .started number document extension (.ok generation) ∈ history.past →
      history.bridge.active = some active → active.number ≠ number →
      (history.advance (.receive generation (.exit code))).bridge.active =
        some active
  answered : ∀ launcher document path config,
    (history.bridge.start launcher document path config).2.1 =
      if config.isSourcePath path then
        match launcher history.bridge.storage (config.runCommand path) with
        | .ok _ => .ok (history.bridge.processes.issued + 1)
        | .error cause =>
            .error (.launch (config.runCommand path).display cause)
      else .error (.notSource path config.extension)
  /-- A start that is refused for its path does nothing at all. -/
  refused : ∀ {launcher document path config failed form},
    (history.bridge.start launcher document path config).2.1 =
        .error (.notSource failed form) →
      let refusal := history.advance (.start launcher document path config)
      refusal.bridge = history.bridge ∧ refusal.effects = history.effects
  unlaunched : ∀ {launcher document path config command cause},
    (history.bridge.start launcher document path config).2.1 =
        .error (.launch command cause) →
      let failure := history.advance (.start launcher document path config)
      failure.bridge.isRunning = false ∧ failure.bridge.activeDocument = none

theorem Registered.live (registered : Registered bridge)
    (running : bridge.isRunning = true) :
    ∃ generation number document extension stderr,
      bridge.processes.running? .interactive =
        some ⟨generation, .run number document extension stderr⟩ ∧
      bridge.active = some ⟨number, document⟩ ∧
      bridge.activeDocument = some document.id := by
  obtain ⟨generation, observer, live⟩ := isRunning_iff.mp running
  obtain ⟨number, document, extension, stderr, rfl⟩ := registered.run live
  have active := (registered.active live).2
  refine ⟨generation, number, document, extension, stderr, ?_, active, ?_⟩
  · exact ProcessTable.running?_eq_some_iff.mpr live
  · rw [activeDocument, active, Option.map_some]

theorem Staffed.running (staffed : Staffed bridge)
    (active : bridge.activeDocument.isSome = true) :
    bridge.isRunning = true := by
  obtain ⟨id, found⟩ := Option.isSome_iff_exists.mp active
  obtain ⟨⟨number, document⟩, known, _⟩ := Option.map_eq_some_iff.mp found
  obtain ⟨generation, extension, stderr, live⟩ := staffed known
  exact isRunning_iff.mpr ⟨generation, _, live⟩

/-- Whatever is done with a bridge in whatever order, the live run is the
active one, and without a kill of everything there is an active run only while
one is live; a start that is refused for its path changes nothing, and one that
the system refuses leaves no run behind. -/
theorem runSessionCoherent_after [Storage σ] (storage : σ) (scratch : Scratch)
    (actions : List (Action σ)) :
    RunSessionCoherent (History.after storage scratch actions) := by
  have registered := registered_after storage scratch actions
  have kept := History.induction_on
    (fun bridge past _ => Enrolled bridge past ∧
      (.killed ∉ past → Staffed bridge)) storage scratch ?_ ?_ actions
  · obtain ⟨enrolled, staffed⟩ := kept
    refine
      { live := registered.live
        running_iff := ?_
        outlived := fun code started newer unlike =>
          enrolled.active_of_exit started newer unlike code
        answered := start_answer _
        refused := ?_
        unlaunched := fun answer => idle_of_unlaunched answer }
    · intro spared
      constructor
      · intro running
        obtain ⟨_, _, document, _, _, _, _, active⟩ := registered.live running
        rw [active]
        rfl
      · exact (staffed spared).running
    · intro launcher document path config failed form answer
      obtain ⟨same, silent⟩ := start_of_refused answer
      refine ⟨same, ?_⟩
      change _ ++ (Bridge.start _ launcher document path config).2.2 = _
      rw [silent, List.append_nil]
  · constructor
    · intro number document extension generation started
      cases started
    · intro _ number document active
      cases active
  · rintro bridge next past entry seen effects step ⟨enrolled, staffed⟩
    refine ⟨enrolled.step step, ?_⟩
    intro spared
    have earlier : .killed ∉ past := fun member =>
      spared (List.mem_append_left _ member)
    apply (staffed earlier).step step
    rintro rfl
    exact spared (by simp)

end ToolBridge.Bridge
