import ToolBridge.Bridge.Events

/-!
# What the operations of the bridge can do

One statement for each operation of the bridge says everything that the
operation can do to the state and everything that is seen of it.  Later
proofs take an operation apart by these statements and do not open its
definition.
-/

namespace ToolBridge

theorem Observer.outcome_of_terminated {running : Running Observer}
    {generation : Nat} {outcome : CheckOutcome}
    (seen : Effect.checked generation outcome = Observer.terminated running) :
    outcome = .superseded := by
  obtain ⟨number, observer⟩ := running
  cases observer with
  | check =>
      injection seen
  | run => cases seen

namespace Bridge

variable {σ : Type}

theorem isCurrent_iff {bridge : Bridge σ} {request : CheckRequest} :
    bridge.isCurrent request = true ↔
      bridge.tickets.latest.get? request.id = some request.ticket :=
  Sequencer.isCurrent_iff

/-! ## Launching a check -/

/-- What is seen of whatever is live in a slot when it is terminated. -/
def terminations (bridge : Bridge σ) (slot : Slot) : List Effect :=
  ((bridge.processes.running? slot).map Observer.terminated).toList

theorem superseded_of_mem_terminations {bridge : Bridge σ} {slot : Slot}
    {generation : Nat} {outcome : CheckOutcome}
    (seen : .checked generation outcome ∈ bridge.terminations slot) :
    outcome = .superseded := by
  obtain ⟨running, _, same⟩ := Option.map_eq_some_iff.mp (Option.mem_toList.mp seen)
  exact Observer.outcome_of_terminated same.symm

theorem live_of_mem_terminations {bridge : Bridge σ} {slot : Slot}
    {generation : Nat} {outcome : CheckOutcome}
    (seen : .checked generation outcome ∈ bridge.terminations slot) :
    ∃ observer, bridge.processes.process? generation = some (slot, observer) := by
  obtain ⟨⟨number, observer⟩, live, same⟩ :=
    Option.map_eq_some_iff.mp (Option.mem_toList.mp seen)
  have known := ProcessTable.running?_eq_some_iff.mp live
  cases observer with
  | check =>
      cases same
      exact ⟨_, known⟩
  | run => cases same

theorem superseded_mem_terminations {bridge : Bridge σ} {slot : Slot}
    {generation : Nat} {request : CheckRequest} {config : Config}
    {stderr : String}
    (live : bridge.processes.process? generation =
      some (slot, .check request config stderr)) :
    .checked generation .superseded ∈ bridge.terminations slot := by
  have running : bridge.processes.running? slot =
      some ⟨generation, .check request config stderr⟩ :=
    ProcessTable.running?_eq_some_iff.mpr live
  simp [terminations, running, Observer.terminated]

theorem launched_notMem_terminations (bridge : Bridge σ) (slot : Slot)
    (process : Started) : .launched process ∉ bridge.terminations slot := by
  unfold terminations
  cases bridge.processes.running? slot with
  | none => simp
  | some running =>
      obtain ⟨generation, observer⟩ := running
      cases observer <;> simp [Observer.terminated]

/-- What the launch of a request can do. -/
inductive Launches (bridge : Bridge σ) (request : CheckRequest)
    (config : Config) :
    Bridge σ × Except Failure Launch × List Effect → Prop where
  /-- The request is stale, and nothing is done. -/
  | stale (outdated : bridge.isCurrent request = false) :
      Launches bridge request config (bridge, .ok .superseded, [])
  /-- The scratch file cannot be written, and no process is touched. -/
  | unwritten (current : bridge.isCurrent request = true) (storage : σ)
      (path : String) (cause : OsError) :
      Launches bridge request config
        ({ bridge with storage }, .error (.scratch path cause), [])
  | started (current : bridge.isCurrent request = true) (storage : σ)
      (command : Command) :
      Launches bridge request config
        ({ bridge with
            storage
            processes := bridge.processes.enter (.document request.id)
              (.check request config "") },
          .ok (.started (bridge.processes.issued + 1)),
          bridge.terminations (.document request.id) ++
            [.launched ⟨.document request.id, bridge.processes.issued + 1,
              command⟩])
  /-- The system refuses the command, and the slot is left empty. -/
  | refused (current : bridge.isCurrent request = true) (storage : σ)
      (command : String) (cause : OsError) :
      Launches bridge request config
        ({ bridge with
            storage
            processes :=
              (bridge.processes.vacate (.document request.id)).skip },
          .error (.launch command cause),
          bridge.terminations (.document request.id))

theorem launches [Storage σ] (bridge : Bridge σ) (launcher : Launcher σ)
    (request : CheckRequest) (config : Config) :
    Launches bridge request config (bridge.launch launcher request config) := by
  unfold launch
  cases current : bridge.isCurrent request with
  | false => exact .stale current
  | true =>
      simp only [if_true, Scratch.write]
      rcases Storage.write bridge.storage
        (bridge.scratch.pathFor request.id) request.document.text with
        ⟨storage, _ | _⟩
      · exact .unwritten current storage _ _
      · dsimp only [Except.mapError, spawnCheck, ProcessTable.spawn]
        cases launcher storage
          (config.checkCommand (bridge.scratch.pathFor request.id)) with
        | error cause => exact .refused current storage _ cause
        | ok _ => exact .started current storage _

theorem Launches.tickets_eq {bridge : Bridge σ} {request : CheckRequest}
    {config : Config} {done : Bridge σ × Except Failure Launch × List Effect}
    (launches : Launches bridge request config done) :
    done.1.tickets = bridge.tickets := by
  cases launches <;> rfl

/-- The launch of a current request, by how the scratch file takes the
snapshot and how the system takes the command. -/
theorem launch_of_current [Storage σ] {bridge : Bridge σ}
    {request : CheckRequest} (current : bridge.isCurrent request = true)
    (launcher : Launcher σ) (config : Config) :
    let path := bridge.scratch.pathFor request.id
    let slot := Slot.document request.id
    bridge.launch launcher request config =
      match Storage.write bridge.storage path request.document.text with
      | (storage, .error cause) =>
          ({ bridge with storage }, .error (.scratch path cause), [])
      | (storage, .ok _) =>
          match launcher storage (config.checkCommand path) with
          | .error cause =>
              ({ bridge with
                  storage
                  processes := (bridge.processes.vacate slot).skip },
                .error (.launch (config.checkCommand path).display cause),
                bridge.terminations slot)
          | .ok _ =>
              ({ bridge with
                  storage
                  processes := bridge.processes.enter slot
                    (.check request config "") },
                .ok (.started (bridge.processes.issued + 1)),
                bridge.terminations slot ++
                  [.launched ⟨slot, bridge.processes.issued + 1,
                    config.checkCommand path⟩]) := by
  unfold launch
  rw [if_pos current]
  dsimp only [Scratch.write]
  rcases Storage.write bridge.storage (bridge.scratch.pathFor request.id)
    request.document.text with ⟨storage, cause | _⟩
  · rfl
  · dsimp only [Except.mapError, spawnCheck, ProcessTable.spawn]
    cases launcher storage
      (config.checkCommand (bridge.scratch.pathFor request.id)) with
    | error cause => rfl
    | ok _ => rfl

theorem launch_of_stale [Storage σ] {bridge : Bridge σ}
    {request : CheckRequest} (stale : bridge.isCurrent request = false)
    (launcher : Launcher σ) (config : Config) :
    bridge.launch launcher request config =
      (bridge, .ok .superseded, []) := by
  simp [launch, stale]

section Launch

variable [Storage σ] {bridge : Bridge σ} {launcher : Launcher σ}
  {request : CheckRequest} {storage : σ} {cause : OsError}

theorem launch_of_unwritten (current : bridge.isCurrent request = true)
    (refused : Storage.write bridge.storage
      (bridge.scratch.pathFor request.id) request.document.text =
        (storage, .error cause)) (config : Config) :
    bridge.launch launcher request config =
      ({ bridge with storage },
        .error (.scratch (bridge.scratch.pathFor request.id) cause), []) := by
  rw [launch_of_current current, refused]

theorem launch_of_refused (current : bridge.isCurrent request = true)
    (wrote : Storage.write bridge.storage
      (bridge.scratch.pathFor request.id) request.document.text =
        (storage, .ok ())) {config : Config}
    (refused : launcher storage
      (config.checkCommand (bridge.scratch.pathFor request.id)) =
        .error cause) :
    bridge.launch launcher request config =
      ({ bridge with
          storage
          processes := (bridge.processes.vacate (.document request.id)).skip },
        .error (.launch (config.checkCommand
          (bridge.scratch.pathFor request.id)).display cause),
        bridge.terminations (.document request.id)) := by
  rw [launch_of_current current, wrote]
  dsimp only
  rw [refused]

theorem launch_of_accepted (current : bridge.isCurrent request = true)
    (wrote : Storage.write bridge.storage
      (bridge.scratch.pathFor request.id) request.document.text =
        (storage, .ok ())) {config : Config}
    (accepted : launcher storage
      (config.checkCommand (bridge.scratch.pathFor request.id)) = .ok ()) :
    bridge.launch launcher request config =
      ({ bridge with
          storage
          processes := bridge.processes.enter (.document request.id)
            (.check request config "") },
        .ok (.started (bridge.processes.issued + 1)),
        bridge.terminations (.document request.id) ++
          [.launched ⟨.document request.id, bridge.processes.issued + 1,
            config.checkCommand (bridge.scratch.pathFor request.id)⟩]) := by
  rw [launch_of_current current, wrote]
  dsimp only
  rw [accepted]

end Launch

/-! ## The end of a check -/

/-- What a check found, by what its process wrote and how it ended. -/
def findingOf (config : Config) (stderr : String) (code : Option Int) :
    Option Finding :=
  Finding.ofStderr? config (config.classify code) stderr

def diagnosticsOf (request : CheckRequest) (finding : Option Finding) :
    List Diagnostic :=
  (finding.map fun finding => finding.diagnostic request.document).toList

/-- The publisher with what a check found, and what the editor is told of it. -/
def published (bridge : Bridge σ) (request : CheckRequest)
    (finding : Option Finding) : Publisher × Delivery :=
  bridge.publisher.replace .check request.id (diagnosticsOf request finding)

theorem finishCheck_of_stale {bridge : Bridge σ} {request : CheckRequest}
    (outdated : bridge.isCurrent request = false) (generation : Nat)
    (config : Config) (stderr : String) (code : Option Int) :
    bridge.finishCheck generation request config stderr code =
      (bridge, [.checked generation .superseded]) := by
  simp only [finishCheck, outdated, Publisher.replaceIf, Bool.false_eq_true,
    if_false]

theorem finishCheck_of_current {bridge : Bridge σ} {request : CheckRequest}
    (current : bridge.isCurrent request = true) (generation : Nat)
    (config : Config) (stderr : String) (code : Option Int) :
    bridge.finishCheck generation request config stderr code =
      ({ bridge with
          publisher := (bridge.published request
            (findingOf config stderr code)).1 },
        [.deliver (bridge.published request (findingOf config stderr code)).2,
          .checked generation (.ofFinding? (findingOf config stderr code))]) := by
  simp only [finishCheck, current, Publisher.replaceIf, if_true]
  rfl

/-! ## Runs -/

/-- What is seen when the live run is ended from outside. -/
def dismissal (bridge : Bridge σ) : List Effect :=
  match bridge.processes.running? .interactive with
  | some running => [Observer.terminated running, .line Console.terminating]
  | none => []

theorem mem_terminations_of_mem_dismissal {bridge : Bridge σ}
    {generation : Nat} {outcome : CheckOutcome}
    (seen : .checked generation outcome ∈ bridge.dismissal) :
    .checked generation outcome ∈ bridge.terminations .interactive := by
  unfold dismissal at seen
  split at seen
  · rename_i running live
    simpa [terminations, live, Effect.line] using seen
  · cases seen

theorem terminations_subset_dismissal (bridge : Bridge σ) :
    bridge.terminations .interactive ⊆ bridge.dismissal := by
  unfold terminations dismissal
  cases bridge.processes.running? .interactive with
  | none => simp
  | some running => simp

theorem dismissRun_eq (bridge : Bridge σ) :
    bridge.dismissRun =
      ({ bridge with
          processes := bridge.processes.vacate .interactive
          active := none },
        (bridge.processes.running? .interactive).isSome, bridge.dismissal) := by
  unfold dismissRun dismissal ProcessTable.kill
  cases bridge.processes.running? .interactive with
  | none => rfl
  | some running => rfl

/-- What the start of a run can do. -/
inductive Starts (bridge : Bridge σ) (document : Document) (path : String)
    (config : Config) :
    Bridge σ × Except Failure Nat × List Effect → Prop where
  /-- The path is not that of a source file, and nothing is done. -/
  | refused :
      Starts bridge document path config
        (bridge, .error (.notSource path config.extension), [])
  | started (command : Command) :
      Starts bridge document path config
        ({ bridge with
            processes :=
              (bridge.processes.vacate .interactive).enter .interactive
                (.run (bridge.runs + 1) document config.extension "")
            runs := bridge.runs + 1
            active := some ⟨bridge.runs + 1, document⟩ },
          .ok (bridge.processes.issued + 1),
          bridge.dismissal ++
            [.console .clear, .console .reveal, .line (Console.running path)] ++
            [.launched ⟨.interactive, bridge.processes.issued + 1, command⟩])
  /-- The system refuses the command, and no run is live. -/
  | failed (command : String) (cause : OsError) :
      Starts bridge document path config
        ({ bridge with
            processes :=
              ((bridge.processes.vacate .interactive).vacate .interactive).skip
            runs := bridge.runs + 1
            active := none },
          .error (.launch command cause),
          bridge.dismissal ++
            [.console .clear, .console .reveal, .line (Console.running path)])

theorem starts (bridge : Bridge σ) (launcher : Launcher σ)
    (document : Document) (path : String) (config : Config) :
    Starts bridge document path config
      (bridge.start launcher document path config) := by
  unfold start
  cases source : config.isSourcePath path with
  | false => exact .refused
  | true =>
      rw [if_pos rfl, dismissRun_eq]
      dsimp only [spawnRun, ProcessTable.spawn]
      rw [ProcessTable.running?_vacate_self]
      cases launcher bridge.storage (config.runCommand path) with
      | ok _ => exact .started _
      | error cause =>
          have failed : Starts bridge document path config _ :=
            .failed (config.runCommand path).display cause
          simpa using failed

theorem Starts.tickets_eq {bridge : Bridge σ} {document : Document}
    {path : String} {config : Config}
    {done : Bridge σ × Except Failure Nat × List Effect}
    (starts : Starts bridge document path config done) :
    done.1.tickets = bridge.tickets := by
  cases starts <;> rfl

/-- Where the cursor goes when a run is stopped. -/
def returning (bridge : Bridge σ) : List Effect :=
  if (bridge.processes.running? .interactive).isSome then
    (bridge.activeDocument.map fun id => Effect.navigate id none).toList
  else []

theorem not_checked_of_mem_returning {bridge : Bridge σ} {generation : Nat}
    {outcome : CheckOutcome} :
    .checked generation outcome ∉ bridge.returning := by
  unfold returning
  split
  · simp
  · simp

theorem stop_eq (bridge : Bridge σ) :
    bridge.stop =
      ({ bridge with
          processes := bridge.processes.vacate .interactive
          active := none },
        (bridge.processes.running? .interactive).isSome,
        bridge.dismissal ++ bridge.returning) := by
  unfold stop returning
  rw [dismissRun_eq]
  cases bridge.processes.running? .interactive with
  | none => simp
  | some running => simp

/-- The diagnostic of what a run wrote, if it wrote anything. -/
def runFinding (document : Document) (extension stderr : String) :
    Option Diagnostic :=
  if Text.isBlankText stderr.toList then none
  else
    some (runDiagnostic document extension
      (String.ofList (Text.trimLineBreaks stderr.toList))).1

/-- The sets of a document once a run of it has ended, with what it found. -/
def afterRun (sets : ChannelSets) : Option Diagnostic → ChannelSets
  | none => sets.remove .run
  | some diagnostic => sets.set .run [diagnostic]

@[simp] theorem check_afterRun (sets : ChannelSets) (finding : Option Diagnostic) :
    (afterRun sets finding).check = sets.check := by
  cases finding <;> rfl

@[simp] theorem run_afterRun (sets : ChannelSets) (finding : Option Diagnostic) :
    (afterRun sets finding).run = finding.toList := by
  cases finding <;> rfl

theorem settleRun_eq (bridge : Bridge σ) (number : Nat) :
    bridge.settleRun number =
      { bridge with
        active := bridge.active.filter fun active =>
          decide (active.number ≠ number) } := by
  obtain ⟨storage, scratch, tickets, publisher, processes, active, runs⟩ := bridge
  unfold settleRun
  cases active with
  | none => rfl
  | some active =>
      by_cases same : active.number = number
      · simp [Option.filter, same]
      · simp [Option.filter, same]

/-- What the end of a run can do: the run is forgotten if it is the active
one, and its diagnostics replace those of its document. -/
theorem finishRun_eq (bridge : Bridge σ) (generation number : Nat)
    (document : Document) (extension stderr : String) (code : Option Int) :
    ∃ closing,
      bridge.finishRun generation number document extension stderr code =
        ({ bridge with
            active := bridge.active.filter fun active =>
              decide (active.number ≠ number)
            publisher := (bridge.publisher.put document.id
              (afterRun (bridge.publisher.sets document.id)
                (runFinding document extension stderr))).1 },
          closing ++
            [.ended generation
              (some ⟨code, runFinding document extension stderr⟩)]) ∧
      ∀ other outcome, Effect.checked other outcome ∉ closing := by
  unfold finishRun runFinding
  rw [settleRun_eq]
  cases Text.isBlankText stderr.toList with
  | true => exact ⟨_, rfl, by simp [Effect.line]⟩
  | false => exact ⟨_, rfl, by simp [Effect.line]⟩

/-! ## Events -/

/-- What an event of a process can do. -/
inductive Receives (bridge : Bridge σ) (generation : Nat) :
    ProcessEvent → Bridge σ × List Effect → Prop where
  /-- The gate is shut, and nothing is done. -/
  | shut (event : ProcessEvent)
      (closed : bridge.processes.observer? generation = none) :
      Receives bridge generation event (bridge, [])
  | stdout {observer : Observer} (line : String)
      (seen : bridge.processes.observer? generation = some observer) :
      Receives bridge generation (.stdout line)
        (bridge, relayStdout line observer)
  | stderr {observer : Observer} (line : String)
      (seen : bridge.processes.observer? generation = some observer) :
      Receives bridge generation (.stderr line)
        ({ bridge with
            processes := bridge.processes.observe generation
              (observeStderr line observer) }, [])
  /-- A check ends that is no longer asked for. -/
  | outdated {request : CheckRequest} {config : Config} {stderr : String}
      (code : Option Int)
      (seen : bridge.processes.observer? generation =
        some (.check request config stderr))
      (stale : bridge.isCurrent request = false) :
      Receives bridge generation (.exit code)
        ({ bridge with processes := bridge.processes.retire generation },
          [.checked generation .superseded])
  | checked {request : CheckRequest} {config : Config} {stderr : String}
      (code : Option Int)
      (seen : bridge.processes.observer? generation =
        some (.check request config stderr))
      (current : bridge.isCurrent request = true) :
      Receives bridge generation (.exit code)
        ({ bridge with
            processes := bridge.processes.retire generation
            publisher := (bridge.published request
              (findingOf config stderr code)).1 },
          [.deliver (bridge.published request (findingOf config stderr code)).2,
            .checked generation (.ofFinding? (findingOf config stderr code))])
  | ended {number : Nat} {document : Document} {extension stderr : String}
      {closing : List Effect} (code : Option Int)
      (seen : bridge.processes.observer? generation =
        some (.run number document extension stderr))
      (unchecked : ∀ other outcome, Effect.checked other outcome ∉ closing) :
      Receives bridge generation (.exit code)
        ({ bridge with
            processes := bridge.processes.retire generation
            active := bridge.active.filter fun active =>
              decide (active.number ≠ number)
            publisher := (bridge.publisher.put document.id
              (afterRun (bridge.publisher.sets document.id)
                (runFinding document extension stderr))).1 },
          closing ++
            [.ended generation
              (some ⟨code, runFinding document extension stderr⟩)])

theorem receive_of_shut {bridge : Bridge σ} {generation : Nat}
    (closed : bridge.processes.observer? generation = none)
    (event : ProcessEvent) : bridge.receive generation event = (bridge, []) := by
  rw [receive, closed]

theorem receive_exit_of_stale {bridge : Bridge σ} {generation : Nat}
    {request : CheckRequest} {config : Config} {stderr : String}
    (seen : bridge.processes.observer? generation =
      some (.check request config stderr))
    (stale : bridge.isCurrent request = false) (code : Option Int) :
    bridge.receive generation (.exit code) =
      ({ bridge with processes := bridge.processes.retire generation },
        [.checked generation .superseded]) := by
  let retired : Bridge σ :=
    { bridge with processes := bridge.processes.retire generation }
  have unasked : retired.isCurrent request = false := stale
  rw [receive, seen]
  exact finishCheck_of_stale unasked generation config stderr code

theorem receive_exit_of_current {bridge : Bridge σ} {generation : Nat}
    {request : CheckRequest} {config : Config} {stderr : String}
    (seen : bridge.processes.observer? generation =
      some (.check request config stderr))
    (current : bridge.isCurrent request = true) (code : Option Int) :
    bridge.receive generation (.exit code) =
      ({ bridge with
          processes := bridge.processes.retire generation
          publisher := (bridge.published request (findingOf config stderr code)).1 },
        [.deliver (bridge.published request (findingOf config stderr code)).2,
          .checked generation (.ofFinding? (findingOf config stderr code))]) := by
  let retired : Bridge σ :=
    { bridge with processes := bridge.processes.retire generation }
  have asked : retired.isCurrent request = true := current
  rw [receive, seen]
  exact finishCheck_of_current asked generation config stderr code

theorem receives (bridge : Bridge σ) (generation : Nat)
    (event : ProcessEvent) :
    Receives bridge generation event (bridge.receive generation event) := by
  cases seen : bridge.processes.observer? generation with
  | none =>
      rw [receive_of_shut seen]
      exact .shut event seen
  | some observer =>
      cases event with
      | stdout line =>
          rw [receive, seen]
          exact .stdout line seen
      | stderr line =>
          rw [receive, seen]
          exact .stderr line seen
      | exit code =>
          cases observer with
          | check request config stderr =>
              cases current : bridge.isCurrent request with
              | false =>
                  rw [receive_exit_of_stale seen current]
                  exact .outdated code seen current
              | true =>
                  rw [receive_exit_of_current seen current]
                  exact .checked code seen current
          | run number document extension stderr =>
              obtain ⟨closing, ending, unchecked⟩ := finishRun_eq
                { bridge with processes := bridge.processes.retire generation }
                generation number document extension stderr code
              rw [receive, seen]
              dsimp only [finish]
              rw [ending]
              exact .ended code seen unchecked

theorem Receives.tickets_eq {bridge : Bridge σ} {generation : Nat}
    {event : ProcessEvent} {done : Bridge σ × List Effect}
    (receives : Receives bridge generation event done) :
    done.1.tickets = bridge.tickets := by
  cases receives <;> rfl

theorem tickets_receiveAll (bridge : Bridge σ) (generation : Nat)
    (events : List ProcessEvent) :
    (bridge.receiveAll generation events).1.tickets = bridge.tickets := by
  induction events generalizing bridge with
  | nil => rfl
  | cons event events ih =>
      exact (ih (bridge.receive generation event).1).trans
        (bridge.receives generation event).tickets_eq

theorem receiveAll_of_shut {bridge : Bridge σ} {generation : Nat}
    (closed : bridge.processes.observer? generation = none)
    (events : List ProcessEvent) :
    bridge.receiveAll generation events = (bridge, []) := by
  induction events with
  | nil => rfl
  | cons event events ih =>
      rw [receiveAll, receive_of_shut closed]
      dsimp only
      rw [ih]
      rfl

/-! ## Closing a document -/

theorem close_eq [Storage σ] (bridge : Bridge σ) (id : String) :
    ∃ storage answer, bridge.close id =
      ({ bridge with
          tickets := bridge.tickets.forget id
          processes := bridge.processes.vacate (.document id)
          publisher := (bridge.publisher.clear id).1
          storage },
        answer,
        bridge.terminations (.document id) ++ [.deliver ⟨id, []⟩]) :=
  ⟨_, _, rfl⟩

/-! ## The configuration of a check -/

/-- A process was started for a request, under a configuration. -/
def Ran (bridge : Bridge σ) (request : CheckRequest) (config : Config) : Prop :=
  ∃ generation stderr, bridge.processes.lastObserver? generation =
    some (.check request config stderr)

theorem Ran.of_eq {bridge next : Bridge σ} {request : CheckRequest}
    {config : Config}
    (same : ∀ generation, next.processes.lastObserver? generation =
      bridge.processes.lastObserver? generation)
    (ran : next.Ran request config) : bridge.Ran request config := by
  obtain ⟨generation, stderr, found⟩ := ran
  exact ⟨generation, stderr, same generation ▸ found⟩

/-- A launch starts a process for its own request at most. -/
theorem Launches.ran {bridge : Bridge σ} {request other : CheckRequest}
    {config settled : Config}
    {done : Bridge σ × Except Failure Launch × List Effect}
    (launches : Launches bridge request config done)
    (ran : done.1.Ran other settled) :
    bridge.Ran other settled ∨ (other, settled) = (request, config) := by
  cases launches with
  | stale outdated => exact Or.inl ran
  | unwritten current storage path cause => exact Or.inl ran
  | started current storage command =>
      obtain ⟨generation, stderr, found⟩ := ran
      dsimp only at found
      rw [ProcessTable.lastObserver?_enter] at found
      split at found
      · cases found
        exact Or.inr rfl
      · exact Or.inl ⟨generation, stderr, found⟩
  | refused current storage command cause =>
      refine Or.inl (ran.of_eq ?_)
      intro generation
      exact ProcessTable.lastObserver?_vacate

theorem Starts.ran {bridge : Bridge σ} {document : Document} {path : String}
    {config settled : Config} {request : CheckRequest}
    {done : Bridge σ × Except Failure Nat × List Effect}
    (starts : Starts bridge document path config done)
    (ran : done.1.Ran request settled) : bridge.Ran request settled := by
  cases starts with
  | refused => exact ran
  | started command =>
      obtain ⟨generation, stderr, found⟩ := ran
      dsimp only at found
      rw [ProcessTable.lastObserver?_enter, ProcessTable.lastObserver?_vacate]
        at found
      split at found
      · cases found
      · exact ⟨generation, stderr, found⟩
  | failed command cause =>
      refine ran.of_eq ?_
      intro generation
      simp

theorem Receives.ran {bridge : Bridge σ} {generation : Nat}
    {event : ProcessEvent} {done : Bridge σ × List Effect}
    {request : CheckRequest} {config : Config}
    (receives : Receives bridge generation event done)
    (ran : done.1.Ran request config) : bridge.Ran request config := by
  have retired {next : Bridge σ}
      (processes : next.processes = bridge.processes.retire generation)
      (ran : next.Ran request config) : bridge.Ran request config := by
    refine ran.of_eq ?_
    intro other
    rw [processes, ProcessTable.lastObserver?_retire]
  cases receives with
  | shut event closed => exact ran
  | stdout line seen => exact ran
  | @stderr observer line seen =>
      obtain ⟨other, stderr, found⟩ := ran
      dsimp only at found
      rw [ProcessTable.lastObserver?_observe] at found
      split at found
      · -- The observer remembers one more line, and its request as before.
        rename_i same
        subst same
        obtain ⟨slot, known⟩ := ProcessTable.observer?_eq_some_iff.mp seen
        have last := ProcessTable.lastObserver?_of_process? known
        rw [last] at found
        cases observer with
        | check =>
            cases found
            exact ⟨generation, _, last⟩
        | run => cases found
      · exact ⟨other, stderr, found⟩
  | outdated code seen stale => exact retired rfl ran
  | checked code seen current => exact retired rfl ran
  | ended code seen unchecked => exact retired rfl ran

theorem ran_of_receiveAll {bridge : Bridge σ} {generation : Nat}
    {events : List ProcessEvent} {request : CheckRequest} {config : Config}
    (ran : (bridge.receiveAll generation events).1.Ran request config) :
    bridge.Ran request config := by
  induction events generalizing bridge with
  | nil => exact ran
  | cons event events ih => exact (bridge.receives generation event).ran (ih ran)

/-! ## The files -/

theorem storage_launch [Storage σ] (bridge : Bridge σ) (launcher : Launcher σ)
    (request : CheckRequest) (config : Config) :
    (bridge.launch launcher request config).1.storage =
      if bridge.isCurrent request then
        (Storage.write bridge.storage (bridge.scratch.pathFor request.id)
          request.document.text).1
      else bridge.storage := by
  cases current : bridge.isCurrent request with
  | false => rw [launch_of_stale current]; rfl
  | true =>
      rw [launch_of_current current, if_pos rfl]
      rcases Storage.write bridge.storage (bridge.scratch.pathFor request.id)
        request.document.text with ⟨storage, cause | _⟩
      · rfl
      · dsimp only
        cases launcher storage
          (config.checkCommand (bridge.scratch.pathFor request.id)) with
        | error cause => rfl
        | ok _ => rfl

theorem storage_receive (bridge : Bridge σ) (generation : Nat)
    (event : ProcessEvent) :
    (bridge.receive generation event).1.storage = bridge.storage := by
  have receives := receives bridge generation event
  generalize bridge.receive generation event = done at receives
  cases receives <;> rfl

theorem storage_start (bridge : Bridge σ) (launcher : Launcher σ)
    (document : Document) (path : String) (config : Config) :
    (bridge.start launcher document path config).1.storage = bridge.storage := by
  have starts := starts bridge launcher document path config
  generalize bridge.start launcher document path config = done at starts
  cases starts <;> rfl

theorem storage_receiveAll (bridge : Bridge σ) (generation : Nat)
    (events : List ProcessEvent) :
    (bridge.receiveAll generation events).1.storage = bridge.storage := by
  induction events generalizing bridge with
  | nil => rfl
  | cons event events ih =>
      exact (ih _).trans (bridge.storage_receive generation event)

/-! ## The place for scratch files -/

theorem scratch_launch [Storage σ] (bridge : Bridge σ) (launcher : Launcher σ)
    (request : CheckRequest) (config : Config) :
    (bridge.launch launcher request config).1.scratch = bridge.scratch := by
  have launches := launches bridge launcher request config
  generalize bridge.launch launcher request config = done at launches
  cases launches <;> rfl

theorem scratch_start (bridge : Bridge σ) (launcher : Launcher σ)
    (document : Document) (path : String) (config : Config) :
    (bridge.start launcher document path config).1.scratch = bridge.scratch := by
  have starts := starts bridge launcher document path config
  generalize bridge.start launcher document path config = done at starts
  cases starts <;> rfl

theorem scratch_receive (bridge : Bridge σ) (generation : Nat)
    (event : ProcessEvent) :
    (bridge.receive generation event).1.scratch = bridge.scratch := by
  have receives := receives bridge generation event
  generalize bridge.receive generation event = done at receives
  cases receives <;> rfl

theorem scratch_receiveAll (bridge : Bridge σ) (generation : Nat)
    (events : List ProcessEvent) :
    (bridge.receiveAll generation events).1.scratch = bridge.scratch := by
  induction events generalizing bridge with
  | nil => rfl
  | cons event events ih =>
      exact (ih _).trans (bridge.scratch_receive generation event)

end Bridge

end ToolBridge
