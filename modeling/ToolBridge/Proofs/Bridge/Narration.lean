import ToolBridge.Proofs.Bridge.ActiveRun
import ToolBridge.Proofs.Bridge.Chapters
import ToolBridge.Proofs.Bridge.Supersession
import ToolBridge.Proofs.Document.Places

/-!
# The narration of the runs

What a bridge tells the user of the runs comes from three places: the start of
a run, the order to stop it, and the end of its process.  Here all of it, in the
order in which it is told, is shown to be the chapters of the runs, one after
the other.  Checks may go on beside the runs; of what is delivered, the log holds
what a run says on its own channel.
-/

namespace ToolBridge

/-- What an effect asks of the console, of the cursor or, unless it comes from
a check, of the channel of the runs. -/
def Effect.call? (ofCheck : Bool) : Effect → Option Effect
  | .console event => some (.console event)
  | .navigate id position => some (.navigate id position)
  | .deliver delivery =>
      if ofCheck then none
      else
        some (.deliver ⟨delivery.id, delivery.diagnostics.filter fun diagnostic =>
          diagnostic.channel = .run⟩)
  | _ => none

namespace Bridge

open ToolBridge.Text

variable {σ : Type} {bridge next : Bridge σ} {generation : Nat} {slot : Slot}
  {observer : Observer}

/-- The start of a run by its answer.  One that is refused for its path is
none. -/
def Turn.ofAnswer? (document : Document) (path extension : String) :
    Except Failure Nat → Option Turn
  | .ok generation => some (.begun document path extension (some generation))
  | .error (.notSource _ _) => none
  | .error _ => some (.begun document path extension none)

/-- What the log depends on of a process in the slot of the runs. -/
def liveRunOf (running : Running Observer) : Option LiveRun :=
  match running.observer with
  | .run _ document extension stderr =>
      some ⟨running.generation, document, extension, stderr⟩
  | .check _ _ _ => none

def liveRun? (bridge : Bridge σ) : Option LiveRun :=
  (bridge.processes.running? .interactive).bind liveRunOf

namespace History

variable [Storage σ]

/-- Is the action one of the checks? -/
def ofCheck (history : History σ) : Action σ → Bool
  | .ask _ => true
  | .launch _ _ _ => true
  | .close _ => true
  | .receive generation _ =>
      match history.bridge.processes.observer? generation with
      | some (.check _ _ _) => true
      | _ => false
  | _ => false

/-- What an action asks of the console, of the cursor and of the channel of the
runs, in this order. -/
def calls (history : History σ) (action : Action σ) : List Effect :=
  (history.perform action).2.2.filterMap
    (Effect.call? (history.ofCheck action))

/-- The turn that things take for the runs with an action. -/
def turn? (history : History σ) : Action σ → Option Turn
  | .start launcher document path config =>
      Turn.ofAnswer? document path config.extension
        (history.bridge.start launcher document path config).2.1
  | .stop => some .stopped
  | .receive generation event => some (.heard generation event)
  | .killAll => some .killed
  | _ => none

end History

/-- A history with the turns that things took for the runs and the log. -/
structure Session (σ : Type) where
  history : History σ
  turns : List Turn := []
  log : List Effect := []

namespace Session

variable [Storage σ]

def advance (session : Session σ) (action : Action σ) : Session σ where
  history := session.history.advance action
  turns := session.turns ++ (session.history.turn? action).toList
  log := session.log ++ session.history.calls action

/-- The session of a sequence of actions, from a bridge that has done
nothing. -/
def after (storage : σ) (scratch : Scratch) (actions : List (Action σ)) :
    Session σ :=
  actions.foldl advance { history := { bridge := { storage, scratch } } }

theorem after_append_singleton (storage : σ) (scratch : Scratch)
    (actions : List (Action σ)) (action : Action σ) :
    after storage scratch (actions ++ [action]) =
      (after storage scratch actions).advance action :=
  List.foldl_append

theorem history_after (storage : σ) (scratch : Scratch)
    (actions : List (Action σ)) :
    (after storage scratch actions).history =
      History.after storage scratch actions := by
  induction actions using List.reverseRecOn with
  | nil => rfl
  | append_singleton actions action ih =>
      rw [after_append_singleton, History.after_append_singleton, ← ih]
      rfl

end Session

/-! ## What the effects say -/

theorem calls_terminated (ofCheck : Bool) (running : Running Observer) :
    (Observer.terminated running).call? ofCheck = none := by
  obtain ⟨generation, observer⟩ := running
  cases observer with
  | check => rfl
  | run => rfl

theorem calls_terminations (ofCheck : Bool) (bridge : Bridge σ) (slot : Slot) :
    (bridge.terminations slot).filterMap (Effect.call? ofCheck) = [] := by
  unfold terminations
  cases bridge.processes.running? slot with
  | none => rfl
  | some running => simp [calls_terminated]

theorem liveRun?_isSome (registered : Registered bridge) :
    bridge.liveRun?.isSome = (bridge.processes.running? .interactive).isSome := by
  unfold liveRun?
  cases live : bridge.processes.running? .interactive with
  | none => rfl
  | some running =>
      have known := ProcessTable.running?_eq_some_iff.mp live
      obtain ⟨generation, observer⟩ := running
      obtain ⟨number, document, extension, stderr, rfl⟩ := registered.run known
      rfl

theorem calls_dismissal (registered : Registered bridge) :
    bridge.dismissal.filterMap (Effect.call? false) =
      if bridge.liveRun?.isSome then [.line Console.terminating] else [] := by
  rw [liveRun?_isSome registered]
  unfold dismissal
  cases bridge.processes.running? .interactive with
  | none => rfl
  | some running =>
      dsimp only
      rw [List.filterMap_cons_none (calls_terminated false running)]
      rfl

theorem liveRun?_of_process? {number : Nat} {document : Document}
    {extension stderr : String}
    (live : bridge.processes.process? generation =
      some (.interactive, .run number document extension stderr)) :
    bridge.liveRun? = some ⟨generation, document, extension, stderr⟩ := by
  have running : bridge.processes.running? .interactive =
      some ⟨generation, .run number document extension stderr⟩ :=
    ProcessTable.running?_eq_some_iff.mpr live
  rw [liveRun?, running]
  rfl

theorem process?_of_liveRun? {run : LiveRun} (live : bridge.liveRun? = some run) :
    ∃ number, bridge.processes.process? run.generation =
      some (.interactive,
        .run number run.document run.extension run.stderr) := by
  obtain ⟨⟨generation, observer⟩, running, same⟩ :=
    Option.bind_eq_some_iff.mp live
  have known := ProcessTable.running?_eq_some_iff.mp running
  cases observer with
  | check => cases same
  | run number document extension stderr =>
      cases same
      exact ⟨number, known⟩

/-- Where nothing but another slot changes, the live run stays. -/
theorem liveRun?_congr
    (same : next.processes.running? .interactive =
      bridge.processes.running? .interactive) :
    next.liveRun? = bridge.liveRun? := by
  rw [liveRun?, liveRun?, same]

/-- The process of a check, or one that is not live, is not that of the live
run. -/
theorem tells_unheard
    (unlike : ∀ number document extension stderr,
      bridge.processes.observer? generation ≠
        some (.run number document extension stderr))
    (event : ProcessEvent) :
    Tells bridge.liveRun? (.heard generation event) [] bridge.liveRun? := by
  cases live : bridge.liveRun? with
  | none => exact .idle (by simp)
  | some run =>
      refine .other run event ?_
      rintro rfl
      obtain ⟨number, known⟩ := process?_of_liveRun? live
      exact unlike _ _ _ _ (ProcessTable.observer?_eq_some_iff.mpr ⟨_, known⟩)

/-! ## The end of a run -/

/-- The check channel of a document holds diagnostics of checks only. -/
def Channelled (bridge : Bridge σ) : Prop :=
  ∀ id, ∀ diagnostic ∈ (bridge.publisher.sets id).check,
    diagnostic.channel = .check

theorem channelled_of_displayed {past : List Entry}
    (displayed : Displayed bridge past) : Channelled bridge := by
  intro id diagnostic member
  rcases displayed id with empty | ⟨request, _, _, _, _, finding, _, _, _, shown⟩
  · rw [empty] at member
    cases member
  · rw [shown] at member
    rw [List.mem_singleton.mp member]
    rfl

/-- Of what is delivered when a run has ended, only what it found is said on the
channel of the runs. -/
theorem Channelled.filter_union (channelled : Channelled bridge) (id : String)
    {finding : Option Diagnostic}
    (own : ∀ diagnostic ∈ finding.toList, diagnostic.channel = .run) :
    ((afterRun (bridge.publisher.sets id) finding).union).filter
        (fun diagnostic => diagnostic.channel = .run) = finding.toList := by
  have checks : (bridge.publisher.sets id).check.filter
      (fun diagnostic => diagnostic.channel = .run) = [] := by
    apply List.filter_eq_nil_iff.mpr
    intro diagnostic member
    simp [channelled id diagnostic member]
  have runs : finding.toList.filter
      (fun diagnostic => diagnostic.channel = .run) = finding.toList := by
    apply List.filter_eq_self.mpr
    intro diagnostic member
    simp [own diagnostic member]
  rw [ChannelSets.union_eq, List.filter_append, check_afterRun, run_afterRun, checks,
    runs, List.nil_append]

/-- The cursor goes to the start of the diagnostic, located or not. -/
theorem runDiagnostic_position (document : Document)
    (extension message : String) :
    (runDiagnostic document extension message).2 =
      (runDiagnostic document extension message).1.range.start := by
  unfold runDiagnostic
  cases locateSourcePath extension message with
  | some location => rfl
  | none => exact (positionAt_zero document.text.toList).symm

theorem calls_finishRun (channelled : Channelled bridge) (generation number : Nat)
    (document : Document) (extension stderr : String) (code : Option Int) :
    (bridge.finishRun generation number document extension stderr
        code).2.filterMap (Effect.call? false) =
      parting document extension stderr := by
  unfold finishRun parting
  rw [settleRun_eq]
  cases isBlankText stderr.toList with
  | true =>
      have cleared : ((bridge.publisher.sets document.id).remove .run).union.filter
          (fun diagnostic => diagnostic.channel = .run) = [] :=
        channelled.filter_union document.id (by simp : ∀ _ ∈ Option.toList none, _)
      simp [finishCleanRun, Publisher.clearChannel, Publisher.put, Effect.call?,
        Effect.line, cleared]
  | false =>
      rw [if_neg Bool.false_ne_true, if_neg Bool.false_ne_true]
      generalize String.ofList (trimLineBreaks stderr.toList) = message
      have own : ∀ diagnostic ∈
          (some (runDiagnostic document extension message).1).toList,
          diagnostic.channel = .run := by
        intro diagnostic member
        rw [List.mem_singleton.mp member]
        exact rfl
      change [Effect.line message,
        .deliver ⟨document.id,
          ((bridge.publisher.sets document.id).set .run
            [(runDiagnostic document extension message).1]).union.filter _⟩,
        .navigate document.id (some (runDiagnostic document extension message).2),
        .line Console.exited] = _
      have shown := channelled.filter_union document.id own
      rw [afterRun, Option.toList_some] at shown
      rw [shown, runDiagnostic_position]
      rfl

theorem calls_exit (channelled : Channelled bridge) {number : Nat}
    {document : Document} {extension stderr : String}
    (seen : bridge.processes.observer? generation =
      some (.run number document extension stderr)) (code : Option Int) :
    (bridge.receive generation (.exit code)).2.filterMap (Effect.call? false) =
      parting document extension stderr := by
  -- The process is retired before the end of its run is told.
  let retired : Bridge σ :=
    { bridge with processes := bridge.processes.retire generation }
  have still : Channelled retired := channelled
  rw [receive, seen]
  exact calls_finishRun still generation number document extension stderr code

/-! ## What one action tells -/

theorem Registered.process?_ne (registered : Registered bridge)
    {request : CheckRequest} {config : Config} {stderr : String}
    (seen : bridge.processes.observer? generation =
      some (.check request config stderr)) (observer : Observer) :
    bridge.processes.process? generation ≠ some (.interactive, observer) := by
  intro live
  obtain ⟨_, _, _, _, rfl⟩ := registered.run live
  rw [ProcessTable.observer?_eq_some_iff.mpr ⟨_, live⟩] at seen
  cases seen

theorem tells_check (registered : Registered bridge) {request : CheckRequest}
    {config : Config} {stderr : String}
    (seen : bridge.processes.observer? generation =
      some (.check request config stderr)) (event : ProcessEvent) :
    Tells bridge.liveRun? (.heard generation event)
      ((bridge.receive generation event).2.filterMap (Effect.call? true))
      (bridge.receive generation event).1.liveRun? := by
  have other := registered.process?_ne seen
  have silent :
      (bridge.receive generation event).2.filterMap (Effect.call? true) = [] ∧
        (bridge.receive generation event).1.liveRun? = bridge.liveRun? := by
    have receives := receives bridge generation event
    generalize bridge.receive generation event = done at receives
    cases receives with
    | shut => exact ⟨rfl, rfl⟩
    | stdout line known =>
        rw [seen] at known
        cases known
        exact ⟨rfl, rfl⟩
    | stderr =>
        exact ⟨rfl, liveRun?_congr (ProcessTable.running?_observe_of_ne other)⟩
    | outdated =>
        exact ⟨rfl, liveRun?_congr (ProcessTable.running?_retire_of_ne other)⟩
    | checked =>
        exact ⟨rfl, liveRun?_congr (ProcessTable.running?_retire_of_ne other)⟩
    | ended code known =>
        rw [seen] at known
        cases known
  rw [silent.1, silent.2]
  apply tells_unheard
  intro number document extension text known
  rw [seen] at known
  cases known

theorem tells_run (channelled : Channelled bridge) {number : Nat}
    {document : Document} {extension stderr : String}
    (live : bridge.processes.process? generation =
      some (.interactive, .run number document extension stderr))
    (event : ProcessEvent) :
    Tells bridge.liveRun? (.heard generation event)
      ((bridge.receive generation event).2.filterMap (Effect.call? false))
      (bridge.receive generation event).1.liveRun? := by
  have seen := ProcessTable.observer?_eq_some_iff.mpr ⟨_, live⟩
  have running : bridge.processes.running? .interactive =
      some ⟨generation, .run number document extension stderr⟩ :=
    ProcessTable.running?_eq_some_iff.mpr live
  rw [liveRun?_of_process? live]
  cases event with
  | stdout line =>
      rw [receive, seen]
      dsimp only
      rw [liveRun?_of_process? live]
      exact .stdout ⟨generation, document, extension, stderr⟩ line
  | stderr line =>
      rw [receive, seen]
      dsimp only [observeStderr]
      rw [liveRun?, ProcessTable.running?_observe_self running]
      exact .stderr ⟨generation, document, extension, stderr⟩ line
  | exit code =>
      have after : (bridge.receive generation (.exit code)).1.liveRun? = none := by
        have receives := receives bridge generation (.exit code)
        generalize bridge.receive generation (.exit code) = done at receives
        cases receives with
        | shut _ closed =>
            rw [seen] at closed
            cases closed
        | _ =>
            rw [liveRun?, ProcessTable.running?_retire_self running]
            rfl
      rw [calls_exit channelled seen, after]
      exact .exit ⟨generation, document, extension, stderr⟩ code

theorem tells_stop (registered : Registered bridge) :
    Tells bridge.liveRun? .stopped
      (bridge.stop.2.2.filterMap (Effect.call? false)) bridge.stop.1.liveRun? := by
  have after : bridge.stop.1.liveRun? = none := by
    rw [stop_eq, liveRun?, ProcessTable.running?_vacate_self]
    rfl
  rw [after, stop_eq, List.filterMap_append, calls_dismissal registered]
  cases live : bridge.liveRun? with
  | none =>
      have idle : (bridge.processes.running? .interactive).isSome = false := by
        rw [← liveRun?_isSome registered, live]
        rfl
      rw [returning, if_neg (Bool.eq_false_iff.mp idle)]
      refine .idle ?_
      simp
  | some run =>
      obtain ⟨number, known⟩ := process?_of_liveRun? live
      have running : (bridge.processes.running? .interactive).isSome = true := by
        rw [← liveRun?_isSome registered, live]
        rfl
      rw [returning, if_pos running, activeDocument, (registered.active known).2]
      exact .stopped run

theorem tells_killAll (bridge : Bridge σ) :
    Tells bridge.liveRun? .killed
      (bridge.killAll.2.filterMap (Effect.call? false))
      bridge.killAll.1.liveRun? := by
  have after : bridge.killAll.1.liveRun? = none := by
    refine Option.eq_none_iff_forall_ne_some.mpr ?_
    intro run live
    obtain ⟨number, known⟩ := process?_of_liveRun? live
    exact ProcessTable.process?_killAll known
  have silent : bridge.killAll.2.filterMap (Effect.call? false) = [] := by
    refine List.filterMap_eq_nil_iff.mpr ?_
    intro effect member
    obtain ⟨running, _, rfl⟩ := List.mem_map.mp member
    exact calls_terminated false running
  rw [after, silent]
  cases bridge.liveRun? with
  | none => exact .idle (by simp)
  | some run => exact .killed run

theorem tells_begun (registered : Registered bridge) (document : Document)
    {path : String} (extension : String) {generation : Option Nat}
    {effects : List Effect}
    (said : effects.filterMap (Effect.call? false) =
      bridge.dismissal.filterMap (Effect.call? false) ++
        [.console .clear, .console .reveal, .line (Console.running path)])
    (lives : next.liveRun? =
      generation.map fun generation => ⟨generation, document, extension, ""⟩) :
    Tells bridge.liveRun? (.begun document path extension generation)
      (effects.filterMap (Effect.call? false)) next.liveRun? := by
  rw [said, lives, calls_dismissal registered]
  exact .begun _ _ _ _ _

/-- What an action adds to the log, and which run is live after it: what its
turn tells, and nothing if it is no turn. -/
def Told (was : Option LiveRun) (turn? : Option Turn) (told : List Effect)
    (live : Option LiveRun) : Prop :=
  match turn? with
  | some turn => Tells was turn told live
  | none => told = [] ∧ live = was

theorem Told.chapters {was live : Option LiveRun} {turn? : Option Turn}
    {told : List Effect} {turns : List Turn} (telling : Told was turn? told live)
    (lives : lastLive? (chapters turns) = was) :
    (chapters (turns ++ turn?.toList)).flatMap Chapter.calls =
        (chapters turns).flatMap Chapter.calls ++ told ∧
      lastLive? (chapters (turns ++ turn?.toList)) = live := by
  cases turn? with
  | none =>
      obtain ⟨rfl, rfl⟩ := telling
      simp only [Option.toList_none, List.append_nil]
      exact ⟨trivial, lives⟩
  | some turn =>
      rw [Option.toList_some, chapters_append_singleton]
      exact Tells.continued telling lives

variable [Storage σ] {history : History σ}

theorem told_start (registered : Registered history.bridge)
    (launcher : Launcher σ) (document : Document) (path : String)
    (config : Config) :
    Told history.bridge.liveRun?
      (history.turn? (.start launcher document path config))
      (history.calls (.start launcher document path config))
      (history.advance (.start launcher document path config)).bridge.liveRun? := by
  have starts := starts history.bridge launcher document path config
  change Told _
    (Turn.ofAnswer? document path config.extension
      (history.bridge.start launcher document path config).2.1)
    ((history.bridge.start launcher document path config).2.2.filterMap
      (Effect.call? false))
    (history.bridge.start launcher document path config).1.liveRun?
  generalize history.bridge.start launcher document path config = done at starts
  cases starts with
  | refused => exact ⟨rfl, rfl⟩
  | started =>
      refine tells_begun registered document config.extension ?_ ?_
      · rw [List.filterMap_append, List.filterMap_append, List.append_assoc]
        rfl
      · rw [liveRun?, ProcessTable.running?_enter_self]
        rfl
  | failed =>
      refine tells_begun registered document config.extension ?_ ?_
      · rw [List.filterMap_append]
        rfl
      · rw [liveRun?, ProcessTable.running?_skip,
          ProcessTable.running?_vacate_self]
        rfl

theorem silent_launch {bridge : Bridge σ} (launcher : Launcher σ)
    (request : CheckRequest) (config : Config) :
    (bridge.launch launcher request config).2.2.filterMap (Effect.call? true) =
        [] ∧
      (bridge.launch launcher request config).1.liveRun? = bridge.liveRun? := by
  have other : Slot.interactive ≠ .document request.id := by simp
  have launches := launches bridge launcher request config
  generalize bridge.launch launcher request config = done at launches
  cases launches with
  | stale => exact ⟨rfl, rfl⟩
  | unwritten => exact ⟨rfl, rfl⟩
  | started =>
      refine ⟨?_, liveRun?_congr (ProcessTable.running?_enter_of_ne other)⟩
      rw [List.filterMap_append, calls_terminations]
      rfl
  | refused =>
      exact ⟨calls_terminations _ _ _,
        liveRun?_congr (ProcessTable.running?_vacate_of_ne other)⟩

theorem told_perform (registered : Registered history.bridge)
    (channelled : Channelled history.bridge) (action : Action σ) :
    Told history.bridge.liveRun? (history.turn? action) (history.calls action)
      (history.advance action).bridge.liveRun? := by
  cases action with
  | ask snapshot => exact ⟨rfl, rfl⟩
  | launch launcher ticket config =>
      unfold History.calls History.advance
      cases found : history.request? ticket with
      | none =>
          simp only [History.perform, found]
          exact ⟨rfl, rfl⟩
      | some request =>
          simp only [History.perform, found]
          exact silent_launch launcher request config
  | receive generation event =>
      change Tells _ _ ((history.bridge.receive generation event).2.filterMap
          (Effect.call? (history.ofCheck (.receive generation event))))
        (history.bridge.receive generation event).1.liveRun?
      cases seen : history.bridge.processes.observer? generation with
      | none =>
          rw [receive_of_shut seen]
          exact tells_unheard (by simp [seen]) event
      | some observer =>
          cases observer with
          | check =>
              have own : history.ofCheck (.receive generation event) = true := by
                simp only [History.ofCheck, seen]
              rw [own]
              exact tells_check registered seen event
          | run =>
              have own : history.ofCheck (.receive generation event) = false := by
                simp only [History.ofCheck, seen]
              rw [own]
              obtain ⟨slot, live⟩ := ProcessTable.observer?_eq_some_iff.mp seen
              obtain ⟨rfl, _⟩ := registered.active live
              exact tells_run channelled live event
  | close id =>
      obtain ⟨storage, answer, closing⟩ := close_eq history.bridge id
      have other : Slot.interactive ≠ .document id := by simp
      unfold History.calls History.advance
      simp only [History.perform, closing]
      refine ⟨?_, liveRun?_congr (ProcessTable.running?_vacate_of_ne other)⟩
      rw [List.filterMap_append, calls_terminations]
      rfl
  | start launcher document path config =>
      exact told_start registered launcher document path config
  | stop => exact tells_stop registered
  | retarget directory extension => exact ⟨rfl, rfl⟩
  | disturb storage => exact ⟨rfl, rfl⟩
  | killAll => exact tells_killAll history.bridge

/-! ## Every session -/

/-- The log of a session is that of its chapters, and the chapters are those of
its runs. -/
structure RunLogShaped (session : Session σ) : Prop where
  log : session.log = (chapters session.turns).flatMap Chapter.calls
  /-- The run that is live is that of the last chapter. -/
  live : session.history.bridge.liveRun? = lastLive? (chapters session.turns)
  starts : (chapters session.turns).map Chapter.start =
    session.turns.filter Turn.isBegun

/-- Whatever is done with a bridge in whatever order, what the user is told of
the runs is one chapter after the other, one for each start. -/
theorem runLogShaped_after (storage : σ) (scratch : Scratch)
    (actions : List (Action σ)) :
    RunLogShaped (Session.after storage scratch actions) := by
  induction actions using List.reverseRecOn with
  | nil => exact ⟨rfl, rfl, rfl⟩
  | append_singleton actions action ih =>
      have registered := registered_after storage scratch actions
      have displayed := displayed_after storage scratch actions
      rw [← Session.history_after] at registered displayed
      have told :=
        told_perform registered (channelled_of_displayed displayed) action
      -- Which chapter the action belongs to depends on the run that is live.
      obtain ⟨said, live⟩ := told.chapters ih.live.symm
      rw [Session.after_append_singleton]
      refine ⟨?_, live.symm, starts_chapters _⟩
      exact (congrArg (· ++ _) ih.log).trans said.symm

end Bridge

end ToolBridge
