import ToolBridge.Proofs.Bridge.DocumentView

/-!
# What a call does

The calls and what each can come to are listed here once, with everything
that is done to the state, to the scratch file and to the journal.  From the
list follows that the view of a document follows the calls of the document
by itself.
-/

namespace ToolBridge.Bridge

variable {σ : Type}

/-- What a call comes to: the next state, what is entered in the journal,
and what is seen. -/
inductive Yields [Storage σ] (history : History σ) :
    CheckerCall → Bridge σ → List Entry → List Effect → Prop where
  | ask (snapshot : Snapshot) :
      Yields history (.ask snapshot)
        { history.bridge with
          tickets := (history.bridge.tickets.issue snapshot.id).1
          publisher := (history.bridge.publisher.clear snapshot.id).1 }
        [.asked ⟨snapshot, history.bridge.tickets.issued + 1⟩]
        [.deliver ⟨snapshot.id, []⟩]
  /-- There is no such request. -/
  | unknown {id : String} {index : Nat} (config : Config)
      (answer : Except OsError Unit)
      (missing : (requestsOf id history.past)[index]? = none) :
      Yields history (.launch id index config answer) history.bridge [] []
  | stale {id : String} {index : Nat} {request : CheckRequest}
      (config : Config) (answer : Except OsError Unit)
      (found : (requestsOf id history.past)[index]? = some request)
      (outdated : history.bridge.isCurrent request = false) :
      Yields history (.launch id index config answer) history.bridge
        [.launched request config (.ok .superseded)] []
  | unwritten {id : String} {index : Nat} {request : CheckRequest}
      (config : Config) (answer : Except OsError Unit) {storage : σ}
      {cause : OsError}
      (found : (requestsOf id history.past)[index]? = some request)
      (current : history.bridge.isCurrent request = true)
      (written : Storage.write history.bridge.storage
        (history.bridge.scratch.pathFor id) request.document.text =
          (storage, .error cause)) :
      Yields history (.launch id index config answer)
        { history.bridge with storage }
        [.launched request config
          (.error (.scratch (history.bridge.scratch.pathFor id) cause))] []
  | refused {id : String} {index : Nat} {request : CheckRequest}
      (config : Config) (cause : OsError) {storage : σ}
      (found : (requestsOf id history.past)[index]? = some request)
      (current : history.bridge.isCurrent request = true)
      (written : Storage.write history.bridge.storage
        (history.bridge.scratch.pathFor id) request.document.text =
          (storage, .ok ())) :
      Yields history (.launch id index config (.error cause))
        { history.bridge with
          storage
          processes := (history.bridge.processes.vacate (.document id)).skip }
        [.launched request config (.error (.launch
          (config.checkCommand (history.bridge.scratch.pathFor id)).display
          cause))]
        (history.bridge.terminations (.document id))
  | started {id : String} {index : Nat} {request : CheckRequest}
      (config : Config) {storage : σ}
      (found : (requestsOf id history.past)[index]? = some request)
      (current : history.bridge.isCurrent request = true)
      (written : Storage.write history.bridge.storage
        (history.bridge.scratch.pathFor id) request.document.text =
          (storage, .ok ())) (command : Command) :
      Yields history (.launch id index config (.ok ()))
        { history.bridge with
          storage
          processes := history.bridge.processes.enter (.document id)
            (.check request config "") }
        [.launched request config
          (.ok (.started (history.bridge.processes.issued + 1)))]
        (history.bridge.terminations (.document id) ++
          [.launched ⟨.document id, history.bridge.processes.issued + 1,
            command⟩])
  /-- There is no such launch, or it started no process. -/
  | absent {id : String} {index : Nat} (event : ProcessEvent)
      (missing : ∀ attempt, (attemptsOf id history.past)[index]? = some attempt →
        ∀ generation, attempt.answer ≠ .ok (.started generation)) :
      Yields history (.receive id index event) history.bridge [] []
  /-- The process of the launch is no longer live. -/
  | shut {id : String} {index : Nat} {attempt : Attempt} {generation : Nat}
      (event : ProcessEvent)
      (found : (attemptsOf id history.past)[index]? = some attempt)
      (begun : attempt.answer = .ok (.started generation))
      (closed : history.bridge.processes.process? generation = none) :
      Yields history (.receive id index event) history.bridge
        [.received generation event] []
  | stdout {id : String} {index : Nat} {attempt : Attempt} {generation : Nat}
      {stderr : String} (line : String)
      (found : (attemptsOf id history.past)[index]? = some attempt)
      (begun : attempt.answer = .ok (.started generation))
      (live : history.bridge.processes.running? (.document id) =
        some ⟨generation, .check attempt.request attempt.config stderr⟩) :
      Yields history (.receive id index (.stdout line)) history.bridge
        [.received generation (.stdout line)] []
  | stderr {id : String} {index : Nat} {attempt : Attempt} {generation : Nat}
      {stderr : String} (line : String)
      (found : (attemptsOf id history.past)[index]? = some attempt)
      (begun : attempt.answer = .ok (.started generation))
      (live : history.bridge.processes.running? (.document id) =
        some ⟨generation, .check attempt.request attempt.config stderr⟩) :
      Yields history (.receive id index (.stderr line))
        { history.bridge with
          processes := history.bridge.processes.observe generation
            (.check attempt.request attempt.config (addLine stderr line)) }
        [.received generation (.stderr line)] []
  /-- The process ends and its request is no longer current. -/
  | outdated {id : String} {index : Nat} {attempt : Attempt} {generation : Nat}
      {stderr : String} (code : Option Int)
      (found : (attemptsOf id history.past)[index]? = some attempt)
      (begun : attempt.answer = .ok (.started generation))
      (live : history.bridge.processes.running? (.document id) =
        some ⟨generation, .check attempt.request attempt.config stderr⟩)
      (stale : history.bridge.isCurrent attempt.request = false) :
      Yields history (.receive id index (.exit code))
        { history.bridge with
          processes := history.bridge.processes.retire generation }
        [.received generation (.exit code)] [.checked generation .superseded]
  | checked {id : String} {index : Nat} {attempt : Attempt} {generation : Nat}
      {stderr : String} (code : Option Int)
      (found : (attemptsOf id history.past)[index]? = some attempt)
      (begun : attempt.answer = .ok (.started generation))
      (live : history.bridge.processes.running? (.document id) =
        some ⟨generation, .check attempt.request attempt.config stderr⟩)
      (current : history.bridge.isCurrent attempt.request = true) :
      Yields history (.receive id index (.exit code))
        { history.bridge with
          processes := history.bridge.processes.retire generation
          publisher := (history.bridge.published attempt.request
            (findingOf attempt.config stderr code)).1 }
        [.received generation (.exit code)]
        [.deliver (history.bridge.published attempt.request
            (findingOf attempt.config stderr code)).2,
          .checked generation
            (.ofFinding? (findingOf attempt.config stderr code))]
  | close (id : String) :
      Yields history (.close id)
        { history.bridge with
          tickets := history.bridge.tickets.forget id
          processes := history.bridge.processes.vacate (.document id)
          publisher := (history.bridge.publisher.clear id).1
          storage := (Storage.remove history.bridge.storage
            (history.bridge.scratch.pathFor id)).1 }
        [.closed id]
        (history.bridge.terminations (.document id) ++ [.deliver ⟨id, []⟩])

/-- A history with what a call came to. -/
def History.extend (history : History σ) (next : Bridge σ)
    (entries : List Entry) (effects : List Effect) : History σ :=
  { bridge := next
    past := history.past ++ entries
    effects := history.effects ++ effects }

section

variable {history : History σ} {id : String} {index : Nat}

/-- A view does not show that a process did something which nobody heard. -/
theorem view_unheard (generation : Nat) (event : ProcessEvent) :
    (history.extend history.bridge [.received generation event] []).view id =
      history.view id := by
  unfold History.view view History.extend
  dsimp only
  rw [requestsOf_of_none rfl, attemptsOf_of_none rfl, List.append_nil]

theorem mem_of_request_found {request : CheckRequest}
    (found : (requestsOf id history.past)[index]? = some request) :
    .asked request ∈ history.past ∧ request.id = id :=
  mem_requestsOf_iff.mp (List.mem_of_getElem? found)

theorem Sound.request?_of_found {request : CheckRequest}
    (sound : Sound history.bridge history.past history.effects)
    (found : (requestsOf id history.past)[index]? = some request) :
    history.request? request.ticket = some request := by
  obtain ⟨known, _⟩ := mem_of_request_found found
  cases other : history.request? request.ticket with
  | none =>
      have unlike := List.find?_eq_none.mp other request
        (List.mem_filterMap.mpr ⟨_, known, rfl⟩)
      simp at unlike
  | some issued =>
      have asked := History.asked_of_request? other
      have same : issued.ticket = request.ticket := by
        simpa using List.find?_some other
      rw [sound.recorded.tickets.distinct asked known same]

theorem Sound.yields_launch [Storage σ]
    (sound : Sound history.bridge history.past history.effects)
    (config : Config) (answer : Except OsError Unit) :
    ∃ next entries effects,
      Yields history (.launch id index config answer) next entries effects ∧
      history.carryOut (.launch id index config answer) =
        history.extend next entries effects := by
  cases found : (requestsOf id history.past)[index]? with
  | none =>
      refine ⟨_, _, _, .unknown config answer found, ?_⟩
      simp [History.carryOut, History.action?, found, History.extend]
  | some request =>
      obtain ⟨known, rfl⟩ := mem_of_request_found found
      have carried : history.carryOut (.launch request.id index config answer) =
          history.extend
            (history.bridge.launch (fun _ _ => answer) request config).1
            [.launched request config
              (history.bridge.launch (fun _ _ => answer) request config).2.1]
            (history.bridge.launch (fun _ _ => answer) request config).2.2 := by
        simp [History.carryOut, History.action?, found, History.advance,
          History.perform, sound.request?_of_found found, History.extend]
      rw [carried]
      cases current : history.bridge.isCurrent request with
      | false =>
          refine ⟨_, _, _, .stale config answer found current, ?_⟩
          simp [launch, current]
      | true =>
          rw [launch_of_current current]
          rcases written : Storage.write history.bridge.storage
            (history.bridge.scratch.pathFor request.id) request.document.text
            with ⟨storage, cause | _⟩
          · exact ⟨_, _, _, .unwritten config answer found current written, rfl⟩
          · cases answer with
            | error cause =>
                exact ⟨_, _, _, .refused config cause found current written, rfl⟩
            | ok _ =>
                exact ⟨_, _, _, .started config found current written _, rfl⟩

theorem Sound.yields_receive [Storage σ]
    (sound : Sound history.bridge history.past history.effects)
    (event : ProcessEvent) :
    ∃ next entries effects,
      Yields history (.receive id index event) next entries effects ∧
      history.carryOut (.receive id index event) =
        history.extend next entries effects := by
  by_cases missing :
      ∀ attempt, (attemptsOf id history.past)[index]? = some attempt →
        ∀ generation, attempt.answer ≠ .ok (.started generation)
  · refine ⟨_, _, _, .absent event missing, ?_⟩
    have idle : history.action? (.receive id index event) = none := by
      unfold History.action?
      dsimp only
      split
      · rename_i found
        exact absurd rfl (missing _ found _)
      · rfl
    simp [History.carryOut, idle, History.extend]
  · push Not at missing
    obtain ⟨attempt, found, generation, begun⟩ := missing
    obtain ⟨inside, rfl⟩ :=
      mem_attemptsOf_iff.mp (List.mem_of_getElem? found)
    have carried :
        history.carryOut (.receive attempt.request.id index event) =
          history.extend (history.bridge.receive generation event).1
            [.received generation event]
            (history.bridge.receive generation event).2 := by
      obtain ⟨request, config, answer⟩ := attempt
      cases begun
      simp [History.carryOut, History.action?, found, History.advance,
        History.perform, History.extend]
    rw [carried]
    rw [begun] at inside
    -- Of a process that was started, the journal knows whether it is live.
    obtain ⟨later, launched⟩ := Launched.of_mem inside
    rcases sound.recorded.answers launched with ⟨stderr, live⟩ | ⟨closed, _⟩
    · have seen := ProcessTable.observer?_eq_some_iff.mpr ⟨_, live⟩
      have running :
          history.bridge.processes.running? (.document attempt.request.id) =
            some ⟨generation, .check attempt.request attempt.config stderr⟩ :=
        ProcessTable.running?_eq_some_iff.mpr live
      cases event with
      | stdout line =>
          refine ⟨_, _, _, .stdout line found begun running, ?_⟩
          rw [receive, seen]
          rfl
      | stderr line =>
          refine ⟨_, _, _, .stderr line found begun running, ?_⟩
          rw [receive, seen]
          rfl
      | exit code =>
          cases current : history.bridge.isCurrent attempt.request with
          | false =>
              refine ⟨_, _, _, .outdated code found begun running current, ?_⟩
              rw [receive_exit_of_stale seen current]
          | true =>
              refine ⟨_, _, _, .checked code found begun running current, ?_⟩
              rw [receive_exit_of_current seen current]
    · refine ⟨_, _, _, .shut event found begun closed, ?_⟩
      have unseen : history.bridge.processes.observer? generation = none := by
        simp [ProcessTable.observer?, closed]
      rw [receive_of_shut unseen]

/-- Every call comes to one of the listed things. -/
theorem Sound.yields [Storage σ]
    (sound : Sound history.bridge history.past history.effects)
    (call : CheckerCall) :
    ∃ next entries effects, Yields history call next entries effects ∧
      history.carryOut call = history.extend next entries effects := by
  cases call with
  | ask snapshot => exact ⟨_, _, _, .ask snapshot, rfl⟩
  | launch id index config answer => exact sound.yields_launch config answer
  | receive id index event => exact sound.yields_receive event
  | close id => exact ⟨_, _, _, .close id, rfl⟩

/-! ## The view follows -/

theorem requests_of_found {request : CheckRequest}
    (found : (requestsOf id history.past)[index]? = some request) :
    (history.view id).requests[index]? =
      some (request.snapshot, history.bridge.isCurrent request) := by
  simp [History.view, view, found]

theorem launches_of_found {attempt : Attempt}
    (found : (attemptsOf id history.past)[index]? = some attempt) :
    (history.view id).launches[index]? =
      some (attempt.course (requestsOf id history.past)
        (history.bridge.processes.running? (.document id)) history.effects) := by
  simp [History.view, view, found]

variable {next : Bridge σ}

theorem requests_lapsed (bridge : Bridge σ) {requests : List CheckRequest}
    (stale : ∀ request ∈ requests, next.isCurrent request = false) :
    requests.map (fun request => (request.snapshot, next.isCurrent request)) =
      DocumentView.lapsed (requests.map fun request =>
        (request.snapshot, bridge.isCurrent request)) := by
  unfold DocumentView.lapsed
  rw [List.map_map]
  apply List.map_congr_left
  intro request member
  rw [stale request member]
  rfl

theorem requests_kept (same : next.tickets = history.bridge.tickets)
    (requests : List CheckRequest) :
    requests.map (fun request => (request.snapshot, next.isCurrent request)) =
      requests.map (fun request =>
        (request.snapshot, history.bridge.isCurrent request)) := by
  unfold isCurrent
  rw [same]

namespace Sound

variable (sound : Sound history.bridge history.past history.effects)

include sound

theorem view_ask (snapshot : Snapshot)
    (tickets : next.tickets = (history.bridge.tickets.issue snapshot.id).1)
    (publisher : next.publisher = (history.bridge.publisher.clear snapshot.id).1)
    (processes : next.processes = history.bridge.processes)
    (effects : List Effect) (path : String) (written : Except OsError Unit) :
    (history.extend next
        [.asked ⟨snapshot, history.bridge.tickets.issued + 1⟩] effects).view
        snapshot.id =
      (history.view snapshot.id).follow path written (.ask snapshot) := by
  have latest : next.tickets.latest.get? snapshot.id =
      some (history.bridge.tickets.issued + 1) := by
    rw [tickets]
    exact Dict.get?_insert_self _ _ _
  have current :
      next.isCurrent ⟨snapshot, history.bridge.tickets.issued + 1⟩ = true :=
    isCurrent_iff.mpr latest
  -- The new ticket is beyond those of all earlier requests.
  have stale : ∀ request ∈ requestsOf snapshot.id history.past,
      next.isCurrent request = false := by
    intro request member
    obtain ⟨known, same⟩ := mem_requestsOf_iff.mp member
    have bound := sound.recorded.tickets.bounded known
    apply Bool.eq_false_iff.mpr
    intro stays
    rw [isCurrent_iff, same, latest] at stays
    have ticket := Option.some.inj stays
    omega
  have grown : requestsOf snapshot.id (history.past ++
      [.asked ⟨snapshot, history.bridge.tickets.issued + 1⟩]) =
      requestsOf snapshot.id history.past ++
        [⟨snapshot, history.bridge.tickets.issued + 1⟩] :=
    requestsOf_asked history.past ⟨snapshot, _⟩
  have cleared : next.publisher.sets snapshot.id = {} := by
    rw [publisher, Publisher.sets_clear, if_pos rfl]
  unfold History.view view History.extend
  dsimp only [DocumentView.follow]
  rw [grown, attemptsOf_of_none rfl, processes, sound.courses_kept,
    sound.owner_kept, List.map_append, requests_lapsed history.bridge stale,
    cleared, List.map_singleton, current]

theorem view_enter {request : CheckRequest} (config : Config)
    {answer : Except Failure Launch} {fate : Fate}
    (found : (requestsOf id history.past)[index]? = some request)
    (tickets : next.tickets = history.bridge.tickets)
    (publisher : next.publisher = history.bridge.publisher)
    (processes : next.processes = history.bridge.processes)
    (kind : ∀ live seen, Attempt.fate live seen ⟨request, config, answer⟩ = fate) :
    (history.extend next [.launched request config answer] []).view id =
      (history.view id).enter ⟨index, config, fate⟩ := by
  obtain ⟨_, rfl⟩ := mem_of_request_found found
  have place := sound.idxOf_of_found found
  unfold History.view view History.extend DocumentView.enter
  dsimp only
  rw [requestsOf_of_none rfl, attemptsOf_launched, processes, publisher,
    requests_kept tickets, List.map_append, List.append_nil, List.map_singleton,
    Attempt.course, place, kind]

theorem view_refuse {request : CheckRequest} (config : Config)
    (failure : Failure)
    (found : (requestsOf id history.past)[index]? = some request)
    (tickets : next.tickets = history.bridge.tickets)
    (publisher : next.publisher = history.bridge.publisher)
    (processes : next.processes =
      (history.bridge.processes.vacate (.document id)).skip) :
    (history.extend next [.launched request config (.error failure)]
        (history.bridge.terminations (.document id))).view id =
      (history.view id).terminate.enter ⟨index, config, .failed failure⟩ := by
  obtain ⟨_, rfl⟩ := mem_of_request_found found
  have place := sound.idxOf_of_found found
  have empty : next.processes.running? (.document request.id) = none := by
    rw [processes]
    exact ProcessTable.running?_vacate_self
  have ended := sound.courses_terminated request.id none (by simp) []
  rw [List.append_nil] at ended
  unfold History.view view History.extend DocumentView.enter DocumentView.terminate
  dsimp only
  rw [requestsOf_of_none rfl, attemptsOf_launched, empty, publisher,
    requests_kept tickets, List.map_append, ended, List.map_singleton,
    Attempt.course, place]
  rfl

theorem view_start {request : CheckRequest} (config : Config)
    (found : (requestsOf id history.past)[index]? = some request)
    (tickets : next.tickets = history.bridge.tickets)
    (publisher : next.publisher = history.bridge.publisher)
    (processes : next.processes =
      history.bridge.processes.enter (.document id) (.check request config ""))
    (rest : List Effect) :
    (history.extend next
        [.launched request config
          (.ok (.started (history.bridge.processes.issued + 1)))]
        (history.bridge.terminations (.document id) ++ rest)).view id =
      { (history.view id).terminate.enter ⟨index, config, .running ""⟩ with
        live := true
        owner := some index } := by
  obtain ⟨_, rfl⟩ := mem_of_request_found found
  have place := sound.idxOf_of_found found
  have taken : next.processes.running? (.document request.id) =
      some ⟨history.bridge.processes.issued + 1, .check request config ""⟩ := by
    rw [processes]
    exact ProcessTable.running?_enter_self
  have ended := sound.courses_terminated request.id
    (some ⟨history.bridge.processes.issued + 1, .check request config ""⟩)
    (by simp) rest
  unfold History.view view History.extend DocumentView.enter DocumentView.terminate
  dsimp only
  rw [requestsOf_of_none rfl, attemptsOf_launched, taken, publisher,
    requests_kept tickets, List.map_append, ended, List.map_singleton,
    Attempt.course, place, Attempt.fate_of_live rfl, Option.bind_some]
  simp [Observer.request?, Observer.text, place]

theorem view_close (id : String)
    (tickets : next.tickets = history.bridge.tickets.forget id)
    (publisher : next.publisher = (history.bridge.publisher.clear id).1)
    (processes : next.processes =
      history.bridge.processes.vacate (.document id))
    (rest : List Effect) (path : String) (written : Except OsError Unit) :
    (history.extend next [.closed id]
        (history.bridge.terminations (.document id) ++ rest)).view id =
      (history.view id).follow path written (.close id) := by
  have stale : ∀ request ∈ requestsOf id history.past,
      next.isCurrent request = false := by
    intro request member
    obtain ⟨_, same⟩ := mem_requestsOf_iff.mp member
    apply Bool.eq_false_iff.mpr
    intro stays
    rw [isCurrent_iff, same, tickets, Sequencer.forget,
      Dict.get?_erase_self] at stays
    cases stays
  have empty : next.processes.running? (.document id) = none := by
    rw [processes]
    exact ProcessTable.running?_vacate_self
  have cleared : next.publisher.sets id = {} := by
    rw [publisher, Publisher.sets_clear, if_pos rfl]
  have ended := sound.courses_terminated id none (by simp) rest
  unfold History.view view History.extend
  dsimp only [DocumentView.follow, DocumentView.terminate]
  rw [requestsOf_of_none rfl, attemptsOf_of_none rfl, empty, cleared,
    requests_lapsed history.bridge stale, ended]
  rfl

/-! ## A process is heard -/

variable {attempt : Attempt} {generation : Nat} {stderr : String}

theorem view_line (line : String)
    (found : (attemptsOf id history.past)[index]? = some attempt)
    (begun : attempt.answer = .ok (.started generation))
    (live : history.bridge.processes.running? (.document id) =
      some ⟨generation, .check attempt.request attempt.config stderr⟩)
    (tickets : next.tickets = history.bridge.tickets)
    (publisher : next.publisher = history.bridge.publisher)
    (processes : next.processes = history.bridge.processes.observe generation
      (.check attempt.request attempt.config (addLine stderr line))) :
    (history.extend next [.received generation (.stderr line)] []).view id =
      (history.view id).hear index
        (attempt.course (requestsOf id history.past)
          (history.bridge.processes.running? (.document id)) history.effects)
        stderr (.stderr line) := by
  have heard : next.processes.running? (.document id) =
      some ⟨generation,
        .check attempt.request attempt.config (addLine stderr line)⟩ := by
    rw [processes]
    exact ProcessTable.running?_observe_self live
  have courses := sound.courses_heard found begun live
    (some ⟨generation,
      .check attempt.request attempt.config (addLine stderr line)⟩)
    (by simp) []
  rw [Attempt.course, Attempt.fate_of_live begun] at courses
  unfold History.view view History.extend
  dsimp only [DocumentView.hear]
  rw [requestsOf_of_none rfl, attemptsOf_of_none rfl, heard, publisher,
    requests_kept tickets, courses, live]
  rfl

theorem view_conclude {outcome : CheckOutcome} {sets : ChannelSets}
    (code : Option Int)
    (found : (attemptsOf id history.past)[index]? = some attempt)
    (begun : attempt.answer = .ok (.started generation))
    (live : history.bridge.processes.running? (.document id) =
      some ⟨generation, .check attempt.request attempt.config stderr⟩)
    (tickets : next.tickets = history.bridge.tickets)
    (shown : next.publisher.sets id = sets)
    (processes : next.processes = history.bridge.processes.retire generation)
    {effects : List Effect} (told : told? generation effects = some outcome) :
    (history.extend next [.received generation (.exit code)] effects).view id =
      { (history.view id).conclude index
          (attempt.course (requestsOf id history.past)
            (history.bridge.processes.running? (.document id))
            history.effects) outcome with
        sets } := by
  have empty : next.processes.running? (.document id) = none := by
    rw [processes]
    exact ProcessTable.running?_retire_self live
  -- The first verdict on a process counts, and there was none while it lived.
  have untold : told? generation history.effects = none := by
    rcases sound.live_or_told (List.mem_of_getElem? found) begun with
      ⟨_, _, untold⟩ | ⟨dead, _⟩
    · exact untold
    · exact absurd rfl (dead _ live)
  have courses := sound.courses_heard found begun live none (by simp) effects
  rw [Attempt.course, Attempt.fate_of_dead begun (by simp), told?_append, untold,
    told, Option.none_or] at courses
  unfold History.view view History.extend DocumentView.conclude
  dsimp only
  rw [requestsOf_of_none rfl, attemptsOf_of_none rfl, empty, shown,
    requests_kept tickets, courses]
  rfl

end Sound

theorem fate_of_heard {attempt : Attempt} {generation : Nat} {stderr : String}
    (begun : attempt.answer = .ok (.started generation))
    (live : history.bridge.processes.running? (.document id) =
      some ⟨generation, .check attempt.request attempt.config stderr⟩) :
    (attempt.course (requestsOf id history.past)
      (history.bridge.processes.running? (.document id))
      history.effects).fate = .running stderr := by
  rw [Attempt.course, live]
  exact Attempt.fate_of_live begun _

variable [Storage σ]

/-- A current request is written to the scratch file when it is launched. -/
theorem touch_of_found {request : CheckRequest}
    (found : (requestsOf id history.past)[index]? = some request)
    (current : history.bridge.isCurrent request = true) (path : String)
    (storage : σ) (config : Config) (answer : Except OsError Unit) :
    (history.view id).touch path storage (.launch id index config answer) =
      Storage.write storage path request.document.text := by
  simp only [DocumentView.touch, requests_of_found found, current]
  rfl

namespace Yields

variable {call : CheckerCall} {entries : List Entry} {effects : List Effect}

theorem scratch_eq (yields : Yields history call next entries effects) :
    next.scratch = history.bridge.scratch := by
  cases yields <;> rfl

/-- The call does to the scratch file what the view says. -/
theorem storage_eq (yields : Yields history call next entries effects) :
    next.storage =
      ((history.view call.id).touch
        (history.bridge.scratch.pathFor call.id) history.bridge.storage
        call).1 := by
  cases yields with
  | unknown config answer missing =>
      simp [DocumentView.touch, CheckerCall.id, History.view, view, missing]
  | stale config answer found outdated =>
      simp [DocumentView.touch, CheckerCall.id, requests_of_found found, outdated]
  | unwritten config answer found current written =>
      rw [CheckerCall.id, touch_of_found found current, written]
  | refused config cause found current written =>
      rw [CheckerCall.id, touch_of_found found current, written]
  | started config found current written =>
      rw [CheckerCall.id, touch_of_found found current, written]
  | _ => rfl

theorem view_eq
    (sound : Sound history.bridge history.past history.effects)
    (yields : Yields history call next entries effects) :
    (history.extend next entries effects).view call.id =
      (history.view call.id).follow
        (history.bridge.scratch.pathFor call.id)
        ((history.view call.id).touch
          (history.bridge.scratch.pathFor call.id) history.bridge.storage
          call).2 call := by
  cases yields with
  | ask snapshot =>
      apply sound.view_ask
      · rfl
      · rfl
      · rfl
  | @unknown id index config answer missing =>
      have absent : (history.view id).requests[index]? = none := by
        simp [History.view, view, missing]
      simp only [DocumentView.follow, CheckerCall.id, absent]
      simp [History.extend, History.view]
  | stale config answer found outdated =>
      simp only [DocumentView.follow, CheckerCall.id, requests_of_found found, outdated]
      apply sound.view_enter config found rfl rfl rfl
      intro live seen
      rfl
  | unwritten config answer found current written =>
      rw [CheckerCall.id, touch_of_found found current, written]
      simp only [DocumentView.follow, requests_of_found found, current]
      apply sound.view_enter config found rfl rfl rfl
      intro live seen
      rfl
  | refused config cause found current written =>
      rw [CheckerCall.id, touch_of_found found current, written]
      simp only [DocumentView.follow, requests_of_found found, current]
      apply sound.view_refuse config _ found
      · rfl
      · rfl
      · rfl
  | started config found current written =>
      rw [CheckerCall.id, touch_of_found found current, written]
      simp only [DocumentView.follow, requests_of_found found, current]
      apply sound.view_start config found
      · rfl
      · rfl
      · rfl
  | @absent id index event missing =>
      rw [DocumentView.follow_receive_of_idle]
      · simp [History.extend, History.view]
      · intro course found stderr running
        cases tried : (attemptsOf id history.past)[index]? with
        | none => simp [CheckerCall.id, History.view, view, tried] at found
        | some attempt =>
            rw [CheckerCall.id, launches_of_found tried] at found
            cases found
            exact Attempt.fate_ne_running (missing _ tried) _ _ _ running
  | shut event found begun closed =>
      rw [CheckerCall.id, view_unheard, DocumentView.follow_receive_of_idle]
      rw [launches_of_found found]
      rintro course ⟨⟩ stderr
      rw [Attempt.course, Attempt.fate_of_dead begun]
      · simp
      · rintro running live rfl
        rw [ProcessTable.running?_eq_some_iff, closed] at live
        cases live
  | stdout line found begun live =>
      rw [CheckerCall.id, view_unheard,
        DocumentView.follow_receive_of_running (launches_of_found found)
          (fate_of_heard begun live)]
      rfl
  | stderr line found begun live =>
      rw [CheckerCall.id,
        DocumentView.follow_receive_of_running (launches_of_found found)
          (fate_of_heard begun live)]
      apply sound.view_line line found begun live
      · rfl
      · rfl
      · rfl
  | outdated code found begun live stale =>
      have place := sound.found_of_attempt (List.mem_of_getElem? found)
      rw [CheckerCall.id,
        DocumentView.follow_receive_of_running (launches_of_found found)
          (fate_of_heard begun live)]
      simp only [DocumentView.hear, Attempt.course, requests_of_found place, stale]
      apply sound.view_conclude code found begun live
      · rfl
      · rfl
      · rfl
      · simp [told?, Effect.verdict?]
  | @checked id index attempt generation stderr code found begun live current =>
      have place := sound.found_of_attempt (List.mem_of_getElem? found)
      have same := (mem_attemptsOf_iff.mp (List.mem_of_getElem? found)).2
      have shown :
          (history.bridge.published attempt.request
            (findingOf attempt.config stderr code)).1.sets id =
            (history.bridge.publisher.sets id).set .check
              (diagnosticsOf attempt.request
                (findingOf attempt.config stderr code)) := by
        rw [published, Publisher.sets_replace, if_pos same, same]
      rw [CheckerCall.id,
        DocumentView.follow_receive_of_running (launches_of_found found)
          (fate_of_heard begun live)]
      simp only [DocumentView.hear, Attempt.course, requests_of_found place, current]
      apply sound.view_conclude code found begun live
      · rfl
      · exact shown
      · rfl
      · simp [told?, List.findSome?_cons, Effect.verdict?]
  | close id =>
      apply sound.view_close
      · rfl
      · rfl
      · rfl

end Yields

end

end ToolBridge.Bridge
