import ToolBridge.Proofs.Bridge.Records

/-!
# The view of a document

Everything that can be seen of one document, told without the numbers that all
documents share: its diagnostics, its requests in the order in which they were
issued, its launches in the order in which they were tried, and which request
has a live process.  A call names a request or a launch by its place in that
order.

A view follows the calls of its document by itself.  All it has to be told
is how the scratch file took what was asked of it.
-/

namespace ToolBridge

/-- The error text that a process wrote so far. -/
def Observer.text : Observer → String
  | check _ _ stderr => stderr
  | run _ _ _ stderr => stderr

/-- The request that a process was started for. -/
def Observer.request? : Observer → Option CheckRequest
  | check request _ _ => some request
  | run _ _ _ _ => none

/-- What an effect says of the check of a process. -/
def Effect.verdict? (generation : Nat) : Effect → Option CheckOutcome
  | checked other outcome => if other = generation then some outcome else none
  | _ => none

namespace Bridge

/-- Something that is done for one document, or by one of its processes.
Requests and launches are counted within the document. -/
inductive CheckerCall where
  | ask (snapshot : Snapshot)
  /-- Launch a request, given the system's answer to the command. -/
  | launch (id : String) (request : Nat) (config : Config)
      (answer : Except OsError Unit)
  /-- The process of a launch did something. -/
  | receive (id : String) (launch : Nat) (event : ProcessEvent)
  | close (id : String)

def CheckerCall.id : CheckerCall → String
  | ask snapshot => snapshot.id
  | launch id _ _ _ => id
  | receive id _ _ => id
  | close id => id

/-- What became of a launch. -/
inductive Fate where
  /-- The request was stale and nothing was done. -/
  | stale
  | failed (failure : Failure)
  /-- The process is live and wrote an error text so far. -/
  | running (stderr : String)
  /-- The process is not live, and this is what was told of it. -/
  | ended (outcome : Option CheckOutcome)
  deriving DecidableEq, Repr

/-- A live process is terminated from outside. -/
def Fate.terminate : Fate → Fate
  | running _ => ended (some .superseded)
  | fate => fate

/-- A launch of a request and what became of it. -/
structure Course where
  request : Nat
  config : Config
  fate : Fate
  deriving DecidableEq, Repr

def Course.terminate (course : Course) : Course :=
  { course with fate := course.fate.terminate }

/-- What can be seen of a document. -/
@[ext] structure DocumentView where
  sets : ChannelSets
  /-- The requests, and whether they are current. -/
  requests : List (Snapshot × Bool)
  launches : List Course
  /-- Is a process live in the slot of the document? -/
  live : Bool
  /-- The request that has the slot. -/
  owner : Option Nat
  deriving DecidableEq, Repr

namespace DocumentView

/-- The requests after one that makes them stale. -/
def lapsed (requests : List (Snapshot × Bool)) : List (Snapshot × Bool) :=
  requests.map fun request => (request.1, false)

def terminate (view : DocumentView) : DocumentView :=
  { view with
    launches := view.launches.map Course.terminate
    live := false
    owner := none }

def enter (view : DocumentView) (course : Course) : DocumentView :=
  { view with launches := view.launches ++ [course] }

/-- The live process of a launch ends with an outcome. -/
def conclude (view : DocumentView) (launch : Nat) (course : Course)
    (outcome : CheckOutcome) : DocumentView :=
  { view with
    launches := view.launches.set launch
      { course with fate := .ended (some outcome) }
    live := false
    owner := none }

/-- The live process of a launch did something. -/
def hear (view : DocumentView) (launch : Nat) (course : Course)
    (stderr : String) : ProcessEvent → DocumentView
  | .stdout _ => view
  | .stderr line =>
      { view with
        launches := view.launches.set launch
          { course with fate := .running (addLine stderr line) } }
  | .exit code =>
      match view.requests[course.request]? with
      | some (snapshot, true) =>
          let finding := findingOf course.config stderr code
          let diagnostics :=
            (finding.map fun finding =>
              finding.diagnostic snapshot.document).toList
          { view.conclude launch course (.ofFinding? finding) with
            sets := view.sets.set .check diagnostics }
      | _ => view.conclude launch course .superseded

/-- What a call asks of the scratch file. -/
def touch {σ : Type} [Storage σ] (view : DocumentView) (path : String)
    (storage : σ) : CheckerCall → σ × Except OsError Unit
  | .launch _ request _ _ =>
      match view.requests[request]? with
      | some (snapshot, true) =>
          Storage.write storage path snapshot.document.text
      | _ => (storage, .ok ())
  | .close _ => Storage.remove storage path
  | _ => (storage, .ok ())

/-- The view after a call of its document, given how the scratch file
took it. -/
def follow (view : DocumentView) (path : String) (written : Except OsError Unit) :
    CheckerCall → DocumentView
  | .ask snapshot =>
      { view with
        sets := {}
        requests := lapsed view.requests ++ [(snapshot, true)] }
  | .launch _ request config answer =>
      match view.requests[request]? with
      | none => view
      | some (_, false) => view.enter ⟨request, config, .stale⟩
      | some (_, true) =>
          match written with
          | .error cause =>
              view.enter ⟨request, config, .failed (.scratch path cause)⟩
          | .ok _ =>
              match answer with
              | .error cause =>
                  view.terminate.enter ⟨request, config,
                    .failed (.launch (config.checkCommand path).display cause)⟩
              | .ok _ =>
                  { view.terminate.enter ⟨request, config, .running ""⟩ with
                    live := true
                    owner := some request }
  | .receive _ launch event =>
      match view.launches[launch]? with
      | some ⟨request, config, .running stderr⟩ =>
          view.hear launch ⟨request, config, .running stderr⟩ stderr event
      | _ => view
  | .close _ =>
      { view.terminate with
        sets := {}
        requests := lapsed view.requests }

variable {view : DocumentView} {launch : Nat}

theorem follow_receive_of_running {course : Course} {stderr : String}
    (found : view.launches[launch]? = some course)
    (running : course.fate = .running stderr) (path : String)
    (written : Except OsError Unit) (id : String) (event : ProcessEvent) :
    view.follow path written (.receive id launch event) =
      view.hear launch course stderr event := by
  obtain ⟨request, config, fate⟩ := course
  cases running
  simp only [follow, found]

theorem follow_receive_of_idle
    (idle : ∀ course, view.launches[launch]? = some course →
      ∀ stderr, course.fate ≠ .running stderr)
    (path : String) (written : Except OsError Unit) (id : String)
    (event : ProcessEvent) :
    view.follow path written (.receive id launch event) = view := by
  unfold follow
  dsimp only
  split
  · rename_i found
    exact absurd rfl (idle _ found _)
  · rfl

end DocumentView

/-! ## Reading a view off a history -/

/-- A launch as it stands in the journal. -/
structure Attempt where
  request : CheckRequest
  config : Config
  answer : Except Failure Launch

/-- The launch that was tried. -/
def Entry.attempt? : Entry → Option Attempt
  | launched request config answer => some ⟨request, config, answer⟩
  | _ => none

/-- The requests of a document in the order in which they were issued. -/
def requestsOf (id : String) (past : List Entry) : List CheckRequest :=
  (past.filterMap Entry.request?).filter fun request => request.id = id

/-- The launches of a document in the order in which they were tried. -/
def attemptsOf (id : String) (past : List Entry) : List Attempt :=
  (past.filterMap Entry.attempt?).filter fun attempt => attempt.request.id = id

/-- What was told of the check of a process. -/
def told? (generation : Nat) (seen : List Effect) : Option CheckOutcome :=
  seen.findSome? (Effect.verdict? generation)

/-- What became of a launch, by the live process of the document and by what
was told. -/
def Attempt.fate (live : Option (Running Observer)) (seen : List Effect)
    (attempt : Attempt) : Fate :=
  match attempt.answer with
  | .ok .superseded => .stale
  | .ok (.started generation) =>
      match live.filter fun running => running.generation = generation with
      | some running => .running running.observer.text
      | none => .ended (told? generation seen)
  | .error failure => .failed failure

/-- The launch with its place among the requests, and what became of it. -/
def Attempt.course (requests : List CheckRequest)
    (live : Option (Running Observer)) (seen : List Effect) (attempt : Attempt) :
    Course :=
  ⟨requests.idxOf attempt.request, attempt.config, attempt.fate live seen⟩

variable {σ : Type}

def view (bridge : Bridge σ) (past : List Entry) (seen : List Effect)
    (id : String) : DocumentView :=
  let live := bridge.processes.running? (.document id)
  let requests := requestsOf id past
  { sets := bridge.publisher.sets id
    requests := requests.map fun request =>
      (request.snapshot, bridge.isCurrent request)
    launches := (attemptsOf id past).map (Attempt.course requests live seen)
    live := live.isSome
    owner := (live.bind fun running => running.observer.request?).map
      fun request => requests.idxOf request }

namespace History

def view (history : History σ) (id : String) : DocumentView :=
  history.bridge.view history.past history.effects id

/-- The action that a call stands for after a history.  There is none for a
request that was not issued and for a launch that started no process. -/
def action? (history : History σ) : CheckerCall → Option (Action σ)
  | .ask snapshot => some (.ask snapshot)
  | .launch id request config answer =>
      (requestsOf id history.past)[request]?.map fun request =>
        .launch (fun _ _ => answer) request.ticket config
  | .receive id launch event =>
      match (attemptsOf id history.past)[launch]? with
      | some ⟨_, _, .ok (.started generation)⟩ => some (.receive generation event)
      | _ => none
  | .close id => some (.close id)

variable [Storage σ]

/-- The history after one more call. -/
def carryOut (history : History σ) (call : CheckerCall) : History σ :=
  match history.action? call with
  | some action => history.advance action
  | none => history

/-- The history of a sequence of calls, from a bridge that has done
nothing. -/
def afterCalls (storage : σ) (scratch : Scratch) (calls : List CheckerCall) :
    History σ :=
  calls.foldl carryOut { bridge := { storage, scratch } }

end History

/-! ## The journal of one document -/

variable {bridge next : Bridge σ} {past : List Entry} {entry : Entry}
  {seen effects : List Effect} {id : String} {generation : Nat}

theorem requestsOf_asked (past : List Entry) (request : CheckRequest) :
    requestsOf request.id (past ++ [.asked request]) =
      requestsOf request.id past ++ [request] := by
  simp [requestsOf, Entry.request?]

theorem requestsOf_of_ne {request : CheckRequest} (other : request.id ≠ id)
    (past : List Entry) :
    requestsOf id (past ++ [.asked request]) = requestsOf id past := by
  simp [requestsOf, Entry.request?, other]

theorem requestsOf_of_none (quiet : entry.request? = none) (id : String)
    (past : List Entry) :
    requestsOf id (past ++ [entry]) = requestsOf id past := by
  simp [requestsOf, quiet]

theorem attemptsOf_launched (past : List Entry) (request : CheckRequest)
    (config : Config) (answer : Except Failure Launch) :
    attemptsOf request.id (past ++ [.launched request config answer]) =
      attemptsOf request.id past ++ [⟨request, config, answer⟩] := by
  simp [attemptsOf, Entry.attempt?]

theorem attemptsOf_of_ne {request : CheckRequest} (other : request.id ≠ id)
    (past : List Entry) (config : Config) (answer : Except Failure Launch) :
    attemptsOf id (past ++ [.launched request config answer]) =
      attemptsOf id past := by
  simp [attemptsOf, Entry.attempt?, other]

theorem attemptsOf_of_none (quiet : entry.attempt? = none) (id : String)
    (past : List Entry) :
    attemptsOf id (past ++ [entry]) = attemptsOf id past := by
  simp [attemptsOf, quiet]

theorem Entry.request?_eq_some_iff {request : CheckRequest} :
    entry.request? = some request ↔ entry = .asked request := by
  cases entry <;> simp [Entry.request?]

theorem Entry.attempt?_eq_some_iff {attempt : Attempt} :
    entry.attempt? = some attempt ↔
      entry = .launched attempt.request attempt.config attempt.answer := by
  obtain ⟨request, config, answer⟩ := attempt
  cases entry <;> simp [Entry.attempt?]

theorem mem_requestsOf_iff {request : CheckRequest} :
    request ∈ requestsOf id past ↔ .asked request ∈ past ∧ request.id = id := by
  simp [requestsOf, Entry.request?_eq_some_iff]

theorem mem_attemptsOf_iff {attempt : Attempt} :
    attempt ∈ attemptsOf id past ↔
      .launched attempt.request attempt.config attempt.answer ∈ past ∧
        attempt.request.id = id := by
  simp [attemptsOf, Entry.attempt?_eq_some_iff]

theorem told?_append (generation : Nat) (seen effects : List Effect) :
    told? generation (seen ++ effects) =
      (told? generation seen).or (told? generation effects) :=
  List.findSome?_append

theorem told?_eq_none_iff :
    told? generation seen = none ↔
      ∀ outcome, .checked generation outcome ∉ seen := by
  unfold told?
  rw [List.findSome?_eq_none_iff]
  constructor
  · intro silent outcome member
    have said := silent _ member
    simp [Effect.verdict?] at said
  · intro untold effect member
    cases effect with
    | checked other outcome =>
        have different : other ≠ generation := by
          rintro rfl
          exact untold outcome member
        exact if_neg different
    | _ => rfl

/-! ## Sound histories -/

/-- Two launches that did not start the same process. -/
def Attempt.Unlike (left right : Attempt) : Prop :=
  ∀ generation, left.answer = .ok (.started generation) →
    right.answer ≠ .ok (.started generation)

/-- What holds of every history: the journal explains the state, only what has
ended is told of, and no ticket and no generation is given twice. -/
structure Sound (bridge : Bridge σ) (past : List Entry)
    (seen : List Effect) : Prop where
  recorded : Recorded bridge past seen
  silent : ∀ {generation outcome}, .checked generation outcome ∈ seen →
    generation ≤ bridge.processes.issued ∧
      bridge.processes.process? generation = none
  requests : (past.filterMap Entry.request?).Nodup
  attempts : (past.filterMap Entry.attempt?).Pairwise Attempt.Unlike

theorem Launched.of_mem {request : CheckRequest} {config : Config}
    (member : .launched request config (.ok (.started generation)) ∈ past) :
    ∃ later, Launched past request config generation later := by
  obtain ⟨earlier, later, split⟩ := List.append_of_mem member
  exact ⟨later, earlier, split⟩

namespace Sound

theorem initially (storage : σ) (scratch : Scratch) :
    Sound { storage, scratch } [] [] where
  recorded := .initially storage scratch
  silent := by simp
  requests := List.nodup_nil
  attempts := List.Pairwise.nil

theorem silent_step (sound : Sound bridge past seen)
    (step : Steps past bridge entry effects next) {outcome : CheckOutcome}
    (told : .checked generation outcome ∈ seen ++ effects) :
    generation ≤ next.processes.issued ∧
      next.processes.process? generation = none := by
  rcases List.mem_append.mp told with before | now
  · obtain ⟨bound, closed⟩ := sound.silent before
    exact ⟨Nat.le_trans bound step.issued_le,
      step.process?_of_closed closed bound⟩
  · obtain ⟨slot, observer, live, ends⟩ := step.ends_of_checked now
    have bound := ProcessTable.le_issued_of_process? live
    exact ⟨Nat.le_trans bound step.issued_le, step.process?_of_ends live ends⟩

theorem requests_step (sound : Sound bridge past seen)
    (step : Steps past bridge entry effects next) :
    ((past ++ [entry]).filterMap Entry.request?).Nodup := by
  rw [List.filterMap_append, List.nodup_append]
  refine ⟨sound.requests, ?_, ?_⟩
  · cases asked : entry.request? <;> simp [asked]
  · intro old before new now
    obtain ⟨_, inside, asked⟩ := List.mem_filterMap.mp before
    obtain ⟨_, last, issued⟩ := List.mem_filterMap.mp now
    cases Entry.request?_eq_some_iff.mp asked
    cases List.mem_singleton.mp last
    cases Entry.request?_eq_some_iff.mp issued
    have bound := sound.recorded.tickets.bounded inside
    rintro rfl
    cases step with
    | ask snapshot => exact Nat.not_succ_le_self _ bound

theorem attempts_step (sound : Sound bridge past seen)
    (step : Steps past bridge entry effects next) :
    ((past ++ [entry]).filterMap Entry.attempt?).Pairwise Attempt.Unlike := by
  rw [List.filterMap_append, List.pairwise_append]
  refine ⟨sound.attempts, ?_, ?_⟩
  · cases tried : entry.attempt? <;> simp [tried]
  · intro old before new now generation first second
    obtain ⟨_, inside, tried⟩ := List.mem_filterMap.mp before
    obtain ⟨_, last, trying⟩ := List.mem_filterMap.mp now
    cases Entry.attempt?_eq_some_iff.mp tried
    cases List.mem_singleton.mp last
    cases Entry.attempt?_eq_some_iff.mp trying
    rw [first] at inside
    rw [second] at step
    obtain ⟨later, launched⟩ := Launched.of_mem inside
    have bound := sound.recorded.generations.bounded launched
    have fresh := (step.issued_of_born rfl).1
    omega

theorem step (sound : Sound bridge past seen)
    (step : Steps past bridge entry effects next) :
    Sound next (past ++ [entry]) (seen ++ effects) where
  recorded := sound.recorded.step step
  silent := sound.silent_step step
  requests := sound.requests_step step
  attempts := sound.attempts_step step

end Sound

theorem History.sound_carryOut [Storage σ] {history : History σ}
    (sound : Sound history.bridge history.past history.effects)
    (call : CheckerCall) :
    Sound (history.carryOut call).bridge (history.carryOut call).past
      (history.carryOut call).effects := by
  unfold carryOut
  split
  · exact advance_of_step Sound (fun taken held => held.step taken) sound _
  · exact sound

/-! ## The fates of the launches -/

namespace Attempt

variable {attempt : Attempt} {live : Option (Running Observer)}

theorem fate_of_live {observer : Observer}
    (started : attempt.answer = .ok (.started generation))
    (seen : List Effect) :
    attempt.fate (some ⟨generation, observer⟩) seen = .running observer.text := by
  simp [fate, started, Option.filter]

theorem fate_of_dead (started : attempt.answer = .ok (.started generation))
    (dead : ∀ running, live = some running → running.generation ≠ generation)
    (seen : List Effect) :
    attempt.fate live seen = .ended (told? generation seen) := by
  cases live with
  | none => simp [fate, started]
  | some running => simp [fate, started, Option.filter, dead running rfl]

theorem fate_of_unstarted
    (unstarted : ∀ generation, attempt.answer ≠ .ok (.started generation))
    (live later : Option (Running Observer)) (seen effects : List Effect) :
    attempt.fate later effects = attempt.fate live seen ∧
      attempt.fate later effects = (attempt.fate live seen).terminate := by
  obtain ⟨request, config, answer⟩ := attempt
  rcases answer with failure | ⟨⟩ | generation
  · exact ⟨rfl, rfl⟩
  · exact ⟨rfl, rfl⟩
  · exact absurd rfl (unstarted generation)

theorem fate_ne_running
    (unstarted : ∀ generation, attempt.answer ≠ .ok (.started generation))
    (live : Option (Running Observer)) (seen : List Effect) (stderr : String) :
    attempt.fate live seen ≠ .running stderr := by
  intro running
  -- To terminate a launch that started nothing does not change it.
  have inert := (fate_of_unstarted unstarted live live seen seen).2
  rw [running] at inert
  cases inert

end Attempt

namespace Sound

variable {attempt : Attempt}

/-- A process that was started for a document is live in the slot of the
document and not told of, or it is not live and told of. -/
theorem live_or_told (sound : Sound bridge past seen)
    (member : attempt ∈ attemptsOf id past)
    (started : attempt.answer = .ok (.started generation)) :
    (∃ stderr, bridge.processes.running? (.document id) =
        some ⟨generation, .check attempt.request attempt.config stderr⟩ ∧
        told? generation seen = none) ∨
      ((∀ running, bridge.processes.running? (.document id) = some running →
        running.generation ≠ generation) ∧
        ∃ outcome, told? generation seen = some outcome) := by
  obtain ⟨inside, rfl⟩ := mem_attemptsOf_iff.mp member
  rw [started] at inside
  obtain ⟨later, launched⟩ := Launched.of_mem inside
  rcases sound.recorded.answers launched with ⟨stderr, live⟩ | ⟨closed, outcome, told⟩
  · refine Or.inl ⟨stderr, ProcessTable.running?_eq_some_iff.mpr live, ?_⟩
    rw [told?_eq_none_iff]
    intro outcome told
    have closed := (sound.silent told).2
    rw [live] at closed
    cases closed
  · refine Or.inr ⟨?_, ?_⟩
    · rintro running live rfl
      rw [ProcessTable.running?_eq_some_iff, closed] at live
      cases live
    · apply Option.ne_none_iff_exists'.mp
      intro untold
      exact told?_eq_none_iff.mp untold outcome told

/-- What is told of others does not change the fate of a launch. -/
theorem fate_append (sound : Sound bridge past seen)
    (member : attempt ∈ attemptsOf id past) (effects : List Effect) :
    attempt.fate (bridge.processes.running? (.document id)) (seen ++ effects) =
      attempt.fate (bridge.processes.running? (.document id)) seen := by
  by_cases unstarted :
      ∀ generation, attempt.answer ≠ .ok (.started generation)
  · exact (Attempt.fate_of_unstarted unstarted _ _ _ _).1
  · push Not at unstarted
    obtain ⟨generation, started⟩ := unstarted
    rcases sound.live_or_told member started with
      ⟨stderr, live, _⟩ | ⟨dead, outcome, told⟩
    · rw [live, Attempt.fate_of_live started, Attempt.fate_of_live started]
    · rw [Attempt.fate_of_dead started dead, Attempt.fate_of_dead started dead,
        told?_append, told, Option.some_or]

theorem told?_terminations {request : CheckRequest} {config : Config}
    {stderr : String}
    (live : bridge.processes.running? (.document id) =
      some ⟨generation, .check request config stderr⟩) (rest : List Effect) :
    told? generation (bridge.terminations (.document id) ++ rest) =
      some .superseded := by
  simp [terminations, live, told?, Observer.terminated, Effect.verdict?]

/-- The fate of a launch when the live process of its document is terminated
and the slot is left empty or given to a new process. -/
theorem fate_terminations (sound : Sound bridge past seen)
    (member : attempt ∈ attemptsOf id past) {later : Option (Running Observer)}
    (fresh : ∀ running, later = some running →
      bridge.processes.issued < running.generation) (rest : List Effect) :
    attempt.fate later (seen ++ (bridge.terminations (.document id) ++ rest)) =
      (attempt.fate (bridge.processes.running? (.document id)) seen).terminate := by
  by_cases unstarted :
      ∀ generation, attempt.answer ≠ .ok (.started generation)
  · exact (Attempt.fate_of_unstarted unstarted _ _ _ _).2
  · push Not at unstarted
    obtain ⟨generation, started⟩ := unstarted
    -- What is in the slot afterwards was started after this launch.
    have old : ∀ running, later = some running →
        running.generation ≠ generation := by
      intro running now same
      obtain ⟨inside, _⟩ := mem_attemptsOf_iff.mp member
      rw [started] at inside
      obtain ⟨_, launched⟩ := Launched.of_mem inside
      have bound := sound.recorded.generations.bounded launched
      have new := fresh running now
      omega
    rw [Attempt.fate_of_dead started old, told?_append]
    rcases sound.live_or_told member started with
      ⟨stderr, live, untold⟩ | ⟨dead, outcome, told⟩
    · rw [untold, told?_terminations live, live, Attempt.fate_of_live started]
      rfl
    · rw [told, Attempt.fate_of_dead started dead, told]
      rfl

/-- The fate of a launch while the process of another launch is heard. -/
theorem fate_elsewhere (sound : Sound bridge past seen)
    (member : attempt ∈ attemptsOf id past) {observer : Observer}
    (live : bridge.processes.running? (.document id) =
      some ⟨generation, observer⟩)
    (unlike : attempt.answer ≠ .ok (.started generation))
    {later : Option (Running Observer)}
    (same : ∀ running, later = some running → running.generation = generation)
    (effects : List Effect) :
    attempt.fate later (seen ++ effects) =
      attempt.fate (bridge.processes.running? (.document id)) seen := by
  by_cases unstarted : ∀ other, attempt.answer ≠ .ok (.started other)
  · exact (Attempt.fate_of_unstarted unstarted _ _ _ _).1
  · push Not at unstarted
    obtain ⟨other, started⟩ := unstarted
    have different : generation ≠ other := by
      rintro rfl
      exact unlike started
    rcases sound.live_or_told member started with
      ⟨stderr, own, _⟩ | ⟨dead, outcome, told⟩
    · rw [live] at own
      cases own
      exact absurd rfl different
    · rw [Attempt.fate_of_dead started dead, Attempt.fate_of_dead started,
        told?_append, told, Option.some_or]
      intro running now
      rw [same running now]
      exact different

/-! ## The launches of a view -/

theorem mem_requestsOf_of_attempt (sound : Sound bridge past seen)
    (member : attempt ∈ attemptsOf id past) :
    attempt.request ∈ requestsOf id past := by
  obtain ⟨inside, same⟩ := mem_attemptsOf_iff.mp member
  exact mem_requestsOf_iff.mpr ⟨sound.recorded.tickets.launched inside, same⟩

theorem idxOf_of_found (sound : Sound bridge past seen)
    {request : CheckRequest} {index : Nat}
    (found : (requestsOf id past)[index]? = some request) :
    (requestsOf id past).idxOf request = index := by
  obtain ⟨inside, rfl⟩ := List.getElem?_eq_some_iff.mp found
  have distinct : (requestsOf id past).Nodup := sound.requests.filter _
  exact distinct.idxOf_getElem index inside

theorem found_of_attempt (sound : Sound bridge past seen)
    (member : attempt ∈ attemptsOf id past) :
    (requestsOf id past)[(requestsOf id past).idxOf attempt.request]? =
      some attempt.request := by
  have inside := List.idxOf_lt_length_of_mem
    (sound.mem_requestsOf_of_attempt member)
  rw [List.getElem?_eq_getElem inside, List.getElem_idxOf]

/-- A launch keeps its place and its fate while its document is left alone or
only gets another request. -/
theorem courses_kept (sound : Sound bridge past seen) (id : String)
    (more : List CheckRequest) (effects : List Effect) :
    (attemptsOf id past).map
        (Attempt.course (requestsOf id past ++ more)
          (bridge.processes.running? (.document id)) (seen ++ effects)) =
      (attemptsOf id past).map
        (Attempt.course (requestsOf id past)
          (bridge.processes.running? (.document id)) seen) := by
  apply List.map_congr_left
  intro attempt member
  unfold Attempt.course
  rw [sound.fate_append member, List.idxOf_append,
    if_pos (sound.mem_requestsOf_of_attempt member)]

theorem courses_terminated (sound : Sound bridge past seen) (id : String)
    (later : Option (Running Observer))
    (fresh : ∀ running, later = some running →
      bridge.processes.issued < running.generation) (rest : List Effect) :
    (attemptsOf id past).map
        (Attempt.course (requestsOf id past) later
          (seen ++ (bridge.terminations (.document id) ++ rest))) =
      ((attemptsOf id past).map
        (Attempt.course (requestsOf id past)
          (bridge.processes.running? (.document id)) seen)).map
        Course.terminate := by
  rw [List.map_map]
  apply List.map_congr_left
  intro attempt member
  simp only [Attempt.course, Function.comp_apply, Course.terminate,
    sound.fate_terminations member fresh]

theorem unlike_of_found (sound : Sound bridge past seen) {index other : Nat}
    {another : Attempt} (different : index ≠ other)
    (found : (attemptsOf id past)[index]? = some attempt)
    (elsewhere : (attemptsOf id past)[other]? = some another)
    (begun : attempt.answer = .ok (.started generation)) :
    another.answer ≠ .ok (.started generation) := by
  have distinct : (attemptsOf id past).Pairwise Attempt.Unlike :=
    sound.attempts.filter _
  obtain ⟨inside, rfl⟩ := List.getElem?_eq_some_iff.mp found
  obtain ⟨within, rfl⟩ := List.getElem?_eq_some_iff.mp elsewhere
  rw [List.pairwise_iff_getElem] at distinct
  rcases Nat.lt_or_gt_of_ne different with before | after
  · exact distinct index other inside within before generation begun
  · intro again
    exact distinct other index within inside after generation again begun

theorem courses_heard (sound : Sound bridge past seen) {index : Nat}
    {observer : Observer}
    (found : (attemptsOf id past)[index]? = some attempt)
    (begun : attempt.answer = .ok (.started generation))
    (live : bridge.processes.running? (.document id) =
      some ⟨generation, observer⟩)
    (later : Option (Running Observer))
    (same : ∀ running, later = some running → running.generation = generation)
    (effects : List Effect) :
    (attemptsOf id past).map
        (Attempt.course (requestsOf id past) later (seen ++ effects)) =
      ((attemptsOf id past).map
        (Attempt.course (requestsOf id past)
          (bridge.processes.running? (.document id)) seen)).set index
        (attempt.course (requestsOf id past) later (seen ++ effects)) := by
  apply List.ext_getElem?
  intro other
  rw [List.getElem?_set]
  by_cases here : index = other
  · subst here
    obtain ⟨inside, rfl⟩ := List.getElem?_eq_some_iff.mp found
    simp [inside]
  · rw [if_neg here, List.getElem?_map, List.getElem?_map]
    cases elsewhere : (attemptsOf id past)[other]? with
    | none => rfl
    | some another =>
        have unlike := sound.unlike_of_found here found elsewhere begun
        have kept := sound.fate_elsewhere (List.mem_of_getElem? elsewhere) live
          unlike same effects
        simp only [Option.map_some, Attempt.course, kept]

theorem owner_kept (sound : Sound bridge past seen)
    (more : List CheckRequest) :
    ((bridge.processes.running? (.document id)).bind fun running =>
        running.observer.request?).map
        (fun request => (requestsOf id past ++ more).idxOf request) =
      ((bridge.processes.running? (.document id)).bind fun running =>
        running.observer.request?).map
        (fun request => (requestsOf id past).idxOf request) := by
  cases live : bridge.processes.running? (.document id) with
  | none => rfl
  | some running =>
      obtain ⟨generation, observer⟩ := running
      cases observer with
      | run => rfl
      | check request config stderr =>
          obtain ⟨place, _, launched, _⟩ := sound.recorded.checks
            (ProcessTable.running?_eq_some_iff.mp live)
          cases place
          have known : request ∈ requestsOf request.id past :=
            mem_requestsOf_iff.mpr
              ⟨sound.recorded.tickets.launched launched.mem, rfl⟩
          simp [Observer.request?, List.idxOf_append, known]

end Sound

end Bridge

end ToolBridge
