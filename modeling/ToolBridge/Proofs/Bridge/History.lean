import ToolBridge.Proofs.Bridge.Operations
import ToolBridge.Proofs.Timeline

/-!
# Histories of a bridge

A history is what came of a sequence of actions: the state of the bridge, the
entries that a caller would make in a journal, and everything that was seen.
Actions come in any order.  A request may be launched at any time after it was
issued, once, several times or never, and every process may say anything or
exit at any time.  To give up a request that is no longer the newest does
nothing to the bridge, and so there is no action for it.

The newest request of a document, the launch of a process and what it wrote
are read off the journal and not off the state.
-/

namespace ToolBridge.Bridge

/-- What is done with a bridge, or by one of its processes. -/
inductive Action (σ : Type) where
  | ask (snapshot : Snapshot)
  /-- Launch the request that was issued with a ticket. -/
  | launch (launcher : Launcher σ) (ticket : Nat) (config : Config)
  | receive (generation : Nat) (event : ProcessEvent)
  | close (id : String)
  | start (launcher : Launcher σ) (document : Document) (path : String)
      (config : Config)
  | stop
  | retarget (directory extension : String)
  /-- The files are changed by somebody else. -/
  | disturb (storage : σ)
  | killAll

/-- What an action came to. -/
inductive Entry where
  | asked (request : CheckRequest)
  | launched (request : CheckRequest) (config : Config)
      (answer : Except Failure Launch)
  | received (generation : Nat) (event : ProcessEvent)
  | closed (id : String)
  | started (number : Nat) (document : Document) (extension : String)
      (answer : Except Failure Nat)
  | stopped
  | retargeted
  | disturbed
  | killed

namespace Entry

def request? : Entry → Option CheckRequest
  | asked request => some request
  | _ => none

/-- The error text of a process after one more entry. -/
def extend (generation : Nat) (text : String) : Entry → String
  | received other (.stderr line) =>
      if other = generation then addLine text line else text
  | _ => text

/-- The observer of a process after one more entry. -/
def notice (generation : Nat) (observer : Observer) : Entry → Observer
  | received other (.stderr line) =>
      if other = generation then observeStderr line observer else observer
  | _ => observer

/-- The process that was started, with its slot and its observer. -/
def born? : Entry → Option (Nat × Slot × Observer)
  | launched request config (.ok (.started generation)) =>
      some (generation, .document request.id, .check request config "")
  | started number document extension (.ok generation) =>
      some (generation, .interactive, .run number document extension "")
  | _ => none

/-- The newest request of a document after one more entry. -/
def renew (id : String) (newest : Option CheckRequest) :
    Entry → Option CheckRequest
  | asked request => if request.id = id then some request else newest
  | closed other => if other = id then none else newest
  | _ => newest

/-- An entry that issues a request of a document or closes it. -/
def Renews (id : String) : Entry → Prop
  | asked request => request.id = id
  | closed other => other = id
  | _ => False

/-- An entry that issues no request and closes no document. -/
def Neutral : Entry → Prop
  | asked _ => False
  | closed _ => False
  | _ => True

/-- The request whose process was started or refused. -/
def spawned? : Entry → Option CheckRequest
  | launched request _ (.ok (.started _)) => some request
  | launched request _ (.error (.launch _ _)) => some request
  | _ => none

/-- An entry that tells of the end of the process of a generation, if the
process was live in a slot. -/
def Ends (generation : Nat) (slot : Slot) : Entry → Prop
  | launched request _ (.ok (.started _)) => slot = .document request.id
  | launched request _ (.error (.launch _ _)) => slot = .document request.id
  | received other (.exit _) => other = generation
  | closed id => slot = .document id
  | started _ _ _ (.ok _) => slot = .interactive
  | started _ _ _ (.error (.launch _ _)) => slot = .interactive
  | stopped => slot = .interactive
  | killed => True
  | _ => False

end Entry

/-- The last request that was issued for a document since it was closed. -/
def newest? (id : String) (past : List Entry) : Option CheckRequest :=
  past.foldl (Entry.renew id) none

/-- What the process of a generation wrote on standard error. -/
def written (generation : Nat) (entries : List Entry) : String :=
  entries.foldl (Entry.extend generation) ""

/-- A process was launched for a request, and `later` happened since. -/
def Launched (past : List Entry) (request : CheckRequest) (config : Config)
    (generation : Nat) (later : List Entry) : Prop :=
  ∃ earlier, past =
    earlier ++ .launched request config (.ok (.started generation)) :: later

/-- The process of a generation does not exit. -/
def Unended (generation : Nat) (entries : List Entry) : Prop :=
  ∀ code, .received generation (.exit code) ∉ entries

/-- A process was launched for a request, wrote an error text and exited. -/
def Completed (past : List Entry) (request : CheckRequest) (config : Config)
    (generation : Nat) (stderr : String) (code : Option Int) : Prop :=
  ∃ before after,
    Launched past request config generation
        (before ++ .received generation (.exit code) :: after) ∧
      Unended generation before ∧ stderr = written generation before

/-- The state of a bridge, its journal, and everything that was seen. -/
structure History (σ : Type) where
  bridge : Bridge σ
  past : List Entry := []
  effects : List Effect := []

def deliveries (effects : List Effect) : List Delivery :=
  effects.filterMap fun effect =>
    match effect with
    | .deliver delivery => some delivery
    | _ => none

theorem deliveries_terminations_append {σ : Type} (bridge : Bridge σ)
    (slot : Slot) (effects : List Effect) :
    deliveries (bridge.terminations slot ++ effects) = deliveries effects := by
  unfold deliveries terminations
  rw [List.filterMap_append]
  cases bridge.processes.running? slot with
  | none => rfl
  | some running =>
      obtain ⟨generation, observer⟩ := running
      cases observer with
      | check => rfl
      | run => rfl

namespace History

variable {σ : Type}

def request? (history : History σ) (ticket : Nat) : Option CheckRequest :=
  (history.past.filterMap Entry.request?).find? fun request =>
    decide (request.ticket = ticket)

/-- What the editor has been told. -/
def sink (history : History σ) : DeliveryLog :=
  (deliveries history.effects).foldl DeliveryLog.receive {}

variable [Storage σ]

/-- What an action does to the bridge, what is entered, and what is seen.
Nothing is done for a ticket that was not issued. -/
def perform (history : History σ) :
    Action σ → Bridge σ × List Entry × List Effect
  | .ask snapshot =>
      let (bridge, request, effects) := history.bridge.ask snapshot
      (bridge, [.asked request], effects)
  | .launch launcher ticket config =>
      match history.request? ticket with
      | some request =>
          let (bridge, answer, effects) :=
            history.bridge.launch launcher request config
          (bridge, [.launched request config answer], effects)
      | none => (history.bridge, [], [])
  | .receive generation event =>
      let (bridge, effects) := history.bridge.receive generation event
      (bridge, [.received generation event], effects)
  | .close id =>
      let (bridge, _, effects) := history.bridge.close id
      (bridge, [.closed id], effects)
  | .start launcher document path config =>
      let (bridge, answer, effects) :=
        history.bridge.start launcher document path config
      (bridge, [.started (history.bridge.runs + 1) document config.extension
        answer], effects)
  | .stop =>
      let (bridge, _, effects) := history.bridge.stop
      (bridge, [.stopped], effects)
  | .retarget directory extension =>
      (history.bridge.retarget directory extension, [.retargeted], [])
  | .disturb storage => ({ history.bridge with storage }, [.disturbed], [])
  | .killAll =>
      let (bridge, effects) := history.bridge.killAll
      (bridge, [.killed], effects)

def advance (history : History σ) (action : Action σ) : History σ :=
  let (bridge, entries, effects) := history.perform action
  { bridge
    past := history.past ++ entries
    effects := history.effects ++ effects }

/-- The history of a sequence of actions, from a bridge that has done
nothing. -/
def after (storage : σ) (scratch : Scratch) (actions : List (Action σ)) :
    History σ :=
  actions.foldl advance { bridge := { storage, scratch } }

theorem after_append_singleton (storage : σ) (scratch : Scratch)
    (actions : List (Action σ)) (action : Action σ) :
    after storage scratch (actions ++ [action]) =
      (after storage scratch actions).advance action :=
  List.foldl_append

theorem sink_advance (history : History σ) (action : Action σ) :
    (history.advance action).sink =
      (deliveries (history.perform action).2.2).foldl DeliveryLog.receive
        history.sink := by
  change (deliveries (history.effects ++ _)).foldl DeliveryLog.receive {} = _
  rw [deliveries, List.filterMap_append, List.foldl_append]
  rfl

theorem action_of_received {history : History σ} {action : Action σ}
    {generation : Nat} {event : ProcessEvent}
    (entered : (history.perform action).2.1 = [.received generation event]) :
    action = .receive generation event := by
  cases action with
  | receive =>
      cases entered
      rfl
  | launch launcher ticket config =>
      rw [perform] at entered
      cases found : history.request? ticket with
      | none => simp [found] at entered
      | some request => simp [found] at entered
  | _ => cases entered

omit [Storage σ] in
theorem asked_of_request? {history : History σ} {ticket : Nat}
    {request : CheckRequest}
    (found : history.request? ticket = some request) :
    .asked request ∈ history.past := by
  have member := List.mem_of_find?_eq_some found
  obtain ⟨entry, inside, same⟩ := List.mem_filterMap.mp member
  cases entry with
  | asked other =>
      cases same
      exact inside
  | _ => cases same

end History

/-! ## The journal -/

variable {past later : List Entry} {request : CheckRequest} {config : Config}
  {generation : Nat} {id : String}

theorem newest?_append_singleton (id : String) (past : List Entry)
    (entry : Entry) :
    newest? id (past ++ [entry]) = entry.renew id (newest? id past) :=
  List.foldl_append

theorem Entry.Neutral.renew_eq {entry : Entry} (neutral : entry.Neutral)
    (id : String) (newest : Option CheckRequest) :
    entry.renew id newest = newest := by
  cases entry with
  | asked => exact neutral.elim
  | closed => exact neutral.elim
  | _ => rfl

theorem asked_of_newest? (found : newest? id past = some request) :
    .asked request ∈ past ∧ request.id = id := by
  induction past using List.reverseRecOn with
  | nil => cases found
  | append_singleton past entry ih =>
      rw [newest?_append_singleton] at found
      have earlier (kept : newest? id past = some request) :
          .asked request ∈ past ++ [entry] ∧ request.id = id :=
        ⟨List.mem_append_left _ (ih kept).1, (ih kept).2⟩
      cases entry with
      | asked other =>
          rw [Entry.renew] at found
          split at found
          · rename_i same
            cases found
            exact ⟨List.mem_append_right _ (List.mem_singleton.mpr rfl), same⟩
          · exact earlier found
      | closed other =>
          rw [Entry.renew] at found
          split at found
          · cases found
          · exact earlier found
      | _ => exact earlier found

namespace Entry

variable {stderr : String}

theorem notice_check (generation : Nat) (entry : Entry) :
    entry.notice generation (.check request config stderr) =
      .check request config (entry.extend generation stderr) := by
  unfold notice extend
  split
  · split
    · rfl
    · rfl
  · rfl

theorem check_eq_notice {observer : Observer} {entry : Entry}
    (said : .check request config stderr = entry.notice generation observer) :
    ∃ text, observer = .check request config text ∧
      stderr = entry.extend generation text := by
  cases observer with
  | check =>
      rw [notice_check] at said
      cases said
      exact ⟨_, rfl, rfl⟩
  | run =>
      unfold notice at said
      split at said
      · split at said
        · cases said
        · cases said
      · cases said

theorem ends_document {entry : Entry}
    (ends : entry.Ends generation (.document id)) :
    (∃ request, entry.spawned? = some request ∧ request.id = id) ∨
      (∃ code, entry = .received generation (.exit code)) ∨
      entry = .closed id ∨ entry = .killed := by
  unfold Ends at ends
  split at ends
  · cases ends
    exact Or.inl ⟨_, rfl, rfl⟩
  · cases ends
    exact Or.inl ⟨_, rfl, rfl⟩
  · cases ends
    exact Or.inr (Or.inl ⟨_, rfl⟩)
  · cases ends
    exact Or.inr (Or.inr (Or.inl rfl))
  · cases ends
  · cases ends
  · cases ends
  · exact Or.inr (Or.inr (Or.inr rfl))
  · cases ends

theorem request_of_spawned {other : CheckRequest}
    {answer : Except Failure Launch}
    (spawned : (launched other config answer).spawned? = some request) :
    other = request := by
  unfold spawned? at spawned
  split at spawned
  · rename_i same
    cases same
    exact Option.some.inj spawned
  · rename_i same
    cases same
    exact Option.some.inj spawned
  · cases spawned

theorem born?_check_iff {entry : Entry} {slot : Slot} :
    entry.born? = some (generation, slot, .check request config stderr) ↔
      entry = .launched request config (.ok (.started generation)) ∧
        slot = .document request.id ∧ stderr = "" := by
  constructor
  · intro born
    unfold born? at born
    split at born
    · cases born
      exact ⟨rfl, rfl, rfl⟩
    · cases born
    · cases born
  · rintro ⟨rfl, rfl, rfl⟩
    rfl

end Entry

theorem written_append_singleton (generation : Nat) (entries : List Entry)
    (entry : Entry) :
    written generation (entries ++ [entry]) =
      entry.extend generation (written generation entries) :=
  List.foldl_append

theorem Unended.append_singleton {entry : Entry}
    (unended : Unended generation later)
    (continues : ∀ code, entry ≠ .received generation (.exit code)) :
    Unended generation (later ++ [entry]) := by
  intro code member
  rcases List.mem_append.mp member with inside | last
  · exact unended code inside
  · exact continues code (List.mem_singleton.mp last).symm

theorem not_launched_nil : ¬ Launched [] request config generation later := by
  rintro ⟨earlier, empty⟩
  simp at empty

namespace Launched

theorem append (launched : Launched past request config generation later)
    (more : List Entry) :
    Launched (past ++ more) request config generation (later ++ more) := by
  obtain ⟨earlier, rfl⟩ := launched
  exact ⟨earlier, by simp⟩

theorem last (past : List Entry) (request : CheckRequest) (config : Config)
    (generation : Nat) :
    Launched (past ++ [.launched request config (.ok (.started generation))])
      request config generation [] :=
  ⟨past, rfl⟩

theorem mem (launched : Launched past request config generation later) :
    .launched request config (.ok (.started generation)) ∈ past := by
  obtain ⟨earlier, rfl⟩ := launched
  simp

theorem of_append_singleton {entry : Entry}
    (launched : Launched (past ++ [entry]) request config generation later) :
    (∃ since, later = since ++ [entry] ∧
        Launched past request config generation since) ∨
      (later = [] ∧
        entry = .launched request config (.ok (.started generation))) := by
  obtain ⟨earlier, equal⟩ := launched
  rcases of_append_singleton_eq_append_cons equal with
    ⟨since, rfl, rfl⟩ | ⟨rfl, same, rfl⟩
  · exact Or.inl ⟨since, rfl, earlier, rfl⟩
  · exact Or.inr ⟨rfl, same⟩

end Launched

theorem Completed.append {stderr : String} {code : Option Int}
    (completed : Completed past request config generation stderr code)
    (more : List Entry) :
    Completed (past ++ more) request config generation stderr code := by
  obtain ⟨before, after, launched, unended, text⟩ := completed
  refine ⟨before, after ++ more, ?_, unended, text⟩
  simpa using launched.append more

end ToolBridge.Bridge
