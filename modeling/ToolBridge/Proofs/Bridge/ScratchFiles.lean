import ToolBridge.Proofs.Bridge.CheckerCalls
import ToolBridge.Proofs.Bridge.Supersession
import ToolBridge.Proofs.Storage.FileTree
import Mathlib.Data.Set.Insert

/-!
# Scratch files

All requests of a document share one scratch file, and it is written before the
older process of the document is ended.  Here a check whose request is still the
newest one is shown to have the text of its own snapshot in front of it: what
writes to the file without ending the process was refused, and what is done for
other documents is done to other files.
-/

namespace ToolBridge.Bridge

variable {σ : Type} {bridge next : Bridge σ} {past : List Entry} {entry : Entry}
  {seen effects : List Effect} {request : CheckRequest} {config : Config}
  {generation : Nat} {documents : Set String} {targets : Set Scratch}
  {apart : String → String → Prop}

/-- An action that concerns some documents and puts scratch files where some
targets are.  Nobody else touches the files. -/
def Action.Within (documents : Set String) (targets : Set Scratch) :
    Action σ → Prop
  | .ask snapshot => snapshot.id ∈ documents
  | .close id => id ∈ documents
  | .retarget directory extension => ⟨directory, extension⟩ ∈ targets
  | .disturb _ => False
  | _ => True

/-! ## Where the scratch files are -/

/-- The scratch files are where a target is, and the requests are those of some
documents. -/
structure Housed (documents : Set String) (targets : Set Scratch)
    (bridge : Bridge σ) (past : List Entry) : Prop where
  target : bridge.scratch ∈ targets
  known : ∀ {request : CheckRequest}, .asked request ∈ past →
    request.id ∈ documents

theorem Housed.append_singleton (housed : Housed documents targets bridge past)
    (target : next.scratch ∈ targets)
    (asks : ∀ request, entry = .asked request → request.id ∈ documents) :
    Housed documents targets next (past ++ [entry]) := by
  refine ⟨target, ?_⟩
  intro request member
  rcases List.mem_append.mp member with inside | last
  · exact housed.known inside
  · exact asks request (List.mem_singleton.mp last).symm

theorem Steps.scratch_eq (step : Steps past bridge entry effects next)
    (stays : entry ≠ .retargeted) : next.scratch = bridge.scratch := by
  cases step with
  | launch known launches => cases launches <;> rfl
  | receive receives => cases receives <;> rfl
  | start starts => cases starts <;> rfl
  | retarget => exact absurd rfl stays
  | _ => rfl

/-- A step that asks for nothing and leaves the target alone. -/
theorem Housed.step (housed : Housed documents targets bridge past)
    (step : Steps past bridge entry effects next)
    (stays : entry ≠ .retargeted)
    (unlike : ∀ request, entry ≠ .asked request) :
    Housed documents targets next (past ++ [entry]) := by
  apply housed.append_singleton
  · rw [step.scratch_eq stays]
    exact housed.target
  · intro request asked
    exact absurd asked (unlike request)

variable [Storage σ]

/-! ## What an action does to the files -/

/-- The files after an action: the launch of a current request writes its
snapshot, and a close removes the scratch file. -/
def History.filed (history : History σ) : Action σ → σ
  | .launch _ ticket _ =>
      match history.request? ticket with
      | some request =>
          if history.bridge.isCurrent request then
            (Storage.write history.bridge.storage
              (history.bridge.scratch.pathFor request.id)
              request.document.text).1
          else history.bridge.storage
      | none => history.bridge.storage
  | .close id =>
      (Storage.remove history.bridge.storage
        (history.bridge.scratch.pathFor id)).1
  | .disturb storage => storage
  | _ => history.bridge.storage

theorem storage_advance (history : History σ) (action : Action σ) :
    (history.advance action).bridge.storage = history.filed action := by
  cases action with
  | launch launcher ticket config =>
      unfold History.advance
      cases found : history.request? ticket with
      | none => simp only [History.perform, History.filed, found]
      | some request =>
          simp only [History.perform, History.filed, found]
          exact storage_launch history.bridge launcher request config
  | receive generation event => exact storage_receive _ _ _
  | start launcher document path config => exact storage_start _ _ _ _ _
  | stop =>
      change history.bridge.stop.1.storage = _
      rw [stop_eq]
      rfl
  | _ => rfl

theorem Housed.advance {history : History σ}
    (housed : Housed documents targets history.bridge history.past)
    {action : Action σ} (within : action.Within documents targets) :
    Housed documents targets (history.advance action).bridge
      (history.advance action).past := by
  cases action with
  | ask snapshot =>
      refine housed.append_singleton ?_ ?_
      · exact housed.target
      · intro request asked
        cases asked
        exact within
  | launch launcher ticket config =>
      unfold History.advance
      cases found : history.request? ticket with
      | none =>
          simp only [History.perform, found, List.append_nil]
          exact housed
      | some request =>
          simp only [History.perform, found]
          exact housed.step (.launch (History.asked_of_request? found)
            (launches _ launcher request config)) (by simp) (by simp)
  | receive generation event =>
      exact housed.step (.receive (receives _ generation event)) (by simp) (by simp)
  | close id => exact housed.step (.close id _) (by simp) (by simp)
  | start launcher document path config =>
      exact housed.step (.start (starts _ launcher document path config))
        (by simp) (by simp)
  | stop =>
      change Housed documents targets history.bridge.stop.1 _
      rw [stop_eq]
      exact housed.step .stop (by simp) (by simp)
  | retarget directory extension =>
      exact housed.append_singleton within (by simp)
  | disturb storage => exact within.elim
  | killAll => exact housed.step .killAll (by simp) (by simp)

/-! ## What a live check has in front of it -/

/-- Every live check whose request is current was started on a scratch file
that holds the text of the snapshot. -/
def Entrusted (targets : Set Scratch) (bridge : Bridge σ)
    (seen : List Effect) : Prop :=
  ∀ ⦃generation slot request config stderr⦄,
    bridge.processes.process? generation =
        some (slot, .check request config stderr) →
      bridge.isCurrent request = true →
      ∃ target ∈ targets,
        .launched ⟨.document request.id, generation,
          config.checkCommand (target.pathFor request.id)⟩ ∈ seen ∧
        Storage.read bridge.storage (target.pathFor request.id) =
          .ok request.document.text

/-- What has to be shown of a step: that it leaves alone the scratch files of
the checks that it does not end, and that the check that it starts has its
snapshot in front of it. -/
theorem Entrusted.step (entrusted : Entrusted targets bridge seen)
    (recorded : Recorded bridge past seen)
    (step : Steps past bridge entry effects next)
    (kept : ∀ {generation request}, .asked request ∈ past →
      bridge.isCurrent request = true →
      ¬ entry.Ends generation (.document request.id) →
      ∀ target ∈ targets,
        Storage.read bridge.storage (target.pathFor request.id) =
            .ok request.document.text →
          Storage.read next.storage (target.pathFor request.id) =
            .ok request.document.text)
    (born : ∀ {generation request config},
      entry = .launched request config (.ok (.started generation)) →
        ∃ target ∈ targets,
          .launched ⟨.document request.id, generation,
            config.checkCommand (target.pathFor request.id)⟩ ∈ effects ∧
          Storage.read next.storage (target.pathFor request.id) =
            .ok request.document.text) :
    Entrusted targets next (seen ++ effects) := by
  intro generation slot request config stderr live current
  rcases step.check_iff.mp live with ⟨lasts, text, before, _⟩ | ⟨started, _, _⟩
  · -- A request that is current now was current before.
    obtain ⟨rfl, later, launched, _⟩ := recorded.checks before
    have known := recorded.tickets.launched launched.mem
    have earlier := (recorded.tickets.isCurrent_of_step step known current).2
    obtain ⟨target, inside, told, stored⟩ := entrusted before earlier
    exact ⟨target, inside, List.mem_append_left _ told,
      kept known earlier lasts target inside stored⟩
  · obtain ⟨target, inside, told, stored⟩ := born started
    exact ⟨target, inside, List.mem_append_right _ told, stored⟩

/-- A step that touches no file and starts no check. -/
theorem Entrusted.quiet (entrusted : Entrusted targets bridge seen)
    (recorded : Recorded bridge past seen)
    (step : Steps past bridge entry effects next)
    (same : next.storage = bridge.storage)
    (unlike : ∀ request config answer, entry ≠ .launched request config answer) :
    Entrusted targets next (seen ++ effects) := by
  apply entrusted.step recorded step
  · intro generation request _ _ _ target _ stored
    rw [same]
    exact stored
  · intro generation request config started
    exact absurd started (unlike _ _ _)

section Distinct

variable (faithful : Storage.Faithful σ apart)
  (distinct : ∀ {left right id other}, left ∈ targets → right ∈ targets →
    id ∈ documents → other ∈ documents → id ≠ other →
      apart (Scratch.pathFor left id) (Scratch.pathFor right other))

include faithful distinct

theorem Entrusted.close (entrusted : Entrusted targets bridge seen)
    (recorded : Recorded bridge past seen)
    (housed : Housed documents targets bridge past) {id : String}
    (member : id ∈ documents) :
    Entrusted targets (bridge.close id).1 (seen ++ (bridge.close id).2.2) := by
  apply entrusted.step recorded (.close id _)
  · intro generation request asked _ lasts target among stored
    have different : id ≠ request.id := by
      rintro rfl
      exact lasts rfl
    exact faithful.remove_apart
      (distinct housed.target among member (housed.known asked) different)
      bridge.storage stored
  · intro generation request config started
    cases started

/-- What is written for a request is written to no file of another document. -/
theorem Housed.read_write (housed : Housed documents targets bridge past)
    (asked : .asked request ∈ past) {other : CheckRequest}
    (earlier : .asked other ∈ past) (different : request.id ≠ other.id)
    {target : Scratch} (among : target ∈ targets) {text : String}
    (stored : Storage.read bridge.storage (target.pathFor other.id) = .ok text) :
    Storage.read (Storage.write bridge.storage
      (bridge.scratch.pathFor request.id) request.document.text).1
      (target.pathFor other.id) = .ok text :=
  faithful.write_apart
    (distinct housed.target among (housed.known asked) (housed.known earlier)
      different)
    bridge.storage _ stored

theorem Entrusted.launch (entrusted : Entrusted targets bridge seen)
    (recorded : Recorded bridge past seen)
    (housed : Housed documents targets bridge past)
    (asked : .asked request ∈ past) (launcher : Launcher σ) (config : Config) :
    Entrusted targets (bridge.launch launcher request config).1
      (seen ++ (bridge.launch launcher request config).2.2) := by
  cases current : bridge.isCurrent request with
  | false =>
      rw [launch_of_stale current, List.append_nil]
      exact entrusted
  | true =>
      have refused := @faithful.refused bridge.storage
        (bridge.scratch.pathFor request.id) request.document.text
      have holds := @faithful.written bridge.storage
        (bridge.scratch.pathFor request.id) request.document.text
      have elsewhere {other : CheckRequest} (earlier : .asked other ∈ past)
          (lasts : Slot.document other.id ≠ .document request.id)
          {target : Scratch} (among : target ∈ targets) {text : String}
          (stored : Storage.read bridge.storage (target.pathFor other.id) =
            .ok text) :=
        housed.read_write faithful distinct asked earlier
          (fun same => lasts (congrArg Slot.document same.symm)) among stored
      -- A refused write changes no text.  Any other one is followed by the end of
      -- the older check, whether or not the tool can be started.
      rw [launch_of_current current]
      generalize Storage.write bridge.storage
        (bridge.scratch.pathFor request.id) request.document.text = outcome
        at refused holds elsewhere ⊢
      obtain ⟨storage, cause | _⟩ := outcome
      · have step : Steps past bridge (.launched request config _) _ _ :=
          .launch asked (.unwritten current storage
            (bridge.scratch.pathFor request.id) cause)
        apply entrusted.step recorded step
        · intro generation other _ _ _ target _ stored
          exact refused rfl stored
        · intro generation other config started
          cases started
      · dsimp only
        cases launcher storage
          (config.checkCommand (bridge.scratch.pathFor request.id)) with
        | error cause =>
            have step : Steps past bridge (.launched request config _) _ _ :=
              .launch asked (.refused current storage
                (config.checkCommand (bridge.scratch.pathFor request.id)).display
                cause)
            apply entrusted.step recorded step
            · intro generation other earlier _ lasts target among stored
              exact elsewhere earlier lasts among stored
            · intro generation other config started
              cases started
        | ok _ =>
            have step : Steps past bridge (.launched request config _) _ _ :=
              .launch asked (.started current storage
                (config.checkCommand (bridge.scratch.pathFor request.id)))
            apply entrusted.step recorded step
            · intro generation other earlier _ lasts target among stored
              exact elsewhere earlier lasts among stored
            · intro generation other config started
              cases started
              exact ⟨bridge.scratch, housed.target, by simp, holds rfl⟩

theorem Entrusted.advance {history : History σ}
    (housed : Housed documents targets history.bridge history.past)
    (entrusted : Entrusted targets history.bridge history.effects)
    (recorded : Recorded history.bridge history.past history.effects)
    {action : Action σ} (within : action.Within documents targets) :
    Entrusted targets (history.advance action).bridge
      (history.advance action).effects := by
  cases action with
  | ask snapshot => exact entrusted.quiet recorded (.ask snapshot) rfl (by simp)
  | launch launcher ticket config =>
      unfold History.advance
      cases found : history.request? ticket with
      | none =>
          simp only [History.perform, found, List.append_nil]
          exact entrusted
      | some request =>
          simp only [History.perform, found]
          exact entrusted.launch faithful distinct recorded housed
            (History.asked_of_request? found) launcher config
  | receive generation event =>
      exact entrusted.quiet recorded (.receive (receives _ generation event))
        (storage_receive _ _ _) (by simp)
  | close id => exact entrusted.close faithful distinct recorded housed within
  | start launcher document path config =>
      exact entrusted.quiet recorded
        (.start (starts _ launcher document path config))
        (storage_start _ _ _ _ _) (by simp)
  | stop =>
      change Entrusted targets history.bridge.stop.1
        (history.effects ++ history.bridge.stop.2.2)
      rw [stop_eq]
      exact entrusted.quiet recorded .stop rfl (by simp)
  | retarget directory extension =>
      exact entrusted.quiet recorded (.retarget directory extension) rfl (by simp)
  | disturb storage => exact within.elim
  | killAll => exact entrusted.quiet recorded .killAll rfl (by simp)

end Distinct

/-! ## After a close -/

omit [Storage σ] in
theorem asked_of_closed {history : History σ}
    (recorded : Recorded history.bridge history.past history.effects)
    {before later : List Entry}
    (closed : history.past = before ++ .closed request.id :: later)
    (asked : .asked request ∈ history.past)
    (current : history.bridge.isCurrent request = true) :
    .asked request ∈ later := by
  have newest := (recorded.tickets.isCurrent_iff asked).mp current
  have since : newest? request.id history.past = newest? request.id later := by
    rw [closed, newest?, List.foldl_append, List.foldl_cons, Entry.renew,
      if_pos rfl]
    rfl
  rw [since] at newest
  exact (asked_of_newest? newest).1

/-! ## Every history -/

/-- What is in the scratch files after a history. -/
structure ChecksOwnSnapshot (targets : Set Scratch) (history : History σ) : Prop where
  /-- A live check whose request is current was started on a scratch file that
  holds the text of its snapshot now. -/
  held : ∀ {generation slot request config stderr},
    history.bridge.processes.process? generation =
        some (slot, .check request config stderr) →
      history.bridge.isCurrent request = true →
      ∃ target ∈ targets,
        .launched ⟨.document request.id, generation,
          config.checkCommand (target.pathFor request.id)⟩ ∈ history.effects ∧
        Storage.read history.bridge.storage (target.pathFor request.id) =
          .ok request.document.text
  /-- Nothing is written but by the launch of a current request. -/
  filed : ∀ action,
    (history.advance action).bridge.storage = history.filed action
  /-- After a close only a request that was issued since writes. -/
  closed : ∀ {before later ticket request} launcher config,
    history.past = before ++ .closed request.id :: later →
      history.request? ticket = some request → .asked request ∉ later →
      (history.advance (.launch launcher ticket config)).bridge.storage =
        history.bridge.storage

/-- Whatever is done with a bridge in whatever order, a check whose request is
still the newest one has the text of its own snapshot in front of it, if the
scratch files of distinct documents are distinct and nobody else touches
them. -/
theorem checksOwnSnapshot_after (faithful : Storage.Faithful σ apart)
    (distinct : ∀ {left right id other}, left ∈ targets → right ∈ targets →
      id ∈ documents → other ∈ documents → id ≠ other →
        apart (Scratch.pathFor left id) (Scratch.pathFor right other))
    (storage : σ) {scratch : Scratch} (inside : scratch ∈ targets)
    {actions : List (Action σ)}
    (within : ∀ action ∈ actions, action.Within documents targets) :
    ChecksOwnSnapshot targets (History.after storage scratch actions) := by
  have recorded (actions : List (Action σ)) :=
    recorded_after storage scratch actions
  have both :
      Housed documents targets (History.after storage scratch actions).bridge
          (History.after storage scratch actions).past ∧
        Entrusted targets (History.after storage scratch actions).bridge
          (History.after storage scratch actions).effects := by
    induction actions using List.reverseRecOn with
    | nil =>
        refine ⟨⟨inside, ?_⟩, ?_⟩
        · intro request asked
          cases asked
        · intro generation slot request config stderr live
          cases live
    | append_singleton actions action ih =>
        obtain ⟨housed, entrusted⟩ := ih fun earlier member =>
          within earlier (List.mem_append_left _ member)
        have last : action.Within documents targets :=
          within action (List.mem_append_right _ (List.mem_singleton.mpr rfl))
        rw [History.after_append_singleton]
        exact ⟨housed.advance last,
          entrusted.advance faithful distinct housed (recorded actions) last⟩
  refine ⟨fun live current => both.2 live current, storage_advance _, ?_⟩
  intro before later ticket request launcher config closed found unasked
  have stale : (History.after storage scratch actions).bridge.isCurrent request =
      false := by
    apply Bool.eq_false_iff.mpr
    intro current
    exact unasked (asked_of_closed (recorded actions) closed
      (History.asked_of_request? found) current)
  rw [storage_advance]
  simp only [History.filed, found, stale, Bool.false_eq_true, if_false]

/-- Scratch files in one of two directories. -/
def shelves : Set Scratch := {⟨"d", "frg"⟩, ⟨"e", "frg"⟩}

theorem namedApart_shelves {left right : Scratch} {id other : String}
    (first : left ∈ shelves) (second : right ∈ shelves)
    (one : id ∈ ({"a", "b"} : Set String))
    (another : other ∈ ({"a", "b"} : Set String)) (different : id ≠ other) :
    FileTree.NamedApart (left.pathFor id) (right.pathFor other) := by
  have extension {scratch : Scratch} (member : scratch ∈ shelves) :
      scratch.extension = "frg" := by
    rcases member with rfl | rfl
    · rfl
    · rfl
  apply FileTree.namedApart_pathFor
  · rw [extension first]
    decide
  · rw [extension second]
    decide
  · -- The stems begin with different letters.
    rw [extension first, extension second]
    intro same
    have letters := congrArg List.head? same
    rcases one with rfl | rfl
    · rcases another with rfl | rfl
      · exact different rfl
      · exact absurd letters (by decide)
    · rcases another with rfl | rfl
      · exact absurd letters (by decide)
      · exact different rfl

/-- The second document is checked and closed in another directory while the
check of the first one goes on. -/
def movedAway : List (Action FileTree) :=
  [.ask ⟨⟨"a", 1, "("⟩, 0⟩, .launch FileTree.admits 1 {}, .retarget "e" "frg",
    .ask ⟨⟨"b", 1, ")"⟩, 1⟩, .launch FileTree.admits 2 {},
    .receive 2 (.exit (some 0)), .close "b", .launch FileTree.admits 2 {}]

theorem checksOwnSnapshot_movedAway :
    (⟨"d", "frg"⟩ : Scratch) ∈ shelves ∧
      (∀ action ∈ movedAway, action.Within {"a", "b"} shelves) ∧
      ((History.after {} ⟨"d", "frg"⟩ movedAway).bridge.processes.running?
        (.document "a")).isSome = true ∧
      ChecksOwnSnapshot shelves (History.after {} ⟨"d", "frg"⟩ movedAway) := by
  have inside : (⟨"d", "frg"⟩ : Scratch) ∈ shelves := Or.inl rfl
  have within : ∀ action ∈ movedAway, action.Within {"a", "b"} shelves := by
    simp [movedAway, Action.Within, Snapshot.id, shelves]
  exact ⟨inside, within, by decide +kernel,
    checksOwnSnapshot_after FileTree.faithful namedApart_shelves {} inside within⟩

end ToolBridge.Bridge
