import Mathlib.Data.Set.Function
import ToolBridge.Proofs.Bridge.CheckerCalls

/-!
# Independence of documents

All documents share one sequencer, one table of processes, one publisher and
one storage.  Yet what can be seen of a document depends on its own calls
only, as long as its scratch file is its own: the calls of other documents
leave its view as it is, and its own calls change it in a way that the
view alone decides.
-/

namespace ToolBridge.Bridge

variable {σ π : Type} {history : History σ} {next : Bridge σ}
  {call : CheckerCall} {entries : List Entry} {effects : List Effect} {id : String}

/-! ## CheckerCalls of other documents -/

/-- A view shows no more than the diagnostics, the ticket, the live process
and the journal of its document. -/
theorem Sound.view_kept
    (sound : Sound history.bridge history.past history.effects)
    (publisher : next.publisher.sets id = history.bridge.publisher.sets id)
    (tickets : next.tickets.latest.get? id =
      history.bridge.tickets.latest.get? id)
    (processes : next.processes.running? (.document id) =
      history.bridge.processes.running? (.document id))
    (requests : requestsOf id (history.past ++ entries) =
      requestsOf id history.past)
    (attempts : attemptsOf id (history.past ++ entries) =
      attemptsOf id history.past)
    (effects : List Effect) :
    (history.extend next entries effects).view id = history.view id := by
  have flags : (requestsOf id history.past).map
        (fun request => (request.snapshot, next.isCurrent request)) =
      (requestsOf id history.past).map
        (fun request =>
          (request.snapshot, history.bridge.isCurrent request)) := by
    apply List.map_congr_left
    intro request member
    obtain ⟨_, rfl⟩ := mem_requestsOf_iff.mp member
    rw [isCurrent, isCurrent, Sequencer.isCurrent, Sequencer.isCurrent,
      tickets]
  have courses := sound.courses_kept id [] effects
  rw [List.append_nil] at courses
  unfold History.view view History.extend
  dsimp only
  rw [requests, attempts, processes, publisher, flags, courses]

theorem ne_of_found {request : CheckRequest} {place : String} {index : Nat}
    (found : (requestsOf place history.past)[index]? = some request)
    (other : place ≠ id) : request.id ≠ id := by
  rw [(mem_of_request_found found).2]
  exact other

theorem ne_of_live {generation : Nat} {observer : Observer} {place slot : Slot}
    (live : history.bridge.processes.running? place =
      some ⟨generation, observer⟩)
    (elsewhere : slot ≠ place) (other : Observer) :
    history.bridge.processes.process? generation ≠ some (slot, other) := by
  rw [ProcessTable.running?_eq_some_iff.mp live]
  intro same
  cases same
  exact elsewhere rfl

variable [Storage σ]

theorem Yields.view_of_ne
    (sound : Sound history.bridge history.past history.effects)
    (yields : Yields history call next entries effects)
    (other : call.id ≠ id) :
    (history.extend next entries effects).view id = history.view id := by
  have elsewhere : Slot.document id ≠ .document call.id := by
    intro same
    exact other (Slot.document.inj same).symm
  cases yields with
  | ask snapshot =>
      have unlike : CheckRequest.id
          ⟨snapshot, history.bridge.tickets.issued + 1⟩ ≠ id := other
      apply sound.view_kept
      · exact (Publisher.sets_clear _ _ _).trans (if_neg other)
      · exact (Dict.get?_insert _ _ _ _).trans (if_neg other)
      · rfl
      · exact requestsOf_of_ne unlike _
      · exact attemptsOf_of_none rfl _ _
  | unknown => simp [History.extend, History.view]
  | stale config answer found outdated =>
      exact sound.view_kept rfl rfl rfl (requestsOf_of_none rfl _ _)
        (attemptsOf_of_ne (ne_of_found found other) _ _ _) _
  | unwritten config answer found current written =>
      apply sound.view_kept
      · rfl
      · rfl
      · rfl
      · exact requestsOf_of_none rfl _ _
      · exact attemptsOf_of_ne (ne_of_found found other) _ _ _
  | refused config cause found current written =>
      apply sound.view_kept
      · rfl
      · rfl
      · exact ProcessTable.running?_vacate_of_ne elsewhere
      · exact requestsOf_of_none rfl _ _
      · exact attemptsOf_of_ne (ne_of_found found other) _ _ _
  | started config found current written =>
      apply sound.view_kept
      · rfl
      · rfl
      · exact ProcessTable.running?_enter_of_ne elsewhere
      · exact requestsOf_of_none rfl _ _
      · exact attemptsOf_of_ne (ne_of_found found other) _ _ _
  | absent => simp [History.extend, History.view]
  | shut => exact view_unheard _ _
  | stdout => exact view_unheard _ _
  | stderr line found begun live =>
      apply sound.view_kept
      · rfl
      · rfl
      · exact ProcessTable.running?_observe_of_ne (ne_of_live live elsewhere)
      · exact requestsOf_of_none rfl _ _
      · exact attemptsOf_of_none rfl _ _
  | outdated code found begun live stale =>
      apply sound.view_kept
      · rfl
      · rfl
      · exact ProcessTable.running?_retire_of_ne (ne_of_live live elsewhere)
      · exact requestsOf_of_none rfl _ _
      · exact attemptsOf_of_none rfl _ _
  | checked code found begun live current =>
      have same := (mem_attemptsOf_iff.mp (List.mem_of_getElem? found)).2
      apply sound.view_kept
      · refine (Publisher.sets_replace _ _ _ _ _).trans (if_neg ?_)
        rw [same]
        exact other
      · rfl
      · exact ProcessTable.running?_retire_of_ne (ne_of_live live elsewhere)
      · exact requestsOf_of_none rfl _ _
      · exact attemptsOf_of_none rfl _ _
  | close closed =>
      apply sound.view_kept
      · exact (Publisher.sets_clear _ _ _).trans (if_neg other)
      · exact (Dict.get?_erase _ _ _).trans (if_neg other)
      · exact ProcessTable.running?_vacate_of_ne elsewhere
      · exact requestsOf_of_none rfl _ _
      · exact attemptsOf_of_none rfl _ _

/-! ## Two histories that are alike for a document -/

/-- What the operations on a path depend on is a part of the storage of its
own: they change it in a way that it alone decides, and they leave the parts of
the other paths as they are. -/
structure Parted (part : String → σ → π) (paths : Set String) : Prop where
  write : ∀ {path}, path ∈ paths → ∀ {left right : σ} (text : String),
    part path left = part path right →
      part path (Storage.write left path text).1 =
          part path (Storage.write right path text).1 ∧
        (Storage.write left path text).2 = (Storage.write right path text).2
  remove : ∀ {path}, path ∈ paths → ∀ {left right : σ},
    part path left = part path right →
      part path (Storage.remove left path).1 =
          part path (Storage.remove right path).1 ∧
        (Storage.remove left path).2 = (Storage.remove right path).2
  read : ∀ {path}, path ∈ paths → ∀ {left right : σ},
    part path left = part path right →
      Storage.read left path = Storage.read right path
  write_of_ne : ∀ {path other}, path ∈ paths → other ∈ paths → path ≠ other →
    ∀ (storage : σ) (text : String),
      part other (Storage.write storage path text).1 = part other storage
  remove_of_ne : ∀ {path other}, path ∈ paths → other ∈ paths → path ≠ other →
    ∀ storage : σ,
      part other (Storage.remove storage path).1 = part other storage

namespace Parted

variable {part : String → σ → π} {paths : Set String} {path other : String}

/-- Where the scratch files are alike, a call takes them alike. -/
theorem touch_eq (parted : Parted part paths) (member : path ∈ paths)
    (view : DocumentView) (call : CheckerCall) {left right : σ}
    (same : part path left = part path right) :
    part path (view.touch path left call).1 =
        part path (view.touch path right call).1 ∧
      (view.touch path left call).2 =
        (view.touch path right call).2 := by
  cases call with
  | launch id request config answer =>
      unfold DocumentView.touch
      dsimp only
      split
      · exact parted.write member _ same
      · exact ⟨same, rfl⟩
  | close id => exact parted.remove member same
  | _ => exact ⟨same, rfl⟩

theorem touch_of_ne (parted : Parted part paths) (member : path ∈ paths)
    (inside : other ∈ paths) (different : path ≠ other) (view : DocumentView)
    (call : CheckerCall) (storage : σ) :
    part other (view.touch path storage call).1 = part other storage := by
  cases call with
  | launch id request config answer =>
      unfold DocumentView.touch
      dsimp only
      split
      · exact parted.write_of_ne member inside different storage _
      · rfl
  | close id => exact parted.remove_of_ne member inside different storage
  | _ => rfl

end Parted

/-- Two histories in which a document has the same view, and its scratch
file the same state. -/
structure Alike (part : String → σ → π) (scratch : Scratch) (id : String)
    (left right : History σ) : Prop where
  soundLeft : Sound left.bridge left.past left.effects
  soundRight : Sound right.bridge right.past right.effects
  scratchLeft : left.bridge.scratch = scratch
  scratchRight : right.bridge.scratch = scratch
  view : left.view id = right.view id
  file : part (scratch.pathFor id) left.bridge.storage =
    part (scratch.pathFor id) right.bridge.storage

namespace Alike

variable {part : String → σ → π} {scratch : Scratch} {documents : Set String}
  {left right : History σ}

theorem carryOut_both (alike : Alike part scratch id left right)
    (parted : Parted part (scratch.pathFor '' documents))
    (member : id ∈ documents) (own : call.id = id) :
    Alike part scratch id (left.carryOut call) (right.carryOut call) := by
  subst own
  have path : scratch.pathFor call.id ∈ scratch.pathFor '' documents :=
    Set.mem_image_of_mem _ member
  -- The two histories may give different numbers to what they do for the
  -- call, but a view does not show them.
  obtain ⟨next, entries, effects, yields, carried⟩ :=
    alike.soundLeft.yields call
  obtain ⟨next', entries', effects', yields', carried'⟩ :=
    alike.soundRight.yields call
  have soundLeft := History.sound_carryOut alike.soundLeft call
  have soundRight := History.sound_carryOut alike.soundRight call
  have taken := parted.touch_eq path (right.view call.id) call alike.file
  rw [carried] at soundLeft ⊢
  rw [carried'] at soundRight ⊢
  refine ⟨soundLeft, soundRight, ?_, ?_, ?_, ?_⟩
  · exact yields.scratch_eq.trans alike.scratchLeft
  · exact yields'.scratch_eq.trans alike.scratchRight
  · rw [yields.view_eq alike.soundLeft, yields'.view_eq alike.soundRight,
      alike.view, alike.scratchLeft, alike.scratchRight, taken.2]
  · change part _ next.storage = part _ next'.storage
    rw [yields.storage_eq, yields'.storage_eq, alike.view, alike.scratchLeft,
      alike.scratchRight, taken.1]

theorem carryOut_left (alike : Alike part scratch id left right)
    (distinct : Set.InjOn scratch.pathFor documents)
    (parted : Parted part (scratch.pathFor '' documents))
    (member : id ∈ documents) (inside : call.id ∈ documents)
    (other : call.id ≠ id) :
    Alike part scratch id (left.carryOut call) right := by
  obtain ⟨next, entries, effects, yields, carried⟩ :=
    alike.soundLeft.yields call
  have soundLeft := History.sound_carryOut alike.soundLeft call
  have apart : scratch.pathFor call.id ≠ scratch.pathFor id := by
    intro same
    exact other (distinct inside member same)
  rw [carried] at soundLeft ⊢
  refine ⟨soundLeft, alike.soundRight, ?_, alike.scratchRight, ?_, ?_⟩
  · exact yields.scratch_eq.trans alike.scratchLeft
  · exact (yields.view_of_ne alike.soundLeft other).trans alike.view
  · change part _ next.storage = _
    rw [yields.storage_eq, alike.scratchLeft]
    refine Eq.trans ?_ alike.file
    exact parted.touch_of_ne (Set.mem_image_of_mem _ inside)
      (Set.mem_image_of_mem _ member) apart _ _ _

end Alike

/-! ## Histories of calls -/

variable {part : String → σ → π} {scratch : Scratch} {documents : Set String}

theorem History.afterCalls_append_singleton (storage : σ) (scratch : Scratch)
    (calls : List CheckerCall) (call : CheckerCall) :
    afterCalls storage scratch (calls ++ [call]) =
      (afterCalls storage scratch calls).carryOut call :=
  List.foldl_append

/-- What is left out for a document are calls of others. -/
theorem alike_afterCalls (distinct : Set.InjOn scratch.pathFor documents)
    (parted : Parted part (scratch.pathFor '' documents))
    (member : id ∈ documents) (storage : σ) {calls : List CheckerCall}
    (inside : ∀ call ∈ calls, call.id ∈ documents) :
    Alike part scratch id (.afterCalls storage scratch calls)
      (.afterCalls storage scratch
        (calls.filter fun call => call.id = id)) := by
  induction calls using List.reverseRecOn with
  | nil =>
      have sound := Sound.initially storage scratch
      exact ⟨sound, sound, rfl, rfl, rfl, rfl⟩
  | append_singleton calls call ih =>
      have alike := ih fun other earlier =>
        inside other (List.mem_append_left _ earlier)
      rw [History.afterCalls_append_singleton, List.filter_append]
      by_cases own : call.id = id
      · have kept : [call].filter (fun call => call.id = id) = [call] := by
          simp [own]
        rw [kept, History.afterCalls_append_singleton]
        exact alike.carryOut_both parted member own
      · have dropped : [call].filter (fun call => call.id = id) = [] := by
          simp [own]
        rw [dropped, List.append_nil]
        exact alike.carryOut_left distinct parted member
          (inside call (by simp)) own

/-- What can be seen of a document: its view and its scratch file. -/
structure Observation where
  view : DocumentView
  file : Except OsError String

def History.observe (history : History σ) (id : String) : Observation :=
  ⟨history.view id,
    Storage.read history.bridge.storage (history.bridge.scratch.pathFor id)⟩

theorem Alike.observe_eq {left right : History σ}
    (alike : Alike part scratch id left right)
    (parted : Parted part (scratch.pathFor '' documents))
    (member : id ∈ documents) : left.observe id = right.observe id := by
  have file := parted.read (Set.mem_image_of_mem _ member) alike.file
  unfold History.observe
  rw [alike.view, alike.scratchLeft, alike.scratchRight, file]

/-- What independence means for a sequence of calls. -/
structure Independent (storage : σ) (scratch : Scratch)
    (documents : Set String) (calls : List CheckerCall) : Prop where
  /-- Only the calls of a document can be seen in it. -/
  alone : ∀ id ∈ documents,
    (History.afterCalls storage scratch calls).observe id =
      (History.afterCalls storage scratch
        (calls.filter fun call => call.id = id)).observe id
  /-- It cannot be seen which of two neighbouring calls of different
  documents came first. -/
  swapped : ∀ {earlier first second later},
    calls = earlier ++ first :: second :: later → first.id ≠ second.id →
      ∀ id ∈ documents,
        (History.afterCalls storage scratch
          (earlier ++ second :: first :: later)).observe id =
          (History.afterCalls storage scratch calls).observe id

theorem filter_swap {earlier later : List CheckerCall} {first second : CheckerCall}
    (different : first.id ≠ second.id) (id : String) :
    (earlier ++ second :: first :: later).filter (fun call => call.id = id) =
      (earlier ++ first :: second :: later).filter
        (fun call => call.id = id) := by
  rw [List.filter_append, List.filter_append]
  congr 1
  by_cases own : first.id = id
  · have other : second.id ≠ id := fun same => different (own.trans same.symm)
    simp [own, other]
  · simp [List.filter_cons, own]

/-- Whatever is done with the checks of any documents in whatever order, what
can be seen of a document is what its own calls bring about, if distinct
documents have distinct scratch files and the storage keeps these apart. -/
theorem independent_afterCalls (part : String → σ → π) (scratch : Scratch)
    (documents : Set String)
    (distinct : Set.InjOn scratch.pathFor documents)
    (parted : Parted part (scratch.pathFor '' documents)) (storage : σ)
    (calls : List CheckerCall)
    (inside : ∀ call ∈ calls, call.id ∈ documents) :
    Independent storage scratch documents calls := by
  have alone {calls : List CheckerCall}
      (inside : ∀ call ∈ calls, call.id ∈ documents) {id : String}
      (member : id ∈ documents) :=
    (alike_afterCalls distinct parted member storage inside).observe_eq parted
      member
  constructor
  · intro id member
    exact alone inside member
  · rintro earlier first second later rfl different id member
    have reordered : ∀ call ∈ earlier ++ second :: first :: later,
        call.id ∈ documents := by
      intro call among
      apply inside
      simp only [List.mem_append, List.mem_cons] at among ⊢
      tauto
    rw [alone inside member, alone reordered member, filter_swap different]

/-- A storage that keeps the text of every file under its path. -/
structure Drawer where
  files : Dict String String := {}

instance : Storage Drawer where
  write drawer path text := (⟨drawer.files.insert path text⟩, .ok ())
  remove drawer path := (⟨drawer.files.erase path⟩, .ok ())
  read drawer path :=
    match drawer.files.get? path with
    | some text => .ok text
    | none => .error .notFound

theorem parted_drawer (paths : Set String) :
    Parted (fun path (drawer : Drawer) => drawer.files.get? path) paths where
  write := by simp [Storage.write]
  remove := by simp [Storage.remove]
  read := by
    intro path _ left right same
    dsimp only [Storage.read]
    rw [same]
  write_of_ne := by
    intro path other _ _ different drawer text
    exact (Dict.get?_insert _ _ _ _).trans (if_neg different)
  remove_of_ne := by
    intro path other _ _ different drawer
    exact (Dict.get?_erase _ _ _).trans (if_neg different)

/-- Two documents are checked side by side, and the first one is edited while
its process is live. -/
def sideBySide : List CheckerCall :=
  [.ask ⟨⟨"a", 1, "("⟩, 0⟩, .ask ⟨⟨"b", 1, "("⟩, 1⟩,
    .launch "b" 0 {} (.ok ()), .launch "a" 0 {} (.ok ()),
    .receive "a" 0 (.stderr "a.frg:1:1: read"), .ask ⟨⟨"a", 2, ")"⟩, 2⟩,
    .receive "b" 0 (.exit (some 0)), .receive "a" 0 (.exit (some 1)),
    .launch "a" 1 {} (.error .notFound), .close "b"]

theorem injOn_pathFor :
    Set.InjOn (Scratch.pathFor ⟨"", "frg"⟩) {"a", "b"} := by
  have different :
      Scratch.pathFor ⟨"", "frg"⟩ "a" ≠ Scratch.pathFor ⟨"", "frg"⟩ "b" := by
    intro same
    have first := congrArg (fun path => path.toList.head?) same
    simp only [Scratch.pathFor, String.toList_ofList] at first
    exact absurd first (by decide)
  rintro left (rfl | rfl) right (rfl | rfl) same
  · rfl
  · exact absurd same different
  · exact absurd same.symm different
  · rfl

theorem independent_sideBySide :
    Set.InjOn (Scratch.pathFor ⟨"", "frg"⟩) {"a", "b"} ∧
      Parted (fun path (drawer : Drawer) => drawer.files.get? path)
        (Scratch.pathFor ⟨"", "frg"⟩ '' {"a", "b"}) ∧
      (∀ call ∈ sideBySide, call.id ∈ ({"a", "b"} : Set String)) ∧
      Independent ({} : Drawer) ⟨"", "frg"⟩ {"a", "b"} sideBySide := by
  have inside : ∀ call ∈ sideBySide, call.id ∈ ({"a", "b"} : Set String) := by
    simp [sideBySide, CheckerCall.id, Snapshot.id]
  have parted := parted_drawer (Scratch.pathFor ⟨"", "frg"⟩ '' {"a", "b"})
  exact ⟨injOn_pathFor, parted, inside,
    independent_afterCalls _ _ _ injOn_pathFor parted _ _ inside⟩

end ToolBridge.Bridge
