import ToolBridge.Dict
import ToolBridge.Failure

/-!
# The supervisor's table of processes

At most one toolchain process is live in a slot.  Each attempt to start one
uses up a generation, and the table knows for each slot the generation that
is live in it.

Every process that was started has a handle.  What the process says passes
the gate of its handle to an observer, and the gate is shut when the process
ends or is terminated.  What a process of an older generation still says is
nobody's concern.  The gates and the slots are two records of what is live,
and a table carries the proof that they agree.
-/

namespace ToolBridge

/-- What can have a live process of its own. -/
inductive Slot where
  /-- The background check of a document. -/
  | document (id : String)
  /-- The run that the user asked for. -/
  | interactive
  deriving DecidableEq, Repr

namespace Slot

def label : Slot → String
  | document id => "doc:" ++ id
  | interactive => "interactive"

end Slot

/-- What a process does, as it is seen from outside. -/
inductive ProcessEvent where
  /-- A line on standard output, without its terminator. -/
  | stdout (line : String)
  /-- A line on standard error, without its terminator. -/
  | stderr (line : String)
  /-- The end, without a code when a signal ended the process. -/
  | exit (code : Option Int)
  deriving DecidableEq, Repr

/-- A live process and its observer. -/
structure Running (α : Type) where
  generation : Nat
  observer : α
  deriving DecidableEq, Repr

/-- A process that was started, with its observer and its gate. -/
structure Handle (α : Type) where
  slot : Slot
  observer : α
  isOpen : Bool := true
  deriving DecidableEq, Repr

namespace Handle

variable {α : Type}

def shut (handle : Handle α) : Handle α :=
  { handle with isOpen := false }

end Handle

namespace ProcessTable

variable {α : Type}

def shutGate (handles : Dict Nat (Handle α)) (generation : Nat) :
    Dict Nat (Handle α) :=
  match handles.get? generation with
  | some handle => handles.insert generation handle.shut
  | none => handles

/-- Shut the gate of the generation that is live in a slot. -/
def shutSlot (live : Dict Slot Nat) (handles : Dict Nat (Handle α))
    (slot : Slot) : Dict Nat (Handle α) :=
  match live.get? slot with
  | some generation => shutGate handles generation
  | none => handles

/-- The slots without a generation that has ended.  Its slot may be another
generation's by now. -/
def withoutEnded (live : Dict Slot Nat) (handles : Dict Nat (Handle α))
    (generation : Nat) : Dict Slot Nat :=
  match handles.get? generation with
  | some handle =>
      if live.get? handle.slot = some generation then live.erase handle.slot
      else live
  | none => live

theorem get?_shutGate (handles : Dict Nat (Handle α)) (generation other : Nat) :
    (shutGate handles generation).get? other =
      if generation = other then (handles.get? other).map Handle.shut
      else handles.get? other := by
  unfold shutGate
  cases found : handles.get? generation with
  | none =>
      by_cases same : generation = other
      · simp [← same, found]
      · simp [same]
  | some handle =>
      by_cases same : generation = other
      · simp [← same, found]
      · simp [Dict.get?_insert, same]

theorem get?_shutSlot (live : Dict Slot Nat) (handles : Dict Nat (Handle α))
    (slot : Slot) (other : Nat) :
    (shutSlot live handles slot).get? other =
      if live.get? slot = some other then (handles.get? other).map Handle.shut
      else handles.get? other := by
  unfold shutSlot
  cases entry : live.get? slot with
  | none => simp
  | some generation => simp [get?_shutGate]

/-- The slots and the gates agree: a slot has a generation exactly when the
gate of that generation is open for the slot. -/
structure Accord (issued : Nat) (live : Dict Slot Nat)
    (handles : Dict Nat (Handle α)) : Prop where
  bounded : ∀ {generation handle},
    handles.get? generation = some handle → generation ≤ issued
  opened : ∀ {slot generation}, live.get? slot = some generation →
    ∃ observer, handles.get? generation = some ⟨slot, observer, true⟩
  entered : ∀ {slot generation observer},
    handles.get? generation = some ⟨slot, observer, true⟩ →
      live.get? slot = some generation

def replaceObserver (handles : Dict Nat (Handle α)) (generation : Nat)
    (observer : α) : Dict Nat (Handle α) :=
  match handles.get? generation with
  | some handle => handles.insert generation { handle with observer }
  | none => handles

theorem get?_replaceObserver (handles : Dict Nat (Handle α))
    (generation other : Nat) (observer : α) :
    (replaceObserver handles generation observer).get? other =
      if generation = other then
        (handles.get? other).map fun handle => { handle with observer }
      else handles.get? other := by
  unfold replaceObserver
  cases found : handles.get? generation with
  | none =>
      by_cases same : generation = other
      · simp [← same, found]
      · simp [same]
  | some handle =>
      by_cases same : generation = other
      · simp [← same, found]
      · simp [Dict.get?_insert, same]

namespace Accord

variable {issued : Nat} {live : Dict Slot Nat} {handles : Dict Nat (Handle α)}

theorem empty (issued : Nat) :
    Accord issued {} ({} : Dict Nat (Handle α)) where
  bounded found := nomatch found
  opened found := nomatch found
  entered found := nomatch found

theorem mono (accord : Accord issued live handles) {later : Nat}
    (ordered : issued ≤ later) : Accord later live handles where
  bounded found := Nat.le_trans (accord.bounded found) ordered
  opened := accord.opened
  entered := accord.entered

theorem slot_unique (accord : Accord issued live handles)
    {first second : Slot} {generation : Nat}
    (left : live.get? first = some generation)
    (right : live.get? second = some generation) : first = second := by
  obtain ⟨_, leftHandle⟩ := accord.opened left
  obtain ⟨_, rightHandle⟩ := accord.opened right
  rw [leftHandle] at rightHandle
  injection rightHandle with equal
  injection equal

theorem vacate (accord : Accord issued live handles) (slot : Slot) :
    Accord issued (live.erase slot) (shutSlot live handles slot) where
  bounded {generation handle} found := by
    rw [get?_shutSlot] at found
    split at found
    · obtain ⟨earlier, known, _⟩ := Option.map_eq_some_iff.mp found
      exact accord.bounded known
    · exact accord.bounded found
  opened {other generation} entry := by
    rw [Dict.get?_erase] at entry
    split at entry
    · cases entry
    · rename_i different
      have elsewhere : live.get? slot ≠ some generation := fun here =>
        different (accord.slot_unique here entry)
      obtain ⟨observer, known⟩ := accord.opened entry
      exact ⟨observer, by rw [get?_shutSlot, if_neg elsewhere, known]⟩
  entered {other generation observer} found := by
    rw [get?_shutSlot] at found
    split at found
    · obtain ⟨earlier, _, shut⟩ := Option.map_eq_some_iff.mp found
      cases shut
    · rename_i elsewhere
      have entry := accord.entered found
      have different : slot ≠ other := fun same =>
        elsewhere (same ▸ entry)
      rw [Dict.get?_erase, if_neg different, entry]

theorem enter (accord : Accord issued live handles) (slot : Slot)
    (observer : α) :
    Accord (issued + 1) (live.insert slot (issued + 1))
      ((shutSlot live handles slot).insert (issued + 1) ⟨slot, observer, true⟩) where
  bounded {generation handle} found := by
    rw [Dict.get?_insert] at found
    split at found
    · omega
    · have := (accord.vacate slot).bounded found
      omega
  opened {other generation} entry := by
    rw [Dict.get?_insert] at entry
    split at entry
    · rename_i same
      cases entry
      exact ⟨observer, by rw [same, Dict.get?_insert_self]⟩
    · rename_i different
      have kept : (live.erase slot).get? other = some generation := by
        rw [Dict.get?_erase, if_neg different, entry]
      obtain ⟨earlier, known⟩ := (accord.vacate slot).opened kept
      have old : issued + 1 ≠ generation := by
        have := (accord.vacate slot).bounded known
        omega
      exact ⟨earlier, by rw [Dict.get?_insert, if_neg old, known]⟩
  entered {other generation earlier} found := by
    rw [Dict.get?_insert] at found
    split at found
    · rename_i same
      cases found
      rw [same, Dict.get?_insert_self]
    · have kept := (accord.vacate slot).entered found
      rw [Dict.get?_erase] at kept
      split at kept
      · cases kept
      · rename_i different
        rw [Dict.get?_insert, if_neg different, kept]

theorem retire (accord : Accord issued live handles) (generation : Nat) :
    Accord issued (withoutEnded live handles generation)
      (shutGate handles generation) := by
  -- An open gate is vacated; a gate that is shut already stays so.
  cases found : handles.get? generation with
  | none => simpa [withoutEnded, shutGate, found] using accord
  | some handle =>
      by_cases entry : live.get? handle.slot = some generation
      · have vacated := accord.vacate handle.slot
        simpa [withoutEnded, shutSlot, found, entry] using vacated
      · have closed : handle.shut = handle := by
          obtain ⟨slot, observer, isOpen⟩ := handle
          cases isOpen with
          | false => rfl
          | true => exact absurd (accord.entered found) entry
        have same (other : Nat) :
            (shutGate handles generation).get? other = handles.get? other := by
          rw [get?_shutGate]
          split
          · rename_i equal
            rw [← equal, found, Option.map_some, closed]
          · rfl
        simp only [withoutEnded, found, if_neg entry]
        exact
          { bounded := fun known => accord.bounded (same _ ▸ known)
            opened := fun known => by
              simpa only [same] using accord.opened known
            entered := fun known => accord.entered (same _ ▸ known) }

theorem observe (accord : Accord issued live handles) (generation : Nat)
    (observer : α) :
    Accord issued live (replaceObserver handles generation observer) where
  bounded {other handle} found := by
    rw [get?_replaceObserver] at found
    split at found
    · obtain ⟨earlier, known, _⟩ := Option.map_eq_some_iff.mp found
      exact accord.bounded known
    · exact accord.bounded found
  opened {slot other} entry := by
    obtain ⟨earlier, known⟩ := accord.opened entry
    rw [get?_replaceObserver, known]
    split
    · exact ⟨observer, rfl⟩
    · exact ⟨earlier, rfl⟩
  entered {slot other current} found := by
    rw [get?_replaceObserver] at found
    split at found
    · obtain ⟨⟨place, earlier, isOpen⟩, known, equal⟩ :=
        Option.map_eq_some_iff.mp found
      cases equal
      exact accord.entered known
    · exact accord.entered found

theorem shutAll (accord : Accord issued live handles) :
    Accord issued {} (handles.mapValues Handle.shut) where
  bounded found := by
    rw [Dict.get?_mapValues] at found
    obtain ⟨earlier, known, _⟩ := Option.map_eq_some_iff.mp found
    exact accord.bounded known
  opened found := nomatch found
  entered found := by
    rw [Dict.get?_mapValues] at found
    obtain ⟨earlier, _, equal⟩ := Option.map_eq_some_iff.mp found
    cases equal

end Accord

end ProcessTable

/-- The last generation, the generation that is live in each slot, and the
handle of every process that was started. -/
structure ProcessTable (α : Type) where
  issued : Nat
  live : Dict Slot Nat
  handles : Dict Nat (Handle α)
  accord : ProcessTable.Accord issued live handles
  deriving DecidableEq, Repr

namespace ProcessTable

variable {α : Type}

def empty : ProcessTable α where
  issued := 0
  live := {}
  handles := {}
  accord := Accord.empty 0

def running? (table : ProcessTable α) (slot : Slot) : Option (Running α) :=
  match table.live.get? slot with
  | some generation =>
      (table.handles.get? generation).map fun handle =>
        ⟨generation, handle.observer⟩
  | none => none

/-- The slot of a process and its observer, while the gate is open. -/
def process? (table : ProcessTable α) (generation : Nat) : Option (Slot × α) :=
  match table.handles.get? generation with
  | some ⟨slot, observer, true⟩ => some (slot, observer)
  | _ => none

/-- The observer of a process, while the gate is open. -/
def observer? (table : ProcessTable α) (generation : Nat) : Option α :=
  (table.process? generation).map Prod.snd

/-- The observer of a process that was started, whether it is live or not. -/
def lastObserver? (table : ProcessTable α) (generation : Nat) : Option α :=
  (table.handles.get? generation).map Handle.observer

/-- Empty a slot and shut the gate of what was live in it. -/
def vacate (table : ProcessTable α) (slot : Slot) : ProcessTable α :=
  { table with
    live := table.live.erase slot
    handles := shutSlot table.live table.handles slot
    accord := table.accord.vacate slot }

/-- Use up a generation for nothing. -/
def skip (table : ProcessTable α) : ProcessTable α :=
  { table with
    issued := table.issued + 1
    accord := table.accord.mono (Nat.le_succ _) }

/-- The next generation takes a slot. -/
def enter (table : ProcessTable α) (slot : Slot) (observer : α) :
    ProcessTable α :=
  { issued := table.issued + 1
    live := table.live.insert slot (table.issued + 1)
    handles :=
      (shutSlot table.live table.handles slot).insert (table.issued + 1)
        ⟨slot, observer, true⟩
    accord := table.accord.enter slot observer }

/-- Start a process in a slot, given the system's answer to the attempt.
Whatever was live in the slot is terminated and handed back, and an attempt
that failed leaves the slot empty. -/
def spawn (table : ProcessTable α) (slot : Slot)
    (launched : Except OsError Unit) (observer : α) :
    ProcessTable α × Except OsError Nat × Option (Running α) :=
  match launched with
  | .ok _ =>
      (table.enter slot observer, .ok (table.issued + 1), table.running? slot)
  | .error cause =>
      ((table.vacate slot).skip, .error cause, table.running? slot)

/-- Terminate the live process of a slot and hand it back. -/
def kill (table : ProcessTable α) (slot : Slot) :
    ProcessTable α × Option (Running α) :=
  (table.vacate slot, table.running? slot)

/-- Terminate all live processes and hand them back. -/
def killAll (table : ProcessTable α) :
    ProcessTable α × List (Running α) :=
  ({ table with
      live := {}
      handles := table.handles.mapValues Handle.shut
      accord := table.accord.shutAll },
    table.live.keys.filterMap table.running?)

def generation? (table : ProcessTable α) (slot : Slot) : Option Nat :=
  table.live.get? slot

def isLive (table : ProcessTable α) (slot : Slot) : Bool :=
  table.live.contains slot

/-- Give a process another observer. -/
def observe (table : ProcessTable α) (generation : Nat) (observer : α) :
    ProcessTable α :=
  { table with
    handles := replaceObserver table.handles generation observer
    accord := table.accord.observe generation observer }

/-- A process has ended: its gate is shut, and its slot is empty unless it
belongs to another generation. -/
def retire (table : ProcessTable α) (generation : Nat) : ProcessTable α :=
  { table with
    live := withoutEnded table.live table.handles generation
    handles := shutGate table.handles generation
    accord := table.accord.retire generation }

/-- The names of the occupied slots with their generations, by name. -/
def roster (table : ProcessTable α) : List (String × Nat) :=
  (table.live.entries.map fun entry => (entry.1.label, entry.2)).mergeSort
    fun left right => decide (left.1 ≤ right.1)

/-! ## What the operations do to the processes with an open gate -/

variable {table : ProcessTable α} {slot place : Slot} {generation other : Nat}
  {observer current : α}

theorem process?_eq_some_iff :
    table.process? generation = some (slot, observer) ↔
      table.handles.get? generation = some ⟨slot, observer, true⟩ := by
  unfold process?
  split
  · rename_i found
    simp [found]
  · rename_i closed
    constructor
    · intro impossible
      cases impossible
    · intro found
      exact absurd found (closed slot observer)

theorem live_eq_some_iff :
    table.live.get? slot = some generation ↔
      ∃ observer, table.process? generation = some (slot, observer) := by
  simp only [process?_eq_some_iff]
  constructor
  · exact table.accord.opened
  · rintro ⟨_, found⟩
    exact table.accord.entered found

theorem running?_eq_some_iff {running : Running α} :
    table.running? slot = some running ↔
      table.process? running.generation = some (slot, running.observer) := by
  obtain ⟨generation, observer⟩ := running
  rw [process?_eq_some_iff]
  dsimp only
  constructor
  · intro found
    unfold running? at found
    split at found
    · rename_i entry
      obtain ⟨current, known⟩ := table.accord.opened entry
      rw [known] at found
      cases found
      exact known
    · cases found
  · intro known
    simp only [running?, table.accord.entered known, known, Option.map_some]

theorem running?_eq_none_iff :
    table.running? slot = none ↔ table.live.get? slot = none := by
  simp only [Option.eq_none_iff_forall_ne_some]
  constructor
  · intro absent generation entry
    obtain ⟨observer, found⟩ := live_eq_some_iff.mp entry
    exact absent ⟨generation, observer⟩ (running?_eq_some_iff.mpr found)
  · intro absent running found
    exact absent running.generation
      (live_eq_some_iff.mpr ⟨_, running?_eq_some_iff.mp found⟩)

theorem le_issued_of_process?
    (found : table.process? generation = some (slot, observer)) :
    generation ≤ table.issued :=
  table.accord.bounded (process?_eq_some_iff.mp found)

theorem observer?_eq_some_iff :
    table.observer? generation = some observer ↔
      ∃ slot, table.process? generation = some (slot, observer) := by
  simp [observer?]

theorem process?_vacate :
    (table.vacate slot).process? generation = some (place, observer) ↔
      place ≠ slot ∧ table.process? generation = some (place, observer) := by
  simp only [process?_eq_some_iff, vacate, get?_shutSlot]
  split
  · rename_i entry
    obtain ⟨current, known⟩ := table.accord.opened entry
    simp only [known, Option.map_some, Handle.shut, Option.some.injEq,
      Handle.mk.injEq, Bool.false_eq_true, and_false, and_true, false_iff,
      not_and]
    exact fun different same _ => different same.symm
  · rename_i elsewhere
    constructor
    · intro known
      exact ⟨fun same => elsewhere (same ▸ table.accord.entered known), known⟩
    · exact And.right

@[simp] theorem issued_vacate : (table.vacate slot).issued = table.issued := rfl

@[simp] theorem running?_vacate_self :
    (table.vacate slot).running? slot = none :=
  running?_eq_none_iff.mpr (Dict.get?_erase_self _ _)

@[simp] theorem process?_skip :
    table.skip.process? generation = table.process? generation := rfl

@[simp] theorem running?_skip :
    table.skip.running? slot = table.running? slot := rfl

theorem process?_enter :
    (table.enter slot observer).process? generation =
        some (place, current) ↔
      (generation = table.issued + 1 ∧ place = slot ∧ current = observer) ∨
        (place ≠ slot ∧ table.process? generation = some (place, current)) := by
  rw [← process?_vacate]
  simp only [process?_eq_some_iff, enter, vacate, Dict.get?_insert]
  split
  · rename_i same
    have absent (handle : Handle α) :
        (shutSlot table.live table.handles slot).get? generation ≠
          some handle := by
      intro found
      have := (table.accord.vacate slot).bounded found
      omega
    simp [absent, same, eq_comm]
  · rename_i different
    have old : generation ≠ table.issued + 1 := fun same =>
      different same.symm
    simp [old]

theorem process?_observe :
    (table.observe generation observer).process? other =
        some (place, current) ↔
      if generation = other then
        current = observer ∧
          ∃ earlier, table.process? other = some (place, earlier)
      else table.process? other = some (place, current) := by
  simp only [process?_eq_some_iff, observe, get?_replaceObserver]
  split
  · cases table.handles.get? other with
    | none => simp
    | some handle =>
        obtain ⟨slot, earlier, isOpen⟩ := handle
        simp only [Option.map_some, Option.some.injEq, Handle.mk.injEq]
        constructor
        · rintro ⟨rfl, rfl, rfl⟩
          exact ⟨rfl, earlier, rfl, rfl, rfl⟩
        · rintro ⟨rfl, _, rfl, rfl, rfl⟩
          exact ⟨rfl, rfl, rfl⟩
  · rfl

theorem process?_retire :
    (table.retire generation).process? other = some (place, current) ↔
      generation ≠ other ∧ table.process? other = some (place, current) := by
  simp only [process?_eq_some_iff, retire, get?_shutGate]
  split
  · rename_i same
    constructor
    · intro found
      obtain ⟨_, _, shut⟩ := Option.map_eq_some_iff.mp found
      cases shut
    · rintro ⟨different, _⟩
      exact absurd same different
  · rename_i different
    exact ⟨fun known => ⟨different, known⟩, And.right⟩

theorem process?_killAll :
    table.killAll.1.process? generation ≠ some (place, observer) := by
  simp only [ne_eq, process?_eq_some_iff, killAll, Dict.get?_mapValues]
  intro found
  obtain ⟨_, _, shut⟩ := Option.map_eq_some_iff.mp found
  cases shut

theorem mem_killAll_iff {running : Running α} :
    running ∈ table.killAll.2 ↔
      ∃ slot, table.process? running.generation =
        some (slot, running.observer) := by
  simp only [killAll, List.mem_filterMap, running?_eq_some_iff]
  constructor
  · rintro ⟨slot, _, found⟩
    exact ⟨slot, found⟩
  · rintro ⟨slot, found⟩
    have entry := Dict.get?_eq_some_iff.mp (live_eq_some_iff.mpr ⟨_, found⟩)
    exact ⟨slot, List.mem_map_of_mem entry, found⟩

/-! ## What the operations do to the live process of a slot -/

/-- The live process of a slot is told by the processes with an open gate. -/
theorem running?_congr {left right : ProcessTable α}
    (same : ∀ generation observer,
      left.process? generation = some (slot, observer) ↔
        right.process? generation = some (slot, observer)) :
    left.running? slot = right.running? slot := by
  apply Option.ext
  rintro ⟨generation, observer⟩
  rw [running?_eq_some_iff, running?_eq_some_iff]
  exact same generation observer

theorem running?_enter_self :
    (table.enter slot observer).running? slot =
      some ⟨table.issued + 1, observer⟩ :=
  running?_eq_some_iff.mpr (process?_enter.mpr (Or.inl ⟨rfl, rfl, rfl⟩))

theorem running?_enter_of_ne (other : place ≠ slot) :
    (table.enter slot observer).running? place = table.running? place := by
  apply running?_congr
  intro generation current
  simp [process?_enter, other]

theorem running?_vacate_of_ne (other : place ≠ slot) :
    (table.vacate slot).running? place = table.running? place := by
  apply running?_congr
  intro generation current
  simp [process?_vacate, other]

theorem running?_observe_self
    (live : table.running? slot = some ⟨generation, observer⟩) :
    (table.observe generation current).running? slot =
      some ⟨generation, current⟩ := by
  have known := running?_eq_some_iff.mp live
  apply running?_eq_some_iff.mpr
  simp [process?_observe, known]

theorem running?_observe_of_ne
    (other : ∀ observer,
      table.process? generation ≠ some (place, observer)) :
    (table.observe generation current).running? place =
      table.running? place := by
  apply running?_congr
  intro number observer
  rw [process?_observe]
  split
  · rename_i same
    subst same
    simp [other]
  · rfl

theorem running?_retire_self
    (live : table.running? slot = some ⟨generation, observer⟩) :
    (table.retire generation).running? slot = none := by
  refine Option.eq_none_iff_forall_ne_some.mpr ?_
  rintro ⟨number, current⟩ found
  obtain ⟨different, known⟩ :=
    process?_retire.mp (running?_eq_some_iff.mp found)
  have both := live.symm.trans (running?_eq_some_iff.mpr known)
  cases both
  exact different rfl

theorem running?_retire_of_ne
    (other : ∀ observer,
      table.process? generation ≠ some (place, observer)) :
    (table.retire generation).running? place = table.running? place := by
  apply running?_congr
  intro number observer
  rw [process?_retire]
  constructor
  · exact And.right
  · intro known
    refine ⟨?_, known⟩
    rintro rfl
    exact other observer known

/-! ## What the operations do to the observers -/

theorem lastObserver?_of_process?
    (found : table.process? generation = some (slot, observer)) :
    table.lastObserver? generation = some observer := by
  rw [lastObserver?, process?_eq_some_iff.mp found, Option.map_some]

theorem le_issued_of_lastObserver?
    (found : table.lastObserver? generation = some observer) :
    generation ≤ table.issued := by
  obtain ⟨handle, known, _⟩ := Option.map_eq_some_iff.mp found
  exact table.accord.bounded known

@[simp] theorem lastObserver?_vacate :
    (table.vacate slot).lastObserver? generation =
      table.lastObserver? generation := by
  simp only [lastObserver?, vacate, get?_shutSlot]
  split
  · rw [Option.map_map]
    rfl
  · rfl

@[simp] theorem lastObserver?_skip :
    table.skip.lastObserver? generation = table.lastObserver? generation := rfl

theorem lastObserver?_enter :
    (table.enter slot observer).lastObserver? generation =
      if table.issued + 1 = generation then some observer
      else table.lastObserver? generation := by
  have kept : (table.vacate slot).lastObserver? generation =
      table.lastObserver? generation := lastObserver?_vacate
  simp only [lastObserver?, vacate, enter, Dict.get?_insert] at kept ⊢
  split
  · rfl
  · exact kept

@[simp] theorem lastObserver?_killAll :
    table.killAll.1.lastObserver? generation =
      table.lastObserver? generation := by
  simp only [lastObserver?, killAll, Dict.get?_mapValues, Option.map_map]
  rfl

@[simp] theorem lastObserver?_retire :
    (table.retire generation).lastObserver? other =
      table.lastObserver? other := by
  simp only [lastObserver?, retire, get?_shutGate]
  split
  · rw [Option.map_map]
    rfl
  · rfl

theorem lastObserver?_observe :
    (table.observe generation observer).lastObserver? other =
      if generation = other then (table.lastObserver? other).map fun _ => observer
      else table.lastObserver? other := by
  simp only [lastObserver?, observe, get?_replaceObserver]
  split
  · rw [Option.map_map, Option.map_map]
    rfl
  · rfl

end ProcessTable

end ToolBridge
