import ToolBridge.Proofs.Timeline
import ToolBridge.Scenario.Processes

/-!
# Histories of processes

A history lists what was done to the processes of a table, and what they did,
in the order in which it happened.  The life of a generation is read off the
history alone: it begins with the attempt that started it, and it ends with
its exit or with the first deed that terminates what is live in its slot.
The table is not mentioned here; that it keeps to the history is shown in
`Isolation`.
-/

namespace ToolBridge.Scenario

/-- What is done to processes, or by one of them. -/
inductive Deed where
  /-- An attempt to start a process, with the system's answer. -/
  | spawn (slot : Slot) (launched : Except OsError Unit)
  | kill (slot : Slot)
  | killAll
  /-- The process of a generation does something. -/
  | receive (generation : Nat) (event : ProcessEvent)

namespace Deed

/-- The deed terminates what is live in the slot. -/
def Terminates (slot : Slot) : Deed → Prop
  | spawn other _ => other = slot
  | kill other => other = slot
  | killAll => True
  | receive _ _ => False

/-- The deed ends the process of a generation that is live in the slot. -/
def Ends (slot : Slot) (generation : Nat) : Deed → Prop
  | receive other (.exit _) => other = generation
  | deed => deed.Terminates slot

/-- Is the deed an attempt to start a process? -/
def isSpawn : Deed → Bool
  | spawn _ _ => true
  | _ => false

/-- What the process of a generation does in the deed. -/
def said? (generation : Nat) : Deed → Option ProcessEvent
  | receive other event => if other = generation then some event else none
  | _ => none

theorem Terminates.ends {slot : Slot} {generation : Nat} {deed : Deed}
    (terminates : deed.Terminates slot) : deed.Ends slot generation := by
  cases deed with
  | receive => exact terminates.elim
  | spawn => exact terminates
  | kill => exact terminates
  | killAll => exact terminates

end Deed

/-- How many attempts to start a process a history holds. -/
def attempts (history : List Deed) : Nat :=
  history.countP Deed.isSpawn

/-- Everything that the process of a generation does in a history. -/
def said (generation : Nat) (history : List Deed) : List ProcessEvent :=
  history.filterMap (Deed.said? generation)

/-- A generation was started in a slot, and `later` is what happened since. -/
def Started (history : List Deed) (slot : Slot) (generation : Nat)
    (later : List Deed) : Prop :=
  ∃ earlier, history = earlier ++ .spawn slot (.ok ()) :: later ∧
    attempts earlier + 1 = generation

/-- Nothing in a part of a history ends the process of a generation. -/
def Lasting (slot : Slot) (generation : Nat) (part : List Deed) : Prop :=
  ∀ deed ∈ part, ¬ deed.Ends slot generation

variable {history later : List Deed} {slot : Slot} {generation : Nat}

theorem attempts_append (first second : List Deed) :
    attempts (first ++ second) = attempts first + attempts second :=
  List.countP_append

theorem attempts_spawn_cons (slot : Slot) (launched : Except OsError Unit)
    (later : List Deed) :
    attempts (.spawn slot launched :: later) = attempts later + 1 :=
  List.countP_cons_of_pos rfl

theorem said_append (generation : Nat) (first second : List Deed) :
    said generation (first ++ second) =
      said generation first ++ said generation second :=
  List.filterMap_append

theorem Lasting.append_singleton (lasting : Lasting slot generation later)
    {deed : Deed} (continues : ¬ deed.Ends slot generation) :
    Lasting slot generation (later ++ [deed]) := by
  intro other member
  rcases List.mem_append.mp member with inside | last
  · exact lasting other inside
  · rw [List.mem_singleton.mp last]
    exact continues

namespace Started

theorem append (started : Started history slot generation later)
    (more : List Deed) :
    Started (history ++ more) slot generation (later ++ more) := by
  obtain ⟨earlier, rfl, counted⟩ := started
  exact ⟨earlier, by simp, counted⟩

theorem last (history : List Deed) (slot : Slot) :
    Started (history ++ [.spawn slot (.ok ())]) slot (attempts history + 1) [] :=
  ⟨history, rfl, rfl⟩

theorem unique {other : Slot} {since : List Deed}
    (left : Started history slot generation later)
    (right : Started history other generation since) :
    slot = other ∧ later = since := by
  obtain ⟨earlier, rfl, leftCount⟩ := left
  obtain ⟨before, equal, rightCount⟩ := right
  have later_count (first middle : List Deed) (place : Slot) :
      attempts (first ++ .spawn place (.ok ()) :: middle) ≠ attempts first := by
    rw [attempts_append, attempts_spawn_cons]
    omega
  rcases append_cons_cases equal with
    ⟨_, same, rest⟩ | ⟨middle, rfl, _⟩ | ⟨middle, rfl, _⟩
  · injection same with slots
    exact ⟨slots, rest⟩
  · exact absurd (by omega) (later_count earlier middle slot)
  · exact absurd (by omega) (later_count before middle other)

theorem of_append_singleton {deed : Deed}
    (started : Started (history ++ [deed]) slot generation later) :
    (∃ since, later = since ++ [deed] ∧
        Started history slot generation since) ∨
      (deed = .spawn slot (.ok ()) ∧ generation = attempts history + 1) := by
  obtain ⟨earlier, equal, counted⟩ := started
  rcases of_append_singleton_eq_append_cons equal with
    ⟨since, rfl, rfl⟩ | ⟨_, same, rfl⟩
  · exact Or.inl ⟨since, rfl, earlier, rfl, counted⟩
  · exact Or.inr ⟨same, counted.symm⟩

end Started

theorem exit_not_mem_said (lasting : Lasting slot generation later)
    (code : Option Int) : .exit code ∉ said generation later := by
  intro member
  obtain ⟨deed, inside, spoken⟩ := List.mem_filterMap.mp member
  cases deed with
  | receive other event =>
      rw [Deed.said?, Option.ite_none_right_eq_some] at spoken
      obtain ⟨rfl, same⟩ := spoken
      cases same
      exact lasting _ inside rfl
  | spawn => cases spoken
  | kill => cases spoken
  | killAll => cases spoken

/-- What became of a generation, with what its process did while it was
live. -/
inductive Fate where
  /-- It was not started. -/
  | absent
  | live (slot : Slot) (events : List ProcessEvent)
  | terminated (events : List ProcessEvent)
  | exited (events : List ProcessEvent) (code : Option Int)

namespace Fate

/-- The slot of the process and what its observer received, while it is
live. -/
def process? : Fate → Option (Slot × List ProcessEvent)
  | live slot events => some (slot, events)
  | _ => none

/-- What the observer received altogether. -/
def record? : Fate → Option (List ProcessEvent)
  | absent => none
  | live _ events => some events
  | terminated events => some events
  | exited events code => some (events ++ [.exit code])

/-- The result, once there is one. -/
def completion? : Fate → Option Completion
  | terminated _ => some .superseded
  | exited events code => some (.finished (Processes.captured code events))
  | _ => none

end Fate

/-- The fate of a generation by a history. -/
inductive Fated (history : List Deed) (generation : Nat) : Fate → Prop where
  | absent
      (never : ∀ slot later, ¬ Started history slot generation later) :
      Fated history generation .absent
  | live {slot : Slot} {later : List Deed}
      (started : Started history slot generation later)
      (lasting : Lasting slot generation later) :
      Fated history generation (.live slot (said generation later))
  | terminated {slot : Slot} {before after : List Deed} {deed : Deed}
      (started : Started history slot generation (before ++ deed :: after))
      (lasting : Lasting slot generation before)
      (ending : deed.Terminates slot) :
      Fated history generation (.terminated (said generation before))
  | exited {slot : Slot} {before after : List Deed} {code : Option Int}
      (started : Started history slot generation
        (before ++ .receive generation (.exit code) :: after))
      (lasting : Lasting slot generation before) :
      Fated history generation (.exited (said generation before) code)

/-- Where a process ended is found in one way only: two different endings
would each have to come before the other. -/
theorem first_ending_unique {before after front back : List Deed}
    {deed other : Deed}
    (equal : before ++ deed :: after = front ++ other :: back)
    (lasting : Lasting slot generation before)
    (frontLasting : Lasting slot generation front)
    (ends : deed.Ends slot generation)
    (otherEnds : other.Ends slot generation) :
    before = front ∧ deed = other := by
  rcases append_cons_cases equal with
    ⟨same, alike, _⟩ | ⟨middle, rfl, _⟩ | ⟨middle, rfl, _⟩
  · exact ⟨same, alike⟩
  · exact absurd ends (frontLasting deed (by simp))
  · exact absurd otherEnds (lasting other (by simp))

theorem not_lasting_of_ends {before after : List Deed} {deed : Deed}
    (ends : deed.Ends slot generation) :
    ¬ Lasting slot generation (before ++ deed :: after) :=
  fun lasting => lasting deed (by simp) ends

namespace Fated

variable {deed : Deed} {events : List ProcessEvent} {code : Option Int}

theorem absent_append
    (fated : Fated history generation .absent)
    (idle : ∀ slot, deed = .spawn slot (.ok ()) →
      generation ≠ attempts history + 1) :
    Fated (history ++ [deed]) generation .absent := by
  cases fated with
  | absent never =>
      refine .absent fun slot later started => ?_
      rcases started.of_append_singleton with ⟨since, _, earlier⟩ | ⟨same, count⟩
      · exact never slot since earlier
      · exact idle slot same count

theorem live_append (fated : Fated history generation (.live slot events))
    (continues : ¬ deed.Ends slot generation) :
    Fated (history ++ [deed]) generation
      (.live slot (events ++ (deed.said? generation).toList)) := by
  cases fated with
  | live started lasting =>
      have extended := Fated.live (started.append [deed])
        (lasting.append_singleton continues)
      rw [said_append] at extended
      cases spoken : deed.said? generation <;>
        simpa [said, spoken] using extended

theorem live_terminated (fated : Fated history generation (.live slot events))
    (terminates : deed.Terminates slot) :
    Fated (history ++ [deed]) generation (.terminated events) := by
  cases fated with
  | live started lasting =>
      exact .terminated (started.append [deed]) lasting terminates

theorem live_exited (fated : Fated history generation (.live slot events))
    (code : Option Int) :
    Fated (history ++ [.receive generation (.exit code)]) generation
      (.exited events code) := by
  cases fated with
  | live started lasting => exact .exited (started.append _) lasting

theorem terminated_append
    (fated : Fated history generation (.terminated events)) (deed : Deed) :
    Fated (history ++ [deed]) generation (.terminated events) := by
  cases fated with
  | terminated started lasting ending =>
      have extended := started.append [deed]
      rw [List.append_assoc, List.cons_append] at extended
      exact .terminated extended lasting ending

theorem exited_append
    (fated : Fated history generation (.exited events code)) (deed : Deed) :
    Fated (history ++ [deed]) generation (.exited events code) := by
  cases fated with
  | exited started lasting =>
      have extended := started.append [deed]
      rw [List.append_assoc, List.cons_append] at extended
      exact .exited extended lasting

theorem settled_append {fate : Fate} {completion : Completion}
    (fated : Fated history generation fate)
    (settled : fate.completion? = some completion) (more : List Deed) :
    Fated (history ++ more) generation fate := by
  induction more using List.reverseRecOn with
  | nil => rwa [List.append_nil]
  | append_singleton more deed ih =>
      rw [← List.append_assoc]
      cases fate with
      | terminated events => exact ih.terminated_append deed
      | exited events code => exact ih.exited_append deed
      | absent => cases settled
      | live => cases settled

theorem unique {first second : Fate} (left : Fated history generation first)
    (right : Fated history generation second) : first = second := by
  cases left with
  | absent never =>
      cases right with
      | absent => rfl
      | live started => exact absurd started (never _ _)
      | terminated started => exact absurd started (never _ _)
      | exited started => exact absurd started (never _ _)
  | live started lasting =>
      cases right with
      | absent never => exact absurd started (never _ _)
      | live again =>
          obtain ⟨rfl, rfl⟩ := started.unique again
          rfl
      | terminated again _ ending =>
          obtain ⟨rfl, rfl⟩ := started.unique again
          exact absurd lasting (not_lasting_of_ends ending.ends)
      | exited again =>
          obtain ⟨rfl, rfl⟩ := started.unique again
          exact absurd lasting (not_lasting_of_ends rfl)
  | terminated started lasting ending =>
      cases right with
      | absent never => exact absurd started (never _ _)
      | live again stays =>
          obtain ⟨rfl, rfl⟩ := started.unique again
          exact absurd stays (not_lasting_of_ends ending.ends)
      | terminated again stays ends =>
          obtain ⟨rfl, same⟩ := started.unique again
          obtain ⟨rfl, rfl⟩ :=
            first_ending_unique same lasting stays ending.ends ends.ends
          rfl
      | exited again stays =>
          obtain ⟨rfl, same⟩ := started.unique again
          obtain ⟨_, rfl⟩ :=
            first_ending_unique same lasting stays ending.ends rfl
          exact ending.elim
  | exited started lasting =>
      cases right with
      | absent never => exact absurd started (never _ _)
      | live again stays =>
          obtain ⟨rfl, rfl⟩ := started.unique again
          exact absurd stays (not_lasting_of_ends rfl)
      | terminated again stays ending =>
          obtain ⟨rfl, same⟩ := started.unique again
          obtain ⟨_, rfl⟩ :=
            first_ending_unique same lasting stays rfl ending.ends
          exact ending.elim
      | exited again stays =>
          obtain ⟨rfl, same⟩ := started.unique again
          obtain ⟨rfl, sameExit⟩ :=
            first_ending_unique same lasting stays rfl rfl
          injection sameExit with _ sameEvent
          injection sameEvent with sameCode
          rw [sameCode]

end Fated

end ToolBridge.Scenario
