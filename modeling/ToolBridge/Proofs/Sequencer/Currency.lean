import ToolBridge.Check
import ToolBridge.Proofs.Timeline
import ToolBridge.Sequencer

/-!
# Which tickets are current

A sequencer keeps the number of the last ticket and one ticket a document.  That is
enough to tell, after any sequence of calls, whether a ticket was the last that
its document got and the document was not forgotten since.
-/

namespace ToolBridge.Sequencer

/-- What is asked of a sequencer. -/
inductive Call where
  | next (id : String)
  /-- A request to check a snapshot, under the next ticket of its document. -/
  | request (snapshot : Snapshot)
  | forget (id : String)
  deriving DecidableEq, Repr

namespace Call

def id : Call → String
  | next id => id
  | request snapshot => snapshot.id
  | forget id => id

def isIssue : Call → Bool
  | forget _ => false
  | _ => true

/-- The sequencer after the call, and the ticket that was issued. -/
def apply (sequencer : Sequencer) : Call → Sequencer × Option Nat
  | next id =>
      let (sequencer, ticket) := sequencer.issue id
      (sequencer, some ticket)
  | request snapshot =>
      let (sequencer, ticket) := sequencer.issue snapshot.id
      (sequencer, some ticket)
  | forget id => (sequencer.forget id, none)

/-! ## One call -/

theorem ticket_apply (sequencer : Sequencer) (call : Call) :
    (call.apply sequencer).2 =
      if call.isIssue then some (sequencer.issued + 1) else none := by
  cases call with
  | next id => rfl
  | request snapshot => rfl
  | forget id => rfl

theorem issued_apply (sequencer : Sequencer) (call : Call) :
    (call.apply sequencer).1.issued =
      sequencer.issued + if call.isIssue then 1 else 0 := by
  cases call with
  | next id => rfl
  | request snapshot => rfl
  | forget id => rfl

theorem latest_apply (sequencer : Sequencer) (call : Call) (id : String) :
    (call.apply sequencer).1.latest.get? id =
      if call.id = id then (call.apply sequencer).2 else sequencer.latest.get? id := by
  cases call with
  | next other => exact Dict.get?_insert _ _ _ _
  | request snapshot => exact Dict.get?_insert _ _ _ _
  | forget other => exact Dict.get?_erase _ _ _

theorem eq_forget_of_not_issue {call : Call} (silent : call.isIssue = false) :
    call = .forget call.id := by
  cases call with
  | forget id => rfl
  | _ => cases silent

end Call

/-! ## Sequences of calls -/

def after (calls : List Call) : Sequencer :=
  calls.foldl (fun sequencer call => (call.apply sequencer).1) empty

theorem after_append_singleton (calls : List Call) (call : Call) :
    after (calls ++ [call]) = (call.apply (after calls)).1 :=
  List.foldl_append

theorem issued_after (calls : List Call) :
    (after calls).issued = calls.countP Call.isIssue := by
  induction calls using List.reverseRecOn with
  | nil => rfl
  | append_singleton calls call ih =>
      rw [after_append_singleton, Call.issued_apply, List.countP_append, ih,
        List.countP_singleton]

/-- A call of a sequence has issued a ticket. -/
structure Issued (calls earlier : List Call) (call : Call) (later : List Call)
    (ticket : Nat) : Prop where
  split : calls = earlier ++ call :: later
  ticket : (call.apply (after earlier)).2 = some ticket

namespace Issued

variable {calls earlier later : List Call} {call : Call} {ticket : Nat}

theorem append (issued : Issued calls earlier call later ticket)
    (more : List Call) : Issued (calls ++ more) earlier call (later ++ more) ticket :=
  ⟨by rw [issued.split, List.append_assoc, List.cons_append], issued.ticket⟩

theorem number (issued : Issued calls earlier call later ticket) :
    call.isIssue = true ∧ ticket = earlier.countP Call.isIssue + 1 := by
  have issues := issued.ticket
  rw [Call.ticket_apply, issued_after] at issues
  cases found : call.isIssue with
  | false =>
      rw [found] at issues
      cases issues
  | true =>
      rw [found, if_pos rfl, Option.some.injEq] at issues
      exact ⟨rfl, issues.symm⟩

theorem lt {between back : List Call} {other : Call} {newer : Nat}
    (issued : Issued calls earlier call later ticket)
    (renewed : Issued calls (earlier ++ call :: between) other back newer) :
    ticket < newer := by
  obtain ⟨counts, first⟩ := issued.number
  obtain ⟨_, second⟩ := renewed.number
  rw [List.countP_append, List.countP_cons_of_pos counts] at second
  omega

/-- No ticket is issued twice, since the later of two has the greater number. -/
theorem unique {front back : List Call} {other : Call}
    (issued : Issued calls earlier call later ticket)
    (again : Issued calls front other back ticket) :
    call = other ∧ later = back := by
  have equal := issued.split.symm.trans again.split
  rcases append_cons_cases equal with
    ⟨_, same, rest⟩ | ⟨between, rfl, _⟩ | ⟨between, rfl, _⟩
  · exact ⟨same, rest⟩
  · exact absurd (issued.lt again) (Nat.lt_irrefl _)
  · exact absurd (again.lt issued) (Nat.lt_irrefl _)

end Issued

/-- Nothing was asked about the document. -/
def Untouched (id : String) (calls : List Call) : Prop :=
  ∀ call ∈ calls, call.id ≠ id

theorem untouched_iff {id : String} {calls : List Call} :
    Untouched id calls ↔
      (∀ call ∈ calls, call.id = id → call.isIssue = false) ∧
        Call.forget id ∉ calls := by
  constructor
  · intro untouched
    refine ⟨fun call member same => absurd same (untouched call member), ?_⟩
    intro member
    exact untouched _ member rfl
  · rintro ⟨silent, kept⟩ call member same
    have forgets := Call.eq_forget_of_not_issue (silent call member same)
    rw [same] at forgets
    exact kept (forgets ▸ member)

/-- What a sequencer keeps for a document is the ticket of the last call about it. -/
theorem latest_after_iff {calls : List Call} {id : String} {ticket : Nat} :
    (after calls).latest.get? id = some ticket ↔
      ∃ earlier call later, Issued calls earlier call later ticket ∧
        call.id = id ∧ Untouched id later := by
  induction calls using List.reverseRecOn with
  | nil =>
      constructor
      · intro found
        cases found
      · rintro ⟨earlier, call, later, issued, _⟩
        exact absurd issued.split (by simp)
  | append_singleton calls last ih =>
      rw [after_append_singleton, Call.latest_apply]
      by_cases same : last.id = id
      · -- Whatever was issued before, the last call alone decides.
        rw [if_pos same]
        constructor
        · intro issues
          exact ⟨calls, last, [], ⟨rfl, issues⟩, same, by simp [Untouched]⟩
        · rintro ⟨earlier, call, later, issued, _, untouched⟩
          rcases of_append_singleton_eq_append_cons issued.split with
            ⟨since, rfl, _⟩ | ⟨_, rfl, rfl⟩
          · exact absurd same (untouched last (by simp))
          · exact issued.ticket
      · -- A call about another document moves nothing but the end of the sequence.
        rw [if_neg same, ih]
        constructor
        · rintro ⟨earlier, call, later, issued, named, untouched⟩
          refine ⟨earlier, call, later ++ [last], issued.append [last], named, ?_⟩
          intro other member
          rcases List.mem_append.mp member with inside | final
          · exact untouched other inside
          · rw [List.mem_singleton.mp final]
            exact same
        · rintro ⟨earlier, call, later, issued, named, untouched⟩
          rcases of_append_singleton_eq_append_cons issued.split with
            ⟨since, rfl, split⟩ | ⟨_, rfl, _⟩
          · refine ⟨earlier, call, since, ⟨split, issued.ticket⟩, named, ?_⟩
            intro other member
            exact untouched other (List.mem_append_left _ member)
          · exact absurd named same

/-- A ticket is current for no document but the one that it was issued for, and
that only as long as nothing is asked about it. -/
theorem Issued.isCurrent_iff {calls earlier later : List Call} {call : Call}
    {ticket : Nat} (issued : Issued calls earlier call later ticket) {id : String} :
    (after calls).isCurrent id ticket = true ↔
      call.id = id ∧ Untouched id later := by
  rw [Sequencer.isCurrent_iff, latest_after_iff]
  constructor
  · rintro ⟨front, other, back, again, named, untouched⟩
    obtain ⟨rfl, rfl⟩ := issued.unique again
    exact ⟨named, untouched⟩
  · rintro ⟨named, untouched⟩
    exact ⟨earlier, call, later, issued, named, untouched⟩

structure CurrentIsLatest (calls : List Call) : Prop where
  increasing : ∀ earlier call between other later ticket newer,
    Issued calls earlier call (between ++ other :: later) ticket →
    Issued calls (earlier ++ call :: between) other later newer → ticket < newer
  /-- A ticket is the count of the tickets that were issued. -/
  numbered : ∀ earlier call later ticket,
    Issued calls earlier call later ticket →
    ticket = earlier.countP Call.isIssue + 1
  current : ∀ id ticket, (after calls).isCurrent id ticket = true ↔
    ∃ earlier call later, Issued calls earlier call later ticket ∧ call.id = id ∧
      (∀ other ∈ later, other.id = id → other.isIssue = false) ∧
        Call.forget id ∉ later
  single : ∀ id ticket other, (after calls).isCurrent id ticket = true →
    (after calls).isCurrent id other = true → ticket = other
  own : ∀ earlier call later ticket id, Issued calls earlier call later ticket →
    (after calls).isCurrent id ticket = true → id = call.id
  /-- What is stale stays so, whatever is asked later. -/
  stale : ∀ earlier call later ticket, Issued calls earlier call later ticket →
    (after calls).isCurrent call.id ticket = false →
    ∀ more id, (after (calls ++ more)).isCurrent id ticket = false

/-- However tickets are issued and documents forgotten, a ticket is current
exactly if it is the last of its document since that was forgotten. -/
theorem currentIsLatest_after (calls : List Call) : CurrentIsLatest calls where
  increasing earlier call between other later ticket newer issued renewed :=
    issued.lt renewed
  numbered earlier call later ticket issued := issued.number.2
  current id ticket := by
    rw [Sequencer.isCurrent_iff, latest_after_iff]
    simp only [untouched_iff]
  single id ticket other left right := by
    have found := Sequencer.isCurrent_iff.mp left
    rw [Sequencer.isCurrent_iff.mp right, Option.some.injEq] at found
    exact found.symm
  own earlier call later ticket id issued current :=
    (issued.isCurrent_iff.mp current).1.symm
  stale earlier call later ticket issued past more id := by
    apply Bool.eq_false_iff.mpr
    intro current
    obtain ⟨rfl, untouched⟩ := (issued.append more).isCurrent_iff.mp current
    have kept : Untouched call.id later := fun other member =>
      untouched other (List.mem_append_left _ member)
    rw [issued.isCurrent_iff.mpr ⟨rfl, kept⟩] at past
    cases past

end ToolBridge.Sequencer
