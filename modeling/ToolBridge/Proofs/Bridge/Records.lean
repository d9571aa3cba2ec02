import ToolBridge.Proofs.Bridge.Steps

/-!
# The journal and the state

The journal of a history explains its state.  The ticket of a document is that
of its newest request.  A live check was launched for a request of the journal
and has not exited since, and its observer holds what it wrote.  A launch whose
process is no longer live has been answered.
-/

namespace ToolBridge.Bridge

variable {σ : Type} {bridge next : Bridge σ} {past : List Entry} {entry : Entry}
  {seen effects : List Effect}

/-! ## Tickets -/

/-- The tickets are those of the requests in the journal. -/
structure Ticketed (bridge : Bridge σ) (past : List Entry) : Prop where
  newest : ∀ id, bridge.tickets.latest.get? id =
    (newest? id past).map CheckRequest.ticket
  bounded : ∀ {request : CheckRequest}, .asked request ∈ past →
    request.ticket ≤ bridge.tickets.issued
  distinct : ∀ {left right : CheckRequest}, .asked left ∈ past →
    .asked right ∈ past → left.ticket = right.ticket → left = right
  /-- Only what was asked for is launched. -/
  launched : ∀ {request : CheckRequest} {config : Config}
    {answer : Except Failure Launch}, .launched request config answer ∈ past →
    .asked request ∈ past

namespace Ticketed

theorem isCurrent_iff {request : CheckRequest} (ticketed : Ticketed bridge past)
    (known : .asked request ∈ past) :
    bridge.isCurrent request = true ↔
      newest? request.id past = some request := by
  rw [Bridge.isCurrent_iff, ticketed.newest, Option.map_eq_some_iff]
  constructor
  · rintro ⟨newest, found, same⟩
    rw [found, ticketed.distinct (asked_of_newest? found).1 known same]
  · intro found
    exact ⟨request, found, rfl⟩

theorem neutral (ticketed : Ticketed bridge past)
    (step : Steps past bridge entry effects next) (neutral : entry.Neutral) :
    Ticketed next (past ++ [entry]) := by
  have asked {request : CheckRequest}
      (member : .asked request ∈ past ++ [entry]) : .asked request ∈ past := by
    rcases List.mem_append.mp member with inside | last
    · exact inside
    · cases List.mem_singleton.mp last
      exact neutral.elim
  constructor
  · intro id
    rw [step.tickets_eq neutral, newest?_append_singleton, neutral.renew_eq]
    exact ticketed.newest id
  · intro request member
    rw [step.tickets_eq neutral]
    exact ticketed.bounded (asked member)
  · intro left right first second
    exact ticketed.distinct (asked first) (asked second)
  · intro request config answer member
    apply List.mem_append_left
    rcases List.mem_append.mp member with inside | last
    · exact ticketed.launched inside
    · cases List.mem_singleton.mp last
      cases step with
      | launch known _ => exact known

theorem ask (ticketed : Ticketed bridge past) (snapshot : Snapshot)
    (issued : next.tickets = (bridge.tickets.issue snapshot.id).1) :
    Ticketed next
      (past ++ [.asked ⟨snapshot, bridge.tickets.issued + 1⟩]) := by
  -- The new ticket is beyond all others, so the new request is unlike them.
  have asked {request : CheckRequest}
      (member : .asked request ∈
        past ++ [.asked ⟨snapshot, bridge.tickets.issued + 1⟩]) :
      (.asked request ∈ past ∧ request.ticket ≤ bridge.tickets.issued) ∨
        request = ⟨snapshot, bridge.tickets.issued + 1⟩ := by
    rcases List.mem_append.mp member with inside | last
    · exact Or.inl ⟨inside, ticketed.bounded inside⟩
    · cases List.mem_singleton.mp last
      exact Or.inr rfl
  constructor
  · intro id
    rw [issued, newest?_append_singleton]
    change (bridge.tickets.latest.insert snapshot.id _).get? id =
      (if snapshot.id = id then some _ else newest? id past).map _
    rw [Dict.get?_insert]
    split
    · rfl
    · exact ticketed.newest id
  · intro request member
    rw [issued]
    rcases asked member with ⟨_, bound⟩ | rfl
    · exact Nat.le_succ_of_le bound
    · exact Nat.le_refl _
  · intro left right first second same
    rcases asked first with ⟨inside, bound⟩ | rfl
    · rcases asked second with ⟨other, _⟩ | rfl
      · exact ticketed.distinct inside other same
      · exact absurd (same ▸ bound) (Nat.not_succ_le_self _)
    · rcases asked second with ⟨_, bound⟩ | rfl
      · exact absurd (same ▸ bound) (Nat.not_succ_le_self _)
      · rfl
  · intro request config answer member
    rcases List.mem_append.mp member with inside | last
    · exact List.mem_append_left _ (ticketed.launched inside)
    · cases List.mem_singleton.mp last

theorem close (ticketed : Ticketed bridge past) (id : String)
    (forgotten : next.tickets = bridge.tickets.forget id) :
    Ticketed next (past ++ [.closed id]) := by
  have earlier {entry : Entry} (member : entry ∈ past ++ [.closed id])
      (other : entry ≠ .closed id) : entry ∈ past := by
    rcases List.mem_append.mp member with inside | last
    · exact inside
    · exact absurd (List.mem_singleton.mp last) other
  constructor
  · intro document
    rw [forgotten, newest?_append_singleton]
    change (bridge.tickets.latest.erase id).get? document =
      (if id = document then none else newest? document past).map _
    rw [Dict.get?_erase]
    split
    · rfl
    · exact ticketed.newest document
  · intro request member
    rw [forgotten]
    exact ticketed.bounded (earlier member (by simp))
  · intro left right first second
    exact ticketed.distinct (earlier first (by simp))
      (earlier second (by simp))
  · intro request config answer member
    exact List.mem_append_left _
      (ticketed.launched (earlier member (by simp)))

theorem step (ticketed : Ticketed bridge past)
    (step : Steps past bridge entry effects next) :
    Ticketed next (past ++ [entry]) := by
  by_cases quiet : entry.Neutral
  · exact ticketed.neutral step quiet
  · cases step with
    | ask snapshot => exact ticketed.ask snapshot rfl
    | close id => exact ticketed.close id rfl
    | _ => exact absurd trivial quiet

theorem eq_of_isCurrent {left right : CheckRequest}
    (ticketed : Ticketed bridge past) (first : .asked left ∈ past)
    (second : .asked right ∈ past) (same : left.id = right.id)
    (current : bridge.isCurrent left = true)
    (other : bridge.isCurrent right = true) : left = right := by
  have newest := (ticketed.isCurrent_iff first).mp current
  rw [same, (ticketed.isCurrent_iff second).mp other] at newest
  exact (Option.some.inj newest).symm

theorem isCurrent_of_step {request : CheckRequest}
    (ticketed : Ticketed bridge past)
    (step : Steps past bridge entry effects next)
    (known : .asked request ∈ past)
    (current : next.isCurrent request = true) :
    entry ≠ .closed request.id ∧ bridge.isCurrent request = true := by
  have newest := ((ticketed.step step).isCurrent_iff
    (List.mem_append_left _ known)).mp current
  rw [newest?_append_singleton] at newest
  rw [ticketed.isCurrent_iff known]
  by_cases quiet : entry.Neutral
  · rw [quiet.renew_eq] at newest
    exact ⟨fun closing => (closing ▸ quiet : (Entry.closed _).Neutral).elim,
      newest⟩
  · cases step with
    | ask snapshot =>
        rw [Entry.renew] at newest
        split at newest
        · cases newest
          exact absurd (ticketed.bounded known) (Nat.not_succ_le_self _)
        · exact ⟨by simp, newest⟩
    | close id =>
        rw [Entry.renew] at newest
        split at newest
        · cases newest
        · rename_i other
          exact ⟨fun closing => other (Entry.closed.inj closing), newest⟩
    | _ => exact absurd trivial quiet

end Ticketed

/-! ## Launches -/

/-- Every launch that started a process has a generation of its own. -/
structure Numbered (bridge : Bridge σ) (past : List Entry) : Prop where
  bounded : ∀ {request config generation later},
    Launched past request config generation later →
      generation ≤ bridge.processes.issued
  unique : ∀ {request config generation later request' config' later'},
    Launched past request config generation later →
      Launched past request' config' generation later' →
      request = request' ∧ config = config' ∧ later = later'

theorem Numbered.step (numbered : Numbered bridge past)
    (step : Steps past bridge entry effects next) :
    Numbered next (past ++ [entry]) := by
  constructor
  · intro request config generation later launched
    rcases launched.of_append_singleton with ⟨since, _, before⟩ | ⟨_, rfl⟩
    · exact Nat.le_trans (numbered.bounded before) step.issued_le
    · exact Nat.le_of_eq (step.issued_of_born rfl).2.symm
  · intro request config generation later request' config' later' left right
    -- A launch of the past has a generation below that of the last entry.
    have old {request config generation later}
        (before : Launched past request config generation later)
        {request' config'}
        (last : entry = .launched request' config' (.ok (.started generation))) :
        False := by
      subst last
      have bound := numbered.bounded before
      have fresh := (step.issued_of_born rfl).1
      omega
    rcases left.of_append_singleton with ⟨since, rfl, before⟩ | ⟨rfl, last⟩
    · rcases right.of_append_singleton with ⟨since', rfl, before'⟩ | ⟨rfl, last⟩
      · obtain ⟨rfl, rfl, rfl⟩ := numbered.unique before before'
        exact ⟨rfl, rfl, rfl⟩
      · exact (old before last).elim
    · rcases right.of_append_singleton with ⟨_, rfl, before⟩ | ⟨rfl, same⟩
      · exact (old before last).elim
      · cases last.symm.trans same
        exact ⟨rfl, rfl, rfl⟩

/-- A live check was launched and has not exited, and its observer holds what
it wrote. -/
def Attended (bridge : Bridge σ) (past : List Entry) : Prop :=
  ∀ ⦃generation slot request config stderr⦄,
    bridge.processes.process? generation =
        some (slot, .check request config stderr) →
      slot = .document request.id ∧
        ∃ later, Launched past request config generation later ∧
          Unended generation later ∧ stderr = written generation later

theorem Attended.step (attended : Attended bridge past)
    (step : Steps past bridge entry effects next) :
    Attended next (past ++ [entry]) := by
  intro generation slot request config stderr live
  rcases step.check_iff.mp live with ⟨lasts, text, before, said⟩ | ⟨rfl, place, said⟩
  · obtain ⟨place, later, launched, unended, rfl⟩ := attended before
    refine ⟨place, later ++ [entry], launched.append _,
      unended.append_singleton ?_, ?_⟩
    · rintro code rfl
      exact lasts rfl
    · rw [said, written_append_singleton]
  · exact ⟨place, [], .last past request config generation, nofun, said⟩

/-- The process of every launch is live, or the launch has been answered. -/
def Answered (bridge : Bridge σ) (past : List Entry) (seen : List Effect) :
    Prop :=
  ∀ ⦃request config generation later⦄,
    Launched past request config generation later →
      (∃ stderr, bridge.processes.process? generation =
        some (.document request.id, .check request config stderr)) ∨
      (bridge.processes.process? generation = none ∧
        ∃ outcome, .checked generation outcome ∈ seen)

theorem Answered.step (answered : Answered bridge past seen)
    (numbered : Numbered bridge past)
    (step : Steps past bridge entry effects next) :
    Answered next (past ++ [entry]) (seen ++ effects) := by
  intro request config generation later launched
  rcases launched.of_append_singleton with ⟨since, _, before⟩ | ⟨_, rfl⟩
  · rcases answered before with ⟨stderr, live⟩ | ⟨closed, outcome, told⟩
    · -- What ends a check tells of it, and its generation is not used again.
      by_cases ends : entry.Ends generation (.document request.id)
      · obtain ⟨outcome, told⟩ := step.checked_of_ends live ends
        refine Or.inr ⟨?_, outcome, List.mem_append_right _ told⟩
        exact step.process?_of_ends live ends
      · exact Or.inl ⟨_, step.check_iff.mpr
          (Or.inl ⟨ends, stderr, live, rfl⟩)⟩
    · refine Or.inr ⟨?_, outcome, List.mem_append_left _ told⟩
      exact step.process?_of_closed closed (numbered.bounded before)
  · exact Or.inl ⟨"", step.check_iff.mpr (Or.inr ⟨rfl, rfl, rfl⟩)⟩

/-- The journal explains the state. -/
structure Recorded (bridge : Bridge σ) (past : List Entry)
    (seen : List Effect) : Prop where
  tickets : Ticketed bridge past
  generations : Numbered bridge past
  checks : Attended bridge past
  answers : Answered bridge past seen

namespace Recorded

theorem initially (storage : σ) (scratch : Scratch) :
    Recorded { storage, scratch } [] [] where
  tickets :=
    { newest := fun _ => rfl
      bounded := nofun
      distinct := nofun
      launched := nofun }
  generations :=
    { bounded := fun launched => absurd launched not_launched_nil
      unique := fun launched => absurd launched not_launched_nil }
  checks := nofun
  answers := fun _ _ _ _ launched => absurd launched not_launched_nil

theorem step (recorded : Recorded bridge past seen)
    (step : Steps past bridge entry effects next) :
    Recorded next (past ++ [entry]) (seen ++ effects) where
  tickets := recorded.tickets.step step
  generations := recorded.generations.step step
  checks := recorded.checks.step step
  answers := recorded.answers.step recorded.generations step

end Recorded

theorem recorded_after [Storage σ] (storage : σ) (scratch : Scratch)
    (actions : List (Action σ)) :
    Recorded (History.after storage scratch actions).bridge
      (History.after storage scratch actions).past
      (History.after storage scratch actions).effects :=
  History.induction_on Recorded storage scratch (.initially storage scratch)
    (fun taken recorded => recorded.step taken) actions

/-- What every step keeps that starts from an explained state holds of every
history. -/
theorem History.induction_on_recorded [Storage σ]
    (holds : Bridge σ → List Entry → Prop) (storage : σ) (scratch : Scratch)
    (initially : holds { storage, scratch } [])
    (step : ∀ {bridge next past entry seen effects},
      Steps past bridge entry effects next → Recorded bridge past seen →
        holds bridge past → holds next (past ++ [entry]))
    (actions : List (Action σ)) :
    holds (after storage scratch actions).bridge
      (after storage scratch actions).past := by
  have both := induction_on
    (fun bridge past seen => Recorded bridge past seen ∧ holds bridge past)
    storage scratch ⟨.initially storage scratch, initially⟩
    (fun taken ⟨recorded, held⟩ =>
      ⟨recorded.step taken, step taken recorded held⟩) actions
  exact both.2

end ToolBridge.Bridge
