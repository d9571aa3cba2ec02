import Mathlib.Data.List.Nodup
import ToolBridge.Proofs.Server.Journey

/-!
# Documents and requests agree

The request that is current for an open document is one for the very snapshot
that the server keeps, and no request is current for a document that is not
open.  A snapshot is told from others by its stamp, and a document that was
edited, closed or opened again is not checked for a batch that was begun
before, nor is any document for a batch of older settings.
-/

namespace ToolBridge.Server

variable {σ : Type}

/-! ## Documents and tickets -/

/-- The tickets of a desk are those of the stored snapshots. -/
structure Aligned (desk : Desk) (issued : List CheckRequest) : Prop where
  /-- Every ticket was issued with one request. -/
  numbered : issued.map CheckRequest.ticket =
    List.range' 1 desk.tickets.issued
  stored : ∀ {id snapshot}, desk.documents.get? id = some snapshot →
    snapshot.id = id ∧ snapshot.stamp ≤ desk.stamps ∧
      ∃ request ∈ issued, request.snapshot = snapshot ∧
        desk.tickets.latest.get? id = some request.ticket
  absent : ∀ {id}, desk.documents.get? id = none →
    desk.tickets.latest.get? id = none

namespace Aligned

variable {desk : Desk} {issued : List CheckRequest}

theorem eq_of_ticket (aligned : Aligned desk issued)
    {left right : CheckRequest} (first : left ∈ issued)
    (second : right ∈ issued) (same : left.ticket = right.ticket) :
    left = right := by
  have distinct : (issued.map CheckRequest.ticket).Nodup := by
    rw [aligned.numbered]
    exact List.nodup_range'
  exact List.inj_on_of_nodup_map distinct first second same

/-- A request whose ticket is the newest carries the stored snapshot. -/
theorem stored_of_latest (aligned : Aligned desk issued)
    {request : CheckRequest} (member : request ∈ issued)
    (latest : desk.tickets.latest.get? request.id = some request.ticket) :
    desk.documents.get? request.id = some request.snapshot := by
  cases found : desk.documents.get? request.id with
  | none =>
      rw [aligned.absent found] at latest
      cases latest
  | some snapshot =>
      obtain ⟨_, _, other, known, rfl, newest⟩ := aligned.stored found
      rw [newest] at latest
      have same : other.ticket = request.ticket := Option.some.inj latest
      rw [aligned.eq_of_ticket known member same]

/-- A request is issued for a snapshot that is kept from now on. -/
theorem issue (aligned : Aligned desk issued) (snapshot : Snapshot)
    {documents : Dict String Snapshot} {stamps : Nat}
    (kept : ∀ id, documents.get? id =
      if snapshot.id = id then some snapshot else desk.documents.get? id)
    (later : desk.stamps ≤ stamps) (stamped : snapshot.stamp ≤ stamps) :
    Aligned
      { desk with
        documents
        tickets := (desk.tickets.issue snapshot.id).1
        stamps }
      (issued ++ [⟨snapshot, desk.tickets.issued + 1⟩]) := by
  constructor
  · rw [List.map_append, aligned.numbered]
    simp [Sequencer.issue, List.range'_1_concat, Nat.add_comm]
  · intro id current found
    simp only [Sequencer.issue, Dict.get?_insert]
    rw [kept] at found
    split at found
    · rename_i same
      cases found
      exact ⟨same, stamped, ⟨snapshot, desk.tickets.issued + 1⟩, by simp, rfl,
        if_pos same⟩
    · rename_i other
      obtain ⟨named, bound, request, member, carried, latest⟩ :=
        aligned.stored found
      exact ⟨named, Nat.le_trans bound later, request,
        List.mem_append_left _ member, carried, (if_neg other).trans latest⟩
  · intro id found
    simp only [Sequencer.issue, Dict.get?_insert]
    rw [kept] at found
    split at found
    · cases found
    · rename_i other
      exact (if_neg other).trans (aligned.absent found)

theorem close (aligned : Aligned desk issued) (id : String) :
    Aligned
      { desk with
        documents := desk.documents.erase id
        tickets := desk.tickets.forget id }
      issued := by
  constructor
  · exact aligned.numbered
  · intro other snapshot found
    simp only [Sequencer.forget, Dict.get?_erase] at found ⊢
    split at found
    · cases found
    · rename_i different
      rw [if_neg different]
      exact aligned.stored found
  · intro other found
    simp only [Sequencer.forget, Dict.get?_erase] at found ⊢
    split at found
    · rename_i same
      exact if_pos same
    · rename_i different
      exact (if_neg different).trans (aligned.absent found)

/-- Neither the settings nor the batches matter. -/
theorem renumber (aligned : Aligned desk issued) (config : Config)
    (settings batchCount : Nat) :
    Aligned { desk with config, settings, batchCount } issued :=
  ⟨aligned.numbered, aligned.stored, aligned.absent⟩

theorem turn {server next : Server σ} {hand : Option Task}
    {more : List (CheckRequest × Config)}
    (aligned : Aligned server.desk issued)
    (turns : Turns server next hand more) :
    Aligned next.desk (issued ++ more.map Prod.fst) := by
  have abiding {launched : List (CheckRequest × Config)}
      (abides : Abides launched server next) :
      Aligned next.desk (issued ++ []) := by
    rw [abides.desk, List.append_nil]
    exact aligned
  cases turns with
  | abide abides => exact abiding abides
  | store document issued introduced carries queued desk =>
      subst issued
      rw [desk]
      exact aligned.issue ⟨document, server.stamps + 1⟩
        (fun id => Dict.get?_insert ..) (Nat.le_succ _) (Nat.le_refl _)
  | close id carries desk =>
      rw [desk, List.map_nil, List.append_nil]
      exact aligned.close id
  | configure config again carries desk =>
      rw [desk, List.map_nil, List.append_nil]
      exact aligned.renumber _ _ _
  | launch request config abides => exact abiding abides
  | renew number snapshot issued due carries desk =>
      subst issued
      have stored := (isDue_iff.mp due).2
      rw [desk]
      refine aligned.issue snapshot ?_ (Nat.le_refl _)
        (aligned.stored stored).2.1
      intro id
      split
      · rename_i same
        exact same ▸ stored
      · rfl
  | pass number snapshot undue abides => exact abiding abides

end Aligned

theorem aligned_after [Storage σ] (storage : σ) (machine : Machine)
    (moves : List (Move σ)) :
    Aligned (after storage machine moves).desk
      (issued storage machine moves) := by
  induction moves using List.reverseRecOn with
  | nil => exact ⟨rfl, nofun, fun _ => rfl⟩
  | append_singleton moves move ih =>
      rw [after_append_singleton, issued_append_singleton]
      rcases turns_move (after storage machine moves) move with
        begins | turns
      · obtain ⟨desk, silent⟩ := desk_of_begins begins
        rw [silent, List.map_nil, List.append_nil, desk]
        exact ih.renumber _ _ _
      · rw [← desk_aside _ move] at ih
        exact ih.turn turns

/-! ## The passing of time -/

/-- A later desk: what is stored there was stored before or has a stamp beyond
the earlier ones. -/
structure Since (desk next : Desk) : Prop where
  machine : next.machine = desk.machine
  settings : desk.settings ≤ next.settings
  stamps : desk.stamps ≤ next.stamps
  documents : ∀ {id snapshot}, next.documents.get? id = some snapshot →
    desk.documents.get? id = some snapshot ∨ desk.stamps < snapshot.stamp

namespace Since

theorem refl (desk : Desk) : Since desk desk :=
  ⟨rfl, Nat.le_refl _, Nat.le_refl _, Or.inl⟩

theorem trans {first second third : Desk} (earlier : Since first second)
    (later : Since second third) : Since first third where
  machine := later.machine.trans earlier.machine
  settings := Nat.le_trans earlier.settings later.settings
  stamps := Nat.le_trans earlier.stamps later.stamps
  documents found := by
    rcases later.documents found with kept | fresh
    · exact earlier.documents kept
    · exact Or.inr (Nat.lt_of_le_of_lt earlier.stamps fresh)

/-- What is stored at two times was stored all the time between. -/
theorem kept {first second third : Desk} {id : String} {snapshot : Snapshot}
    (earlier : Since first second) (later : Since second third)
    (stamped : snapshot.stamp ≤ first.stamps)
    (found : third.documents.get? id = some snapshot) :
    second.documents.get? id = some snapshot := by
  rcases later.documents found with kept | fresh
  · exact kept
  · have bound := Nat.le_trans stamped earlier.stamps
    omega

theorem turn {server next : Server σ} {hand : Option Task}
    {issued : List (CheckRequest × Config)}
    (turns : Turns server next hand issued) :
    Since server.desk next.desk := by
  have abiding {launched : List (CheckRequest × Config)}
      (abides : Abides launched server next) :
      Since server.desk next.desk := by
    rw [abides.desk]
    exact .refl _
  cases turns with
  | abide abides => exact abiding abides
  | store document issued introduced carries queued desk =>
      rw [desk]
      refine ⟨rfl, Nat.le_refl _, Nat.le_succ _, ?_⟩
      intro id snapshot found
      dsimp only at found
      rw [Dict.get?_insert] at found
      split at found
      · cases found
        exact Or.inr (Nat.lt_succ_self _)
      · exact Or.inl found
  | close id carries desk =>
      rw [desk]
      refine ⟨rfl, Nat.le_refl _, Nat.le_refl _, ?_⟩
      intro other snapshot found
      dsimp only at found
      rw [Dict.get?_erase] at found
      split at found
      · cases found
      · exact Or.inl found
  | configure config again carries desk =>
      rw [desk]
      exact ⟨rfl, Nat.le_succ _, Nat.le_refl _, Or.inl⟩
  | launch request config abides => exact abiding abides
  | renew number snapshot issued due carries desk =>
      rw [desk]
      exact ⟨rfl, Nat.le_refl _, Nat.le_refl _, Or.inl⟩
  | pass number snapshot undue abides => exact abiding abides

theorem move [Storage σ] (server : Server σ) (move : Move σ) :
    Since server.desk (server.move move).1.desk := by
  rcases turns_move server move with begins | turns
  · rw [(desk_of_begins begins).1]
    exact ⟨rfl, Nat.le_refl _, Nat.le_refl _, Or.inl⟩
  · rw [← desk_aside server move]
    exact .turn turns

theorem after [Storage σ] (storage : σ) (machine : Machine)
    (first rest : List (Move σ)) :
    Since (Server.after storage machine first).desk
      (Server.after storage machine (first ++ rest)).desk := by
  induction rest using List.reverseRecOn with
  | nil =>
      rw [List.append_nil]
      exact .refl _
  | append_singleton rest move ih =>
      rw [← List.append_assoc, after_append_singleton]
      exact ih.trans (.move _ move)

end Since

/-! ## Batches -/

section

variable [Storage σ] {storage : σ} {machine : Machine} {moves : List (Move σ)}
  {server next : Server σ} {move : Move σ}

/-- A batch was begun by the first of the remaining moves. -/
def Begun (storage : σ) (machine : Machine) (first rest : List (Move σ))
    (number : Nat) : Prop :=
  (after storage machine first).batchCount + 1 = number ∧
    ∃ move, rest.head? = some move ∧
      (after storage machine first).Begins move

theorem Begun.append {first rest : List (Move σ)} {number : Nat}
    (begun : Begun storage machine first rest number)
    (more : List (Move σ)) :
    Begun storage machine first (rest ++ more) number := by
  obtain ⟨same, move, starts, begins⟩ := begun
  exact ⟨same, move, by rw [List.head?_append, starts, Option.some_or], begins⟩

/-- Where a batch comes from: it has the settings of the moment at which it was
begun, and its items are snapshots that were stored then. -/
def Drawn (storage : σ) (machine : Machine) (moves : List (Move σ))
    (number settings : Nat) (items : Snapshot → Prop) : Prop :=
  ∃ first rest, moves = first ++ rest ∧
    Begun storage machine first rest number ∧
    settings = (after storage machine first).settings ∧
    ∀ {snapshot}, items snapshot →
      (after storage machine first).documents.get? snapshot.id =
        some snapshot

theorem Drawn.append_singleton {number settings : Nat}
    {items fewer : Snapshot → Prop}
    (drawn : Drawn storage machine moves number settings items)
    (within : ∀ {snapshot}, fewer snapshot → items snapshot) (move : Move σ) :
    Drawn storage machine (moves ++ [move]) number settings fewer := by
  obtain ⟨first, rest, rfl, begun, same, stored⟩ := drawn
  exact ⟨first, rest ++ [move], List.append_assoc .., begun.append _, same,
    fun member => stored (within member)⟩

/-- The batches of a server and the moves that led to it. -/
structure Batched (storage : σ) (machine : Machine) (moves : List (Move σ))
    (server : Server σ) : Prop where
  bounded : ∀ {number snapshot}, .item number snapshot ∈ server.tasks →
    number ≤ server.batchCount
  counted : ∀ {number batch}, server.batches.get? number = some batch →
    number ≤ server.batchCount
  drawn : ∀ {number batch}, server.batches.get? number = some batch →
    Drawn storage machine moves number batch.settings
      (server.Holds number batch)

theorem Batched.carry {launched : List (CheckRequest × Config)}
    (batched : Batched storage machine moves server)
    (carries : Carries launched (server.aside move) next)
    (same : next.batchCount = server.batchCount) :
    Batched storage machine (moves ++ [move]) next := by
  have fewer := server.tasks_aside_subset move
  have unchanged := server.batches_aside move
  constructor
  · intro number snapshot member
    rw [same]
    rcases carries.items member with queued | ⟨batch, found, _⟩
    · exact batched.bounded (fewer queued)
    · exact batched.counted (unchanged ▸ found)
  · intro number batch found
    obtain ⟨earlier, known, _⟩ := carries.batches found
    rw [same]
    exact batched.counted (unchanged ▸ known)
  · intro number batch found
    obtain ⟨earlier, known, settings, within⟩ := carries.batches found
    rw [settings]
    refine (batched.drawn (unchanged ▸ known)).append_singleton ?_ move
    rintro snapshot (waiting | queued)
    · exact Or.inl (within waiting)
    · rcases carries.items queued with before | ⟨other, found, waiting⟩
      · exact Or.inr (fewer before)
      · rw [known] at found
        cases found
        exact Or.inl waiting

theorem Batched.begin {launcher : Launcher σ} {index : Nat}
    {order : Arrangement}
    (batched : Batched storage machine moves (after storage machine moves))
    (begins : (after storage machine moves).Begins (.work launcher index order)) :
    Batched storage machine (moves ++ [.work launcher index order])
      ((after storage machine moves).move (.work launcher index order)).1 := by
  have aligned := aligned_after storage machine moves
  rw [move_of_begins begins]
  let server : Server σ :=
    { after storage machine moves with
      tasks := (after storage machine moves).tasks.eraseIdx index }
  have fewer : server.tasks ⊆ (after storage machine moves).tasks :=
    List.eraseIdx_subset
  -- The number of the new batch is beyond those of all items there are.
  have old {number : Nat} {snapshot : Snapshot}
      (member : .item number snapshot ∈ server.tasks) :
      number ≤ server.batchCount :=
    batched.bounded (fewer member)
  constructor
  · intro number snapshot member
    rw [startBatch_eq]
    rcases of_item_mem_startBatch member with before | ⟨rfl, _⟩
    · exact Nat.le_succ_of_le (old before)
    · exact Nat.le_refl _
  · intro number batch found
    rw [startBatch_eq]
    rcases of_get?_startBatch found with ⟨_, before⟩ | ⟨rfl, _⟩
    · exact Nat.le_succ_of_le (batched.counted before)
    · exact Nat.le_refl _
  · intro number batch found
    rcases of_get?_startBatch found with
      ⟨other, before⟩ | ⟨rfl, settings, within⟩
    · refine (batched.drawn before).append_singleton ?_ _
      rintro snapshot (waiting | queued)
      · exact Or.inl waiting
      · rcases of_item_mem_startBatch queued with earlier | ⟨same, _⟩
        · exact Or.inr (fewer earlier)
        · exact absurd same other
    · refine ⟨moves, [.work launcher index order], rfl, ⟨rfl, _, rfl, begins⟩,
        settings, ?_⟩
      intro snapshot held
      have member : snapshot ∈ server.documents.values := by
        rcases held with waiting | queued
        · exact within waiting
        · rcases of_item_mem_startBatch queued with earlier | ⟨_, stored⟩
          · exact absurd (old earlier) (Nat.not_succ_le_self _)
          · exact stored
      obtain ⟨id, stored⟩ := Dict.mem_values_iff.mp member
      rw [(aligned.stored stored).1]
      exact stored

theorem batched_after (storage : σ) (machine : Machine) (moves : List (Move σ)) :
    Batched storage machine moves (after storage machine moves) := by
  induction moves using List.reverseRecOn with
  | nil => exact ⟨nofun, nofun, nofun⟩
  | append_singleton moves move ih =>
      rw [after_append_singleton]
      rcases turns_move (after storage machine moves) move with
        begins | turns
      · cases move with
        | work launcher index order => exact ih.begin begins
        | _ => exact begins.elim
      · obtain ⟨⟨launched, carries⟩, count⟩ := turns.carries
        refine ih.carry carries (count.trans ?_)
        exact congrArg Desk.batchCount (desk_aside _ move)

/-- An item that asks for a check was stored, under the same settings, ever
since its batch was begun. -/
theorem undisturbed (storage : σ) (machine : Machine) (moves : List (Move σ))
    {launcher : Launcher σ} {index number : Nat} {order : Arrangement}
    {snapshot : Snapshot} {request : CheckRequest}
    (task : (after storage machine moves).tasks[index]? =
      some (.item number snapshot))
    (asked : request ∈ requests
      ((after storage machine moves).move (.work launcher index order)).2) :
    request.snapshot = snapshot ∧
      ∃ first rest, moves = first ++ rest ∧
        Begun storage machine first rest number ∧
        ∀ early late, rest = early ++ late →
          (after storage machine (first ++ early)).documents.get?
              snapshot.id = some snapshot ∧
            (after storage machine (first ++ early)).settings =
              (after storage machine first).settings := by
  simp only [Server.move, task, runTask] at asked
  obtain ⟨due, same⟩ := of_mem_requests_runItem asked
  obtain ⟨⟨batch, found, settings⟩, current⟩ := isDue_iff.mp due
  obtain ⟨first, rest, rfl, begun, before, stored⟩ :=
    (batched_after storage machine moves).drawn found
  have start := stored (Or.inr (List.mem_of_getElem? task))
  refine ⟨same, first, rest, rfl, begun, ?_⟩
  rintro early late rfl
  have earlier := Since.after storage machine first early
  have later := Since.after storage machine (first ++ early) late
  rw [List.append_assoc] at later
  -- What was stored at the beginning has too old a stamp to be stored anew.
  have stamped :=
    ((aligned_after storage machine first).stored start).2.1
  refine ⟨earlier.kept later stamped current, ?_⟩
  have unchanged := before.symm.trans settings
  exact Nat.le_antisymm (unchanged ▸ later.settings) earlier.settings

/-- What the server keeps and what it has asked for after some moves. -/
structure Coherent (storage : σ) (machine : Machine) (moves : List (Move σ)) :
    Prop where
  /-- Every ticket was issued with one request. -/
  numbered : (issued storage machine moves).map CheckRequest.ticket =
    List.range' 1 (after storage machine moves).bridge.tickets.issued
  stored : ∀ {id snapshot},
    (after storage machine moves).documents.get? id = some snapshot →
      snapshot.id = id ∧
        ∃ request ∈ issued storage machine moves,
          request.snapshot = snapshot ∧
          (after storage machine moves).bridge.isCurrent request = true
  current : ∀ {request}, request ∈ issued storage machine moves →
    (after storage machine moves).bridge.isCurrent request = true →
      (after storage machine moves).documents.get? request.id =
        some request.snapshot
  absent : ∀ {id},
    (after storage machine moves).documents.get? id = none →
      ∀ request ∈ issued storage machine moves, request.id = id →
        (after storage machine moves).bridge.isCurrent request = false
  /-- A snapshot that is stored anew was never stored before. -/
  fresh : ∀ {move id snapshot},
    (after storage machine (moves ++ [move])).documents.get? id =
        some snapshot →
      (after storage machine moves).documents.get? id = some snapshot ∨
        ∀ first rest, moves = first ++ rest → ∀ other,
          (after storage machine first).documents.get? other ≠
            some snapshot
  /-- An item of a batch asks for a check only if its document is as it was
  when the batch was begun, and the settings too. -/
  renewed : ∀ {launcher index order number snapshot request},
    (after storage machine moves).tasks[index]? =
        some (.item number snapshot) →
      request ∈ requests
          ((after storage machine moves).move (.work launcher index order)).2 →
      request.snapshot = snapshot ∧
        ∃ first rest, moves = first ++ rest ∧
          Begun storage machine first rest number ∧
          ∀ early late, rest = early ++ late →
            (after storage machine (first ++ early)).documents.get?
                snapshot.id = some snapshot ∧
              (after storage machine (first ++ early)).settings =
                (after storage machine first).settings

end

/-- Whatever happens to a server in whatever order, the current request of an
open document carries the snapshot that is stored for it, and a document that
is not open has no current request. -/
theorem coherent_after [Storage σ] (storage : σ) (machine : Machine)
    (moves : List (Move σ)) : Coherent storage machine moves := by
  have aligned := aligned_after storage machine moves
  constructor
  · exact aligned.numbered
  · intro id snapshot found
    obtain ⟨named, _, request, member, carried, latest⟩ := aligned.stored found
    refine ⟨named, request, member, carried, Bridge.isCurrent_iff.mpr ?_⟩
    have same : request.id = id := by rw [← named, ← carried]; rfl
    rw [same]
    exact latest
  · intro request member current
    exact aligned.stored_of_latest member (Bridge.isCurrent_iff.mp current)
  · intro id absent request member named
    refine Bool.eq_false_iff.mpr ?_
    intro current
    have stored :=
      aligned.stored_of_latest member (Bridge.isCurrent_iff.mp current)
    rw [named] at stored
    cases absent.symm.trans stored
  · intro move id snapshot found
    rw [after_append_singleton] at found
    rcases (Since.move _ move).documents found with kept | fresh
    · exact Or.inl kept
    · right
      rintro first rest rfl other stored
      have bound := ((aligned_after storage machine first).stored stored).2.1
      have later := (Since.after storage machine first rest).stamps
      exact absurd fresh (Nat.not_lt.mpr (Nat.le_trans bound later))
  · exact undisturbed storage machine moves

end ToolBridge.Server
