import ToolBridge.Proofs.Server.Coherence

/-!
# Open documents are checked under the settings of the moment

A change of the settings leaves every open document with a request that is the
newest of the document and yet was issued under the old configuration.  The
batch that follows may be abandoned for another change, and it passes over
documents that were edited in the meantime.  Still no document is forgotten:
its newest request was issued under the configuration of the moment, or it
still waits in a batch for the settings of the moment.
-/

namespace ToolBridge.Server

variable {σ : Type}

/-! ## Documents that are covered -/

/-- The newest request for a document was issued for this snapshot, under the
configuration of the moment. -/
def Desk.Timely (desk : Desk) (log : List (CheckRequest × Config))
    (snapshot : Snapshot) : Prop :=
  ∃ request, (request, desk.config) ∈ log ∧ request.snapshot = snapshot ∧
    desk.tickets.latest.get? snapshot.id = some request.ticket

/-- A batch for the settings of the moment has an item for the snapshot that
was not taken up yet. -/
def Waits (server : Server σ) (snapshot : Snapshot) : Prop :=
  ∃ number batch, server.batches.get? number = some batch ∧
    batch.settings = server.settings ∧ server.Holds number batch snapshot

/-- The snapshot is to be checked again: a batch of all documents is about to
begin, or one has an item for it. -/
def Awaits (server : Server σ) (snapshot : Snapshot) : Prop :=
  .revalidate ∈ server.tasks ∨ server.Waits snapshot

/-- A stored snapshot has a request under the configuration of the moment or
awaits one, and a server that was not introduced stores nothing. -/
structure Covered (server : Server σ)
    (log : List (CheckRequest × Config)) : Prop where
  empty : server.phase = .fresh → ∀ id, server.documents.get? id = none
  stored : ∀ {id snapshot}, server.documents.get? id = some snapshot →
    server.desk.Timely log snapshot ∨ server.Awaits snapshot

section

variable {server next : Server σ} {desk later : Desk} {snapshot : Snapshot}
  {log more launched : List (CheckRequest × Config)} {hand : Option Task}

theorem Desk.Timely.keep (timely : desk.Timely log snapshot)
    (config : later.config = desk.config)
    (latest : later.tickets.latest.get? snapshot.id =
      desk.tickets.latest.get? snapshot.id) :
    later.Timely (log ++ more) snapshot := by
  obtain ⟨request, member, carried, newest⟩ := timely
  refine ⟨request, ?_, carried, latest.trans newest⟩
  rw [config]
  exact List.mem_append_left _ member

theorem Desk.Timely.issue (desk : Desk) (snapshot : Snapshot)
    (log : List (CheckRequest × Config))
    (config : later.config = desk.config)
    (tickets : later.tickets = (desk.tickets.issue snapshot.id).1) :
    later.Timely
      (log ++ [(⟨snapshot, desk.tickets.issued + 1⟩, desk.config)])
      snapshot := by
  refine ⟨⟨snapshot, desk.tickets.issued + 1⟩, ?_, rfl, ?_⟩
  · rw [config]
    exact List.mem_append_right _ (List.mem_singleton_self _)
  · rw [tickets, Sequencer.issue]
    exact Dict.get?_insert_self ..

theorem Carries.awaits (carries : Carries launched server next)
    (settings : next.settings = server.settings)
    (awaits : server.Awaits snapshot) : next.Awaits snapshot := by
  rcases awaits with scheduled | ⟨number, batch, found, current, held⟩
  · exact Or.inl (carries.tasks scheduled)
  · obtain ⟨moved, known, same, kept⟩ := carries.holds found held
    exact Or.inr ⟨number, moved, known,
      (same.trans current).trans settings.symm, kept⟩

/-- What a step does not touch stays covered. -/
theorem Carries.covered (carries : Carries launched server next)
    (config : next.desk.config = server.desk.config)
    (settings : next.desk.settings = server.desk.settings)
    (latest : next.desk.tickets.latest.get? snapshot.id =
      server.desk.tickets.latest.get? snapshot.id)
    (covered : server.desk.Timely log snapshot ∨ server.Awaits snapshot) :
    next.desk.Timely (log ++ more) snapshot ∨ next.Awaits snapshot := by
  rcases covered with timely | awaits
  · exact Or.inl (timely.keep config latest)
  · exact Or.inr (carries.awaits settings awaits)

theorem Abides.covered (abides : Abides launched server next)
    (covered : server.desk.Timely log snapshot ∨ server.Awaits snapshot) :
    next.desk.Timely (log ++ more) snapshot ∨ next.Awaits snapshot := by
  have same := abides.desk
  apply abides.carries.covered
  · rw [same]
  · rw [same]
  · rw [same]
  · exact covered

/-- A turn leaves no stored snapshot uncovered.  The item that was taken up
covers its snapshot as long as it is due. -/
theorem Turns.covered (turns : Turns server next hand more)
    (empty : server.phase = .fresh → ∀ id, server.documents.get? id = none)
    (named : ∀ {id snapshot}, server.documents.get? id = some snapshot →
      snapshot.id = id)
    (stored : ∀ {id snapshot}, server.documents.get? id = some snapshot →
      server.desk.Timely log snapshot ∨ server.Awaits snapshot ∨
        ∃ number, hand = some (.item number snapshot) ∧
          server.isDue number snapshot = true)
    {id : String} (found : next.desk.documents.get? id = some snapshot) :
    next.desk.Timely (log ++ more) snapshot ∨ next.Awaits snapshot := by
  have before (found : server.documents.get? id = some snapshot)
      (other : ∀ number, hand = some (.item number snapshot) →
        server.isDue number snapshot = false) :
      server.desk.Timely log snapshot ∨ server.Awaits snapshot := by
    rcases stored found with timely | awaits | ⟨number, taken, due⟩
    · exact Or.inl timely
    · exact Or.inr awaits
    · rw [other number taken] at due
      cases due
  cases turns with
  | abide abides =>
      rw [abides.desk] at found
      exact abides.covered (before found (by simp))
  | store document issued introduced carries queued desk =>
      subst issued
      rw [desk] at found
      dsimp only at found
      rw [Dict.get?_insert] at found
      split at found
      · cases found
        refine Or.inl (.issue server.desk _ log ?_ ?_)
        · rw [desk]
        · rw [desk]
          rfl
      · rename_i other
        apply carries.covered
        · rw [desk]
        · rw [desk]
        · rw [desk, named found]
          exact (Dict.get?_insert ..).trans (if_neg other)
        · exact before found (by simp)
  | close closed carries desk =>
      rw [desk] at found
      dsimp only at found
      rw [Dict.get?_erase] at found
      split at found
      · cases found
      · rename_i other
        apply carries.covered
        · rw [desk]
        · rw [desk]
        · rw [desk, named found]
          exact (Dict.get?_erase ..).trans (if_neg other)
        · exact before found (by simp)
  | configure config again carries desk =>
      -- Without a batch to come, the change has to find no document at all.
      rcases again with scheduled | fresh
      · exact Or.inr (Or.inl scheduled)
      · rw [desk] at found
        cases (empty fresh id).symm.trans found
  | launch request config abides =>
      rw [abides.desk] at found
      exact abides.covered (before found (by simp))
  | renew number renewed issued due carries desk =>
      subst issued
      rw [desk] at found
      -- The item was due, so its snapshot is the one that is stored.
      by_cases same : renewed.id = id
      · have kept := (isDue_iff.mp due).2
        rw [same] at kept
        cases kept.symm.trans found
        refine Or.inl (.issue server.desk _ log ?_ ?_)
        · rw [desk]
        · rw [desk]
          rfl
      · apply carries.covered
        · rw [desk]
        · rw [desk]
        · rw [desk, named found]
          exact (Dict.get?_insert ..).trans (if_neg same)
        · refine before found ?_
          rintro other ⟨⟩
          exact absurd (named found) same
  | pass number skipped undue abides =>
      rw [abides.desk] at found
      refine abides.covered (before found ?_)
      rintro other ⟨⟩
      exact undue

theorem Turns.empty (turns : Turns server next hand more)
    (empty : server.phase = .fresh → ∀ id, server.documents.get? id = none)
    (fresh : next.phase = .fresh) (id : String) :
    next.desk.documents.get? id = none := by
  have kept {launched : List (CheckRequest × Config)}
      (carries : Carries launched server next)
      (desk : next.desk.documents = server.documents) :
      next.desk.documents.get? id = none := by
    rw [desk]
    exact empty (carries.phase fresh) id
  cases turns with
  | abide abides => exact kept abides.carries (by rw [abides.desk]; rfl)
  | store document issued introduced carries queued desk =>
      exact absurd (carries.phase fresh) introduced
  | close closed carries desk =>
      rw [desk]
      dsimp only
      rw [Dict.get?_erase, empty (carries.phase fresh) id, ite_self]
  | configure config again carries desk => exact kept carries (by rw [desk]; rfl)
  | launch request config abides =>
      exact kept abides.carries (by rw [abides.desk]; rfl)
  | renew number renewed issued due carries desk =>
      exact kept carries (by rw [desk]; rfl)
  | pass number skipped undue abides =>
      exact kept abides.carries (by rw [abides.desk]; rfl)

/-- What awaits a check is found without the task that is taken up, unless it
is the item for it. -/
theorem Awaits.aside {move : Move σ} (awaits : server.Awaits snapshot)
    (other : server.hand? move ≠ some .revalidate) :
    (server.aside move).Awaits snapshot ∨
      ∃ number batch, server.hand? move = some (.item number snapshot) ∧
        server.batches.get? number = some batch ∧
        batch.settings = server.settings := by
  have settings : (server.aside move).settings = server.settings :=
    congrArg Desk.settings (server.desk_aside move)
  rcases awaits with scheduled | ⟨number, batch, found, current, held⟩
  · rcases mem_tasks_aside scheduled with kept | taken
    · exact Or.inl (Or.inl kept)
    · exact absurd taken other
  · have waits (kept : (server.aside move).Holds number batch snapshot) :
        (server.aside move).Awaits snapshot :=
      Or.inr ⟨number, batch, by rw [batches_aside]; exact found,
        current.trans settings.symm, kept⟩
    rcases held with pending | queued
    · exact Or.inl (waits (Or.inl pending))
    · rcases mem_tasks_aside queued with kept | taken
      · exact Or.inl (waits (Or.inr kept))
      · exact Or.inr ⟨number, batch, taken, found, current⟩

theorem Turns.hand_ne (turns : Turns server next hand more) :
    hand ≠ some .revalidate := by
  cases turns <;> simp

theorem Covered.turn {move : Move σ} {issued : List CheckRequest}
    (covered : Covered server log) (aligned : Aligned server.desk issued)
    (turns : Turns (server.aside move) next (server.hand? move) more) :
    Covered next (log ++ more) := by
  have desk := server.desk_aside move
  have documents : (server.aside move).documents = server.documents :=
    congrArg Desk.documents desk
  have phase : (server.aside move).phase = server.phase := by
    cases move <;> rfl
  have empty (fresh : (server.aside move).phase = .fresh) (id : String) :
      (server.aside move).documents.get? id = none := by
    rw [documents]
    exact covered.empty (phase ▸ fresh) id
  refine ⟨turns.empty empty, turns.covered empty ?_ ?_⟩
  · intro id snapshot found
    rw [documents] at found
    exact (aligned.stored found).1
  · intro id snapshot found
    rw [documents] at found
    rcases covered.stored found with timely | awaits
    · rw [desk]
      exact Or.inl timely
    · rcases awaits.aside turns.hand_ne with
        kept | ⟨number, batch, taken, known, current⟩
      · exact Or.inr (Or.inl kept)
      · refine Or.inr (Or.inr ⟨number, taken, isDue_iff.mpr ⟨⟨batch, ?_, ?_⟩, ?_⟩⟩)
        · rw [batches_aside]
          exact known
        · exact current.trans (congrArg Desk.settings desk).symm
        · rw [documents, (aligned.stored found).1]
          exact found

theorem waits_startBatch {id : String} (order : Arrangement)
    (found : server.documents.get? id = some snapshot) :
    (server.startBatch order).Waits snapshot := by
  have member : snapshot ∈ order.arrange server.documents.values :=
    (order.perm _).mem_iff.mpr (Dict.mem_values_iff.mpr ⟨id, found⟩)
  rw [startBatch_eq]
  refine ⟨server.batchCount + 1, _, Dict.get?_insert_self .., rfl, ?_⟩
  rw [← List.take_append_drop (Dispatch.width
    (batchWidth server.machine.processors server.documents.values.length))
    (order.arrange server.documents.values)] at member
  rcases List.mem_append.mp member with first | rest
  · exact Or.inr (List.mem_append_right _ (List.mem_map_of_mem first))
  · exact Or.inl rest

/-- An item that is due asks for its snapshot under the configuration of the
moment. -/
theorem Turns.timely {number : Nat}
    (turns : Turns server next (some (.item number snapshot)) more)
    (due : server.isDue number snapshot = true) :
    next.desk.Timely (log ++ more) snapshot := by
  cases turns with
  | renew _ _ issued _ _ desk =>
      subst issued
      refine .issue server.desk snapshot log ?_ ?_
      · rw [desk]
      · rw [desk]
        rfl
  | pass _ _ undue =>
      rw [undue] at due
      cases due

theorem Turns.queued {request : CheckRequest} {config : Config}
    (turns : Turns server next hand more) (member : (request, config) ∈ more) :
    .check request config ∈ next.tasks ∨
      ∃ number snapshot, hand = some (.item number snapshot) := by
  cases turns with
  | store document issued introduced carries queued desk =>
      cases List.mem_singleton.mp member
      exact Or.inl queued
  | renew number snapshot issued due carries desk =>
      exact Or.inr ⟨number, snapshot, rfl⟩
  | _ => cases member

theorem Engaged.of_aside {move : Move σ} {request : CheckRequest}
    {config : Config} (engaged : (server.aside move).Engaged request config) :
    server.Engaged request config := by
  have bridge : (server.aside move).bridge = server.bridge := by
    cases move <;> rfl
  rcases engaged with queued | ran
  · exact Or.inl (server.tasks_aside_subset move queued)
  · exact Or.inr (bridge ▸ ran)

theorem Engaged.of_startBatch {request : CheckRequest} {config : Config}
    {order : Arrangement}
    (engaged : (server.startBatch order).Engaged request config) :
    server.Engaged request config := by
  rw [startBatch_eq] at engaged
  rcases engaged with queued | ran
  · have before : .check request config ∈ server.tasks := by
      simpa using queued
    exact Or.inl before
  · exact Or.inr ran

variable [Storage σ]

theorem Covered.begin {launcher : Launcher σ} {index : Nat}
    {order : Arrangement} (covered : Covered server log)
    (begins : server.Begins (.work launcher index order)) :
    Covered (server.move (.work launcher index order)).1 log := by
  rw [move_of_begins begins]
  constructor
  · rw [startBatch_eq]
    exact covered.empty
  · intro id snapshot found
    have stored : server.documents.get? id = some snapshot := by
      rw [startBatch_eq] at found
      exact found
    exact Or.inr (Or.inr (waits_startBatch order stored))

theorem covered_after (storage : σ) (machine : Machine)
    (moves : List (Move σ)) :
    Covered (after storage machine moves)
      (ordered storage machine moves) := by
  induction moves using List.reverseRecOn with
  | nil => exact ⟨fun _ _ => rfl, nofun⟩
  | append_singleton moves move ih =>
      rw [after_append_singleton, ordered_append_singleton]
      rcases turns_move (after storage machine moves) move with
        begins | turns
      · rw [(desk_of_begins begins).2, List.append_nil]
        cases move with
        | work launcher index order => exact ih.begin begins
        | _ => exact begins.elim
      · exact ih.turn (aligned_after storage machine moves) turns

/-! ## Checks and their configurations -/

/-- A check is done under the configuration for which it was asked for. -/
theorem ordered_of_engaged {storage : σ} {machine : Machine}
    {moves : List (Move σ)} {request : CheckRequest} {config : Config}
    (engaged : (after storage machine moves).Engaged request config) :
    (request, config) ∈ ordered storage machine moves := by
  induction moves using List.reverseRecOn with
  | nil =>
      rcases engaged with queued | ⟨generation, stderr, found⟩
      · cases queued
      · cases found
  | append_singleton moves move ih =>
      rw [after_append_singleton] at engaged
      rw [ordered_append_singleton]
      rcases turns_move (after storage machine moves) move with
        begins | turns
      · cases move with
        | work launcher index order =>
            rw [move_of_begins begins] at engaged
            have before : ((after storage machine moves).aside
                (.work launcher index order)).Engaged request config :=
              engaged.of_startBatch
            exact List.mem_append_left _ (ih before.of_aside)
        | _ => exact begins.elim
      · rcases turns.engaged engaged with before | taken | now
        · exact List.mem_append_left _ (ih before.of_aside)
        · exact List.mem_append_left _ (ih (Or.inl (mem_of_hand? taken)))
        · exact List.mem_append_right _ now

theorem config_unique {storage : σ} {machine : Machine} {moves : List (Move σ)}
    {request : CheckRequest} {left right : Config}
    (first : (request, left) ∈ ordered storage machine moves)
    (second : (request, right) ∈ ordered storage machine moves) :
    left = right := by
  have distinct : ((ordered storage machine moves).map
      fun order => order.1.ticket).Nodup := by
    have numbered := (aligned_after storage machine moves).numbered
    rw [issued_eq_map_ordered, List.map_map] at numbered
    change ((ordered storage machine moves).map
      (CheckRequest.ticket ∘ Prod.fst)).Nodup
    rw [numbered]
    exact List.nodup_range'
  have same := List.inj_on_of_nodup_map distinct first second rfl
  exact congrArg Prod.snd same

/-! ## Checks that are launched -/

/-- A move launches a check: it takes up the launch of the check, or an item of
a batch that asks for it. -/
def Undertakes (server : Server σ) (move : Move σ) (request : CheckRequest)
    (config : Config) : Prop :=
  server.hand? move = some (.check request config) ∨
    ∃ number snapshot, server.hand? move = some (.item number snapshot) ∧
      (request, config) ∈ orders (server.move move).2

/-- A check was launched by one of the moves. -/
def Undertaken (storage : σ) (machine : Machine) (moves : List (Move σ))
    (request : CheckRequest) (config : Config) : Prop :=
  ∃ first move rest, moves = first ++ move :: rest ∧
    (after storage machine first).Undertakes move request config

theorem Undertaken.append_singleton {storage : σ} {machine : Machine}
    {moves : List (Move σ)} {request : CheckRequest} {config : Config}
    (undertaken : Undertaken storage machine moves request config)
    (move : Move σ) :
    Undertaken storage machine (moves ++ [move]) request config := by
  obtain ⟨first, launch, rest, rfl, undertakes⟩ := undertaken
  exact ⟨first, launch, rest ++ [move], by simp, undertakes⟩

/-- What was asked for is queued until it is launched. -/
theorem queued_or_undertaken {storage : σ} {machine : Machine}
    {moves : List (Move σ)} {request : CheckRequest} {config : Config}
    (asked : (request, config) ∈ ordered storage machine moves) :
    .check request config ∈ (after storage machine moves).tasks ∨
      Undertaken storage machine moves request config := by
  induction moves using List.reverseRecOn with
  | nil => cases asked
  | append_singleton moves move ih =>
      rw [ordered_append_singleton] at asked
      rw [after_append_singleton]
      have now (undertakes : (after storage machine moves).Undertakes move
          request config) :
          Undertaken storage machine (moves ++ [move]) request config :=
        ⟨moves, move, [], rfl, undertakes⟩
      have kept (queued : .check request config ∈
            ((after storage machine moves).aside move).tasks) :
          .check request config ∈
            ((after storage machine moves).move move).1.tasks := by
        rcases turns_move (after storage machine moves) move with
          begins | turns
        · cases move with
          | work launcher index order =>
              rw [move_of_begins begins, startBatch_eq]
              exact List.mem_append_left _ queued
          | _ => exact begins.elim
        · obtain ⟨⟨launched, carries⟩, _⟩ := turns.carries
          exact carries.tasks queued
      rcases List.mem_append.mp asked with before | new
      · rcases ih before with queued | undertaken
        · rcases mem_tasks_aside queued with left | taken
          · exact Or.inl (kept left)
          · exact Or.inr (now (Or.inl taken))
        · exact Or.inr (undertaken.append_singleton move)
      · rcases turns_move (after storage machine moves) move with
          begins | turns
        · rw [(desk_of_begins begins).2] at new
          cases new
        · rcases turns.queued new with queued | ⟨number, snapshot, taken⟩
          · exact Or.inl queued
          · exact Or.inr (now (Or.inr ⟨number, snapshot, taken, new⟩))

/-! ## Settings and checks agree -/

/-- The newest request for the stored snapshot of a document was issued under
the configuration of the moment. -/
def Asked (storage : σ) (machine : Machine) (moves : List (Move σ))
    (snapshot : Snapshot) (request : CheckRequest) : Prop :=
  (request, (after storage machine moves).config) ∈
      ordered storage machine moves ∧
    request.snapshot = snapshot ∧
    (after storage machine moves).bridge.isCurrent request = true

theorem exists_asked {storage : σ} {machine : Machine} {moves : List (Move σ)}
    (timely : (after storage machine moves).desk.Timely
      (ordered storage machine moves) snapshot) :
    ∃ request, Asked storage machine moves snapshot request := by
  obtain ⟨request, member, rfl, latest⟩ := timely
  exact ⟨request, member, rfl, Bridge.isCurrent_iff.mpr latest⟩

/-- How the open documents stand to the settings after some moves. -/
structure UpToDate (storage : σ) (machine : Machine) (moves : List (Move σ)) :
    Prop where
  /-- An open document that has no request under the configuration of the
  moment waits with the very snapshot that is stored, in a batch for the
  settings of the moment or for one that is about to begin. -/
  covered : ∀ {id snapshot},
    (after storage machine moves).documents.get? id = some snapshot →
      (∃ request, Asked storage machine moves snapshot request) ∨
        (after storage machine moves).Awaits snapshot
  /-- A batch that begins has all open documents. -/
  drawn : ∀ {launcher index order id snapshot},
    (after storage machine moves).tasks[index]? = some .revalidate →
      (after storage machine moves).documents.get? id = some snapshot →
        (after storage machine (moves ++ [.work launcher index order])).Waits
          snapshot
  /-- A document that waits is asked for under the configuration of the moment
  when its turn comes. -/
  taken : ∀ {launcher index order number batch id snapshot},
    (after storage machine moves).tasks[index]? =
        some (.item number snapshot) →
      (after storage machine moves).batches.get? number = some batch →
      batch.settings = (after storage machine moves).settings →
      (after storage machine moves).documents.get? id = some snapshot →
        ∃ request, Asked storage machine (moves ++ [.work launcher index order])
          snapshot request
  /-- The newest check of an open document that does not wait is queued or was
  launched under the configuration of the moment, and never under another. -/
  settled : ∀ {id snapshot},
    (after storage machine moves).documents.get? id = some snapshot →
      ¬ (after storage machine moves).Awaits snapshot →
        ∃ request, Asked storage machine moves snapshot request ∧
          (.check request (after storage machine moves).config ∈
              (after storage machine moves).tasks ∨
            Undertaken storage machine moves request
              (after storage machine moves).config) ∧
          ∀ {config},
            (after storage machine moves).Engaged request config →
              config = (after storage machine moves).config

end

/-- Whatever happens to a server, no open document is left with a check under
old settings alone: neither a batch that was abandoned nor an item that was
passed over makes it forget one. -/
theorem upToDate_after [Storage σ] (storage : σ) (machine : Machine)
    (moves : List (Move σ)) : UpToDate storage machine moves := by
  have aligned := aligned_after storage machine moves
  have covered {id : String} {snapshot : Snapshot}
      (found : (after storage machine moves).documents.get? id =
        some snapshot) :
      (∃ request, Asked storage machine moves snapshot request) ∨
        (after storage machine moves).Awaits snapshot :=
    ((covered_after storage machine moves).stored found).imp_left
      exists_asked
  constructor
  · exact covered
  · intro launcher index order id snapshot scheduled found
    have begins : (after storage machine moves).Begins
        (.work launcher index order) := scheduled
    rw [after_append_singleton, move_of_begins begins]
    exact waits_startBatch order found
  · intro launcher index order number batch id snapshot task known current found
    have due : ((after storage machine moves).aside
        (.work launcher index order)).isDue number snapshot = true := by
      refine isDue_iff.mpr ⟨⟨batch, known, current⟩, ?_⟩
      rw [(aligned.stored found).1]
      exact found
    apply exists_asked
    rw [after_append_singleton, ordered_append_singleton]
    rcases turns_move (after storage machine moves) (.work launcher index order)
      with begins | turns
    · cases task.symm.trans begins
    · have hand : (after storage machine moves).hand?
          (.work launcher index order) = some (.item number snapshot) := task
      rw [hand] at turns
      exact turns.timely due
  · intro id snapshot found settled
    rcases covered found with ⟨request, asked⟩ | awaits
    · refine ⟨request, asked, queued_or_undertaken asked.1, ?_⟩
      intro config engaged
      exact config_unique (ordered_of_engaged engaged) asked.1
    · exact absurd awaits settled

end ToolBridge.Server
