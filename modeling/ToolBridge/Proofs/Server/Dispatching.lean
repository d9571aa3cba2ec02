import Mathlib.Data.List.Perm.Basic
import ToolBridge.Server.Dispatch

/-!
# Runs of a dispatch

Whichever of the running items ends next, and whether it fails or not, the first
item that waits takes its place.  So the items start in their order and each of
them once, as many run as may, and no failure keeps an item from its turn.
-/

namespace ToolBridge.Dispatch

variable {α : Type}

structure Ending (α : Type) where
  item : α
  failure : Bool
  deriving DecidableEq, Repr

/-- What a dispatch may come to, with the endings so far. -/
inductive Reaches (bound : Nat) (items : List α) :
    List (Ending α) → Dispatch α → Prop where
  | start : Reaches bound items [] (start bound items)
  | finish {endings : List (Ending α)} {dispatch : Dispatch α} {index : Nat}
      {item : α} (failure : Bool) :
      Reaches bound items endings dispatch →
      dispatch.running[index]? = some item →
      Reaches bound items (endings ++ [⟨item, failure⟩])
        (dispatch.finish index failure).1

/-- What is true of the items all the time: they are started in order, those that
were started run or have ended, and a place is free only if nothing waits. -/
structure Balanced (bound : Nat) (items : List α) (endings : List (Ending α))
    (dispatch : Dispatch α) : Prop where
  ordered : dispatch.started ++ dispatch.pending = items
  accounted : (dispatch.running ++ endings.map Ending.item).Perm dispatch.started
  filled : dispatch.running.length =
    min (width bound) (dispatch.running.length + dispatch.pending.length)
  failed : dispatch.failed = (endings.filter Ending.failure).map Ending.item

/-! ## One ending -/

theorem finish_eq {dispatch : Dispatch α} {index : Nat} {item : α}
    (runs : dispatch.running[index]? = some item) (failure : Bool) :
    dispatch.finish index failure =
      ({ pending := dispatch.pending.drop 1
         running := dispatch.running.eraseIdx index ++ dispatch.pending.take 1
         started := dispatch.started ++ dispatch.pending.take 1
         failed := dispatch.failed ++ if failure then [item] else [] },
        dispatch.pending.head?) := by
  unfold finish
  rw [runs]
  dsimp only
  unfold advance
  cases waiting : dispatch.pending with
  | nil => cases failure <;> simp
  | cons next rest => cases failure <;> simp

theorem perm_eraseIdx {running : List α} {index : Nat} {item : α}
    (runs : running[index]? = some item) :
    running.Perm (running.eraseIdx index ++ [item]) := by
  obtain ⟨inside, rfl⟩ := List.getElem?_eq_some_iff.mp runs
  apply (List.getElem_cons_eraseIdx_perm inside).symm.trans
  exact (List.perm_append_singleton _ _).symm

theorem perm_append_swap (left middle right : List α) :
    (left ++ middle ++ right).Perm (left ++ right ++ middle) := by
  rw [List.append_assoc, List.append_assoc]
  exact List.perm_append_comm.append_left left

theorem Balanced.finish {bound : Nat} {items : List α} {endings : List (Ending α)}
    {dispatch : Dispatch α} {index : Nat} {item : α}
    (balanced : Balanced bound items endings dispatch)
    (runs : dispatch.running[index]? = some item) (failure : Bool) :
    Balanced bound items (endings ++ [⟨item, failure⟩])
      (dispatch.finish index failure).1 := by
  rw [finish_eq runs]
  constructor
  · rw [List.append_assoc, List.take_append_drop]
    exact balanced.ordered
  · -- The item that ends moves from one side to the other, and the next one joins.
    have moved : (dispatch.running.eraseIdx index ++
        (endings.map Ending.item ++ [item])).Perm dispatch.started := by
      apply List.Perm.trans _ balanced.accounted
      apply List.Perm.trans _ ((perm_eraseIdx runs).symm.append_right _)
      rw [← List.append_assoc]
      exact perm_append_swap _ _ _
    rw [List.map_append, List.map_singleton]
    apply List.Perm.trans _ (moved.append_right (dispatch.pending.take 1))
    exact perm_append_swap _ _ _
  · have inside := (List.getElem?_eq_some_iff.mp runs).1
    have filled := balanced.filled
    simp only [List.length_append, List.length_eraseIdx_of_lt inside,
      List.length_take, List.length_drop]
    omega
  · rw [balanced.failed, List.filter_append, List.map_append]
    cases failure with
    | false => rfl
    | true => rfl

/-! ## All endings -/

theorem balanced_start (bound : Nat) (items : List α) :
    Balanced bound items [] (start bound items) := by
  constructor
  · exact List.take_append_drop _ _
  · rw [List.map_nil, List.append_nil]
    exact List.Perm.refl _
  · simp only [start, List.length_take, List.length_drop]
    omega
  · rfl

theorem Reaches.balanced {bound : Nat} {items : List α} {endings : List (Ending α)}
    {dispatch : Dispatch α} (reached : Reaches bound items endings dispatch) :
    Balanced bound items endings dispatch := by
  induction reached with
  | start => exact balanced_start bound items
  | finish failure _ runs ih => exact ih.finish runs failure

namespace Balanced

variable {bound : Nat} {items : List α} {endings : List (Ending α)}
  {dispatch : Dispatch α}

theorem length_started (balanced : Balanced bound items endings dispatch) :
    dispatch.started.length = dispatch.running.length + endings.length := by
  rw [← balanced.accounted.length_eq, List.length_append, List.length_map]

theorem length_items (balanced : Balanced bound items endings dispatch) :
    items.length =
      dispatch.running.length + endings.length + dispatch.pending.length := by
  rw [← balanced.ordered, List.length_append, balanced.length_started]

theorem length_running (balanced : Balanced bound items endings dispatch) :
    dispatch.running.length = min (width bound) (items.length - endings.length) := by
  have whole := balanced.length_items
  have filled := balanced.filled
  omega

/-- How far the items were started tells which ones. -/
theorem items_eq (balanced : Balanced bound items endings dispatch) :
    dispatch.started = items.take (width bound + endings.length) ∧
      dispatch.pending = items.drop (width bound + endings.length) := by
  have begun := balanced.length_started
  have filled := balanced.filled
  cases waiting : dispatch.pending with
  | nil =>
      have whole := balanced.ordered
      rw [waiting, List.append_nil] at whole
      rw [waiting, List.length_nil] at filled
      rw [← whole]
      constructor
      · exact (List.take_of_length_le (by omega)).symm
      · exact (List.drop_of_length_le (by omega)).symm
  | cons next rest =>
      rw [waiting, List.length_cons] at filled
      have reached : dispatch.started.length = width bound + endings.length := by
        omega
      rw [← waiting, ← balanced.ordered]
      constructor
      · exact (List.take_left' reached).symm
      · exact (List.drop_left' reached).symm

theorem conserved (balanced : Balanced bound items endings dispatch) :
    (endings.map Ending.item ++ dispatch.running ++ dispatch.pending).Perm items := by
  have all := balanced.accounted.append_right dispatch.pending
  rw [balanced.ordered] at all
  apply List.Perm.trans _ all
  apply List.Perm.append_right
  exact List.perm_append_comm

theorem pending_of_running (balanced : Balanced bound items endings dispatch)
    (idle : dispatch.running = []) : dispatch.pending = [] := by
  have filled := balanced.filled
  rw [idle, List.length_nil] at filled
  apply List.eq_nil_of_length_eq_zero
  unfold width at filled
  omega

theorem isDone_iff (balanced : Balanced bound items endings dispatch) :
    dispatch.isDone = true ↔ dispatch.running = [] := by
  rw [isDone, Bool.and_eq_true, List.isEmpty_iff, List.isEmpty_iff]
  constructor
  · exact And.right
  · intro idle
    exact ⟨balanced.pending_of_running idle, idle⟩

theorem isDone_iff_length (balanced : Balanced bound items endings dispatch) :
    dispatch.isDone = true ↔ endings.length = items.length := by
  have whole := balanced.length_items
  have running := balanced.length_running
  unfold width at running
  rw [balanced.isDone_iff, ← List.length_eq_zero_iff]
  omega

end Balanced

theorem Reaches.ends {bound : Nat} {items : List α} {endings : List (Ending α)}
    {dispatch : Dispatch α} (reached : Reaches bound items endings dispatch) :
    ∃ more last, Reaches bound items (endings ++ more) last ∧ last.isDone = true := by
  induction left : items.length - endings.length generalizing endings dispatch with
  | zero =>
      have whole := reached.balanced.length_items
      refine ⟨[], dispatch, ?_, reached.balanced.isDone_iff_length.mpr (by omega)⟩
      rw [List.append_nil]
      exact reached
  | succ left ih =>
      have running := reached.balanced.length_running
      unfold width at running
      obtain ⟨item, runs⟩ : ∃ item, dispatch.running[0]? = some item :=
        ⟨_, List.getElem?_eq_getElem (by omega)⟩
      have next := reached.finish false runs
      obtain ⟨more, last, later, done⟩ := ih next (by
        rw [List.length_append, List.length_singleton]
        omega)
      refine ⟨⟨item, false⟩ :: more, last, ?_, done⟩
      rw [List.append_cons]
      exact later

/-- Every item of a dispatch waits, runs or has ended, and was started at most
once, in its turn. -/
structure NothingLostOrRepeated (bound : Nat) (items : List α)
    (endings : List (Ending α)) (dispatch : Dispatch α) : Prop where
  started : dispatch.started = items.take (max bound 1 + endings.length)
  pending : dispatch.pending = items.drop (max bound 1 + endings.length)
  conserved :
    (endings.map Ending.item ++ dispatch.running ++ dispatch.pending).Perm items
  limited : dispatch.running.length ≤ max bound 1
  filled : dispatch.running.length =
    min (max bound 1) (items.length - endings.length)
  failed : dispatch.failed = (endings.filter Ending.failure).map Ending.item
  /-- Any running item may end next, well or with a failure, and the first that
  waits is started. -/
  proceeds : ∀ index item failure, dispatch.running[index]? = some item →
    Reaches bound items (endings ++ [⟨item, failure⟩])
        (dispatch.finish index failure).1 ∧
      (dispatch.finish index failure).2 = items[max bound 1 + endings.length]?
  /-- The work is over when nothing runs, and then all items have ended. -/
  idle : dispatch.isDone = true ↔ dispatch.running = []
  exhausted : dispatch.isDone = true →
    dispatch.started = items ∧ (endings.map Ending.item).Perm items ∧
      dispatch.failed.length = endings.countP Ending.failure
  counted : endings.length ≤ items.length ∧
    (dispatch.isDone = true ↔ endings.length = items.length)
  ends : ∃ more last, Reaches bound items (endings ++ more) last ∧
    last.isDone = true

/-- In whatever order items end, and whichever of them fail, no item is lost, none
is started twice, and the places are as full as they may be. -/
theorem nothingLostOrRepeated_of_reaches {bound : Nat} {items : List α}
    {endings : List (Ending α)} {dispatch : Dispatch α}
    (reached : Reaches bound items endings dispatch) :
    NothingLostOrRepeated bound items endings dispatch where
  started := reached.balanced.items_eq.1
  pending := reached.balanced.items_eq.2
  conserved := reached.balanced.conserved
  limited := by
    rw [reached.balanced.length_running]
    exact Nat.min_le_left _ _
  filled := reached.balanced.length_running
  failed := reached.balanced.failed
  proceeds index item failure runs := by
    refine ⟨reached.finish failure runs, ?_⟩
    rw [finish_eq runs, reached.balanced.items_eq.2, List.head?_drop]
    rfl
  idle := reached.balanced.isDone_iff
  exhausted done := by
    have idle := reached.balanced.isDone_iff.mp done
    have waiting := reached.balanced.pending_of_running idle
    have all := reached.balanced.conserved
    have ordered := reached.balanced.ordered
    rw [idle, waiting, List.append_nil, List.append_nil] at all
    rw [waiting, List.append_nil] at ordered
    refine ⟨ordered, all, ?_⟩
    rw [reached.balanced.failed, List.length_map, List.countP_eq_length_filter]
  counted := by
    refine ⟨?_, reached.balanced.isDone_iff_length⟩
    have whole := reached.balanced.length_items
    omega
  ends := reached.ends

/-- The second of three items fails, and the first is the last to end. -/
theorem nothingLostOrRepeated_twoAtOnce :
    let endings : List (Ending Nat) := [⟨2, true⟩, ⟨3, false⟩, ⟨1, false⟩]
    let dispatch : Dispatch Nat := ⟨[], [], [1, 2, 3], [2]⟩
    Reaches 2 [1, 2, 3] endings dispatch ∧ dispatch.isDone = true ∧
      NothingLostOrRepeated 2 [1, 2, 3] endings dispatch := by
  intro endings dispatch
  have first : Reaches 2 [1, 2, 3] [⟨2, true⟩] ⟨[], [1, 3], [1, 2, 3], [2]⟩ :=
    Reaches.start.finish true
      (rfl : (start 2 [1, 2, 3]).running[1]? = some 2)
  have second : Reaches 2 [1, 2, 3] [⟨2, true⟩, ⟨3, false⟩]
      ⟨[], [1], [1, 2, 3], [2]⟩ :=
    first.finish false (rfl : [1, 3][1]? = some 3)
  have third : Reaches 2 [1, 2, 3] endings dispatch :=
    second.finish false (rfl : [1][0]? = some 1)
  exact ⟨third, rfl, nothingLostOrRepeated_of_reaches third⟩

end ToolBridge.Dispatch
