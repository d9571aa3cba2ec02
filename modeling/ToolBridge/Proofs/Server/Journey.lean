import Mathlib.Data.List.Induction
import ToolBridge.Proofs.Server.Turns

/-!
# Journeys of a server

A journey is a sequence of moves and what comes of it.  The editor may call at
any time, the tasks are done in any order, and every process may do anything
at any time.

Every move is one step.  A call is handled to its end, an item of a batch is
found due and asked for at once, and the end of a process is reported, with all
that follows from it, before the next move.  Two interleavings of concurrent
threads are therefore not among the journeys: the settings that change while a
document that was just stored waits for them to ask for its check, and the edit
that comes between the test that an item is due and the request for it.
-/

namespace ToolBridge

/-! ## Calls of an editor -/

namespace Call

/-- The first request of an editor without special abilities. -/
def greeting : Call :=
  ⟨"initialize", some (.object [("capabilities", .object [])]), true⟩

def opening (uri text : String) : Call :=
  ⟨"textDocument/didOpen",
    some (.object [("textDocument", .object
      [("uri", .string uri), ("languageId", .string "forge"),
       ("version", .int 1), ("text", .string text)])]), false⟩

def closing (uri : String) : Call :=
  ⟨"textDocument/didClose",
    some (.object [("textDocument", .object [("uri", .string uri)])]), false⟩

/-- The scratch files are to be kept in another directory. -/
def retargeting (directory : String) : Call :=
  ⟨"workspace/didChangeConfiguration",
    some (.object [("settings", .object
      [("scratchDir", .string directory)])]), false⟩

/-- The last request. -/
def quitting : Call :=
  ⟨"shutdown", none, true⟩

end Call

namespace Server

/-! ## Moves -/

/-- What happens to a server in one step, which nothing else interrupts. -/
inductive Move (σ : Type) where
  | call (launcher : Launcher σ) (call : Call)
  /-- One of the tasks is done, not always the first.  The documents of a batch
  that it begins are taken up in any order. -/
  | work (launcher : Launcher σ) (index : Nat) (order : Arrangement)
  | receive (generation : Nat) (events : List ProcessEvent)
  /-- The files are changed by somebody else. -/
  | disturb (storage : σ)

/-- A machine with one processor. -/
def plainMachine : Machine where
  processors := 1
  temporary := "tmp"
  complaint _ := "unexpected shape"

variable {σ : Type}

/-- A move that begins to check all open documents again. -/
def Begins (server : Server σ) : Move σ → Prop
  | .work _ index _ => server.tasks[index]? = some .revalidate
  | _ => False

/-- The task that a move takes up, if there is one. -/
def hand? (server : Server σ) : Move σ → Option Task
  | .work _ index _ => server.tasks[index]?
  | _ => none

/-- The server without the task that a move takes up. -/
def aside (server : Server σ) : Move σ → Server σ
  | .work _ index _ => { server with tasks := server.tasks.eraseIdx index }
  | _ => server

@[simp] theorem desk_aside (server : Server σ) (move : Move σ) :
    (server.aside move).desk = server.desk := by
  cases move <;> rfl

@[simp] theorem batches_aside (server : Server σ) (move : Move σ) :
    (server.aside move).batches = server.batches := by
  cases move <;> rfl

theorem tasks_aside_subset (server : Server σ) (move : Move σ) :
    (server.aside move).tasks ⊆ server.tasks := by
  cases move with
  | work launcher index order => exact List.eraseIdx_subset
  | _ => exact fun _ member => member

theorem mem_of_hand? {server : Server σ} {move : Move σ} {task : Task}
    (taken : server.hand? move = some task) : task ∈ server.tasks := by
  cases move with
  | work launcher index order => exact List.mem_of_getElem? taken
  | _ => cases taken

theorem mem_tasks_aside {server : Server σ} {move : Move σ} {task : Task}
    (member : task ∈ server.tasks) :
    task ∈ (server.aside move).tasks ∨ server.hand? move = some task := by
  cases move with
  | work launcher index order =>
      obtain ⟨place, found⟩ := List.mem_iff_getElem?.mp member
      by_cases same : place = index
      · subst same
        exact Or.inr found
      · exact Or.inl (List.mem_eraseIdx_iff_getElem?.mpr ⟨place, same, found⟩)
  | _ => exact Or.inl member

variable [Storage σ]

def move (server : Server σ) : Move σ → Server σ × List Reaction
  | .call launcher call =>
      let (server, _, reactions) := server.handle launcher call
      (server, reactions)
  | .work launcher index order =>
      match server.tasks[index]? with
      | some task =>
          { server with tasks := server.tasks.eraseIdx index }.runTask launcher
            order task
      | none => (server, [])
  | .receive generation events => server.receive generation events
  | .disturb storage =>
      ({ server with bridge := { server.bridge with storage } }, [])

def advance (journey : Server σ × List Reaction) (move : Move σ) :
    Server σ × List Reaction :=
  let (server, reactions) := journey.1.move move
  (server, journey.2 ++ reactions)

/-- What comes of a sequence of moves, from a server that has done nothing. -/
def journey (storage : σ) (machine : Machine) (moves : List (Move σ)) :
    Server σ × List Reaction :=
  moves.foldl advance (initial storage machine, [])

def after (storage : σ) (machine : Machine) (moves : List (Move σ)) : Server σ :=
  (journey storage machine moves).1

/-- The requests that were issued in a sequence of moves. -/
def issued (storage : σ) (machine : Machine) (moves : List (Move σ)) :
    List CheckRequest :=
  requests (journey storage machine moves).2

/-- The requests that were issued in a sequence of moves, with their
configurations. -/
def ordered (storage : σ) (machine : Machine) (moves : List (Move σ)) :
    List (CheckRequest × Config) :=
  orders (journey storage machine moves).2

theorem issued_eq_map_ordered (storage : σ) (machine : Machine)
    (moves : List (Move σ)) :
    issued storage machine moves =
      (ordered storage machine moves).map Prod.fst :=
  requests_eq_map_orders _

theorem after_append_singleton (storage : σ) (machine : Machine)
    (moves : List (Move σ)) (move : Move σ) :
    after storage machine (moves ++ [move]) =
      ((after storage machine moves).move move).1 := by
  simp only [after, journey, List.foldl_append]
  rfl

theorem ordered_append_singleton (storage : σ) (machine : Machine)
    (moves : List (Move σ)) (move : Move σ) :
    ordered storage machine (moves ++ [move]) =
      ordered storage machine moves ++
        orders ((after storage machine moves).move move).2 := by
  simp only [ordered, journey, List.foldl_append]
  exact orders_append _ _

theorem issued_append_singleton (storage : σ) (machine : Machine)
    (moves : List (Move σ)) (move : Move σ) :
    issued storage machine (moves ++ [move]) =
      issued storage machine moves ++
        (orders ((after storage machine moves).move move).2).map
          Prod.fst := by
  rw [issued_eq_map_ordered, ordered_append_singleton, List.map_append,
    ← issued_eq_map_ordered]

theorem move_of_begins {server : Server σ} {launcher : Launcher σ} {index : Nat}
    {order : Arrangement} (begins : server.Begins (.work launcher index order)) :
    server.move (.work launcher index order) =
      ({ server with tasks := server.tasks.eraseIdx index }.startBatch order,
        []) := by
  have found : server.tasks[index]? = some .revalidate := begins
  simp only [move, found, runTask]

theorem desk_of_begins {server : Server σ} {move : Move σ}
    (begins : server.Begins move) :
    (server.move move).1.desk =
        { server.desk with batchCount := server.batchCount + 1 } ∧
      orders (server.move move).2 = [] := by
  cases move with
  | work launcher index order =>
      rw [move_of_begins begins, startBatch_eq]
      exact ⟨rfl, rfl⟩
  | _ => exact begins.elim

/-- A move begins a batch or makes a turn, without the task it takes up. -/
theorem turns_move (server : Server σ) (move : Move σ) :
    server.Begins move ∨
      Turns (server.aside move) (server.move move).1 (server.hand? move)
        (orders (server.move move).2) := by
  cases move with
  | call launcher call => exact Or.inr (server.turns_handle launcher call)
  | work launcher index order =>
      cases found : server.tasks[index]? with
      | none =>
          right
          have kept : server.tasks.eraseIdx index = server.tasks :=
            List.eraseIdx_of_length_le (List.getElem?_eq_none_iff.mp found)
          simp only [Server.move, hand?, aside, found, kept]
          exact .abide (.refl server)
      | some task =>
          by_cases other : task = .revalidate
          · subst other
            exact Or.inl found
          · right
            simp only [Server.move, hand?, aside, found]
            exact turns_runTask _ launcher order other
  | receive generation events =>
      exact Or.inr (server.quiet_receive generation events).turns
  | disturb storage => exact Or.inr (.abide ⟨rfl, .of_eq rfl rfl rfl id⟩)

end Server

end ToolBridge
