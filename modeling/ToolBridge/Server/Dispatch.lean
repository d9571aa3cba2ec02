/-!
# Bounded dispatch

Items are worked on in their order, at most so many at once: whenever one has
ended, the next one is started.  An item that fails does not keep the others
from being worked on.
-/

namespace ToolBridge

/-- The items of a piece of work. -/
structure Dispatch (α : Type) where
  /-- Those not started, in order. -/
  pending : List α
  /-- Those started and not ended, in the order of their start. -/
  running : List α
  /-- All that were started, in order. -/
  started : List α
  /-- Those that ended with a failure, in the order of their end. -/
  failed : List α := []
  deriving DecidableEq, Repr

namespace Dispatch

variable {α : Type}

/-- How many items run at once: at least one. -/
def width (bound : Nat) : Nat := max bound 1

def start (bound : Nat) (items : List α) : Dispatch α :=
  { pending := items.drop (width bound)
    running := items.take (width bound)
    started := items.take (width bound) }

def advance (dispatch : Dispatch α) : Dispatch α × Option α :=
  match dispatch.pending with
  | [] => (dispatch, none)
  | next :: rest =>
      ({ dispatch with
          pending := rest
          running := dispatch.running ++ [next]
          started := dispatch.started ++ [next] },
        some next)

/-- A running item has ended, well or with a failure.  The answer is the item
that is started in its place. -/
def finish (dispatch : Dispatch α) (index : Nat) (failure : Bool) :
    Dispatch α × Option α :=
  match dispatch.running[index]? with
  | none => (dispatch, none)
  | some item =>
      { dispatch with
        running := dispatch.running.eraseIdx index
        failed :=
          if failure then dispatch.failed ++ [item] else dispatch.failed
        }.advance

def isDone (dispatch : Dispatch α) : Bool :=
  dispatch.pending.isEmpty && dispatch.running.isEmpty

end Dispatch

end ToolBridge
