import ToolBridge.Dict

/-!
# The sequencer

Every check of a document is asked for under a ticket of the sequencer.
Tickets are numbered through all documents and never used twice.  The newest
ticket of a document is current until the document is forgotten.
-/

namespace ToolBridge

/-- The number of the last ticket, and the newest ticket of each document. -/
structure Sequencer where
  issued : Nat := 0
  latest : Dict String Nat := {}
  deriving DecidableEq, Repr

namespace Sequencer

def empty : Sequencer := {}

/-- Issue a ticket for a document.  Its earlier tickets become stale. -/
def issue (sequencer : Sequencer) (id : String) : Sequencer × Nat :=
  let ticket := sequencer.issued + 1
  (⟨ticket, sequencer.latest.insert id ticket⟩, ticket)

/-- Make all tickets of a document stale. -/
def forget (sequencer : Sequencer) (id : String) : Sequencer :=
  { sequencer with latest := sequencer.latest.erase id }

def isCurrent (sequencer : Sequencer) (id : String) (ticket : Nat) : Bool :=
  sequencer.latest.get? id == some ticket

theorem isCurrent_iff {sequencer : Sequencer} {id : String} {ticket : Nat} :
    sequencer.isCurrent id ticket = true ↔ sequencer.latest.get? id = some ticket :=
  beq_iff_eq

end Sequencer

end ToolBridge
