import ToolBridge.Diagnostic
import ToolBridge.Dict

/-!
# The publisher of diagnostics

For each document the publisher holds one set of diagnostics a channel.  What is
put on a channel replaces what was there, and the editor is always handed the
sets of both channels together.
-/

namespace ToolBridge

/-- The sets of one document.  A channel on which nothing was put since it was
cleared has no set, which is not the same as an empty one. -/
structure ChannelSets where
  check? : Option (List Diagnostic) := none
  run? : Option (List Diagnostic) := none
  deriving DecidableEq, Repr

namespace ChannelSets

def get? (sets : ChannelSets) : Channel → Option (List Diagnostic)
  | .check => sets.check?
  | .run => sets.run?

def set (sets : ChannelSets) (channel : Channel) (diagnostics : List Diagnostic) :
    ChannelSets :=
  match channel with
  | .check => { sets with check? := some diagnostics }
  | .run => { sets with run? := some diagnostics }

def remove (sets : ChannelSets) : Channel → ChannelSets
  | .check => { sets with check? := none }
  | .run => { sets with run? := none }

def get (sets : ChannelSets) (channel : Channel) : List Diagnostic :=
  (sets.get? channel).getD []

def check (sets : ChannelSets) : List Diagnostic := sets.get .check

def run (sets : ChannelSets) : List Diagnostic := sets.get .run

/-- All sets one after the other, in the order of the channels. -/
def union (sets : ChannelSets) : List Diagnostic :=
  (sets.check?.toList ++ sets.run?.toList).flatten

@[simp] theorem run_empty : ({} : ChannelSets).run = [] := rfl

theorem union_eq (sets : ChannelSets) : sets.union = sets.check ++ sets.run := by
  obtain ⟨check?, run?⟩ := sets
  cases check? <;> cases run? <;> simp [union, check, run, get, get?]

theorem get_set (sets : ChannelSets) (channel other : Channel)
    (diagnostics : List Diagnostic) :
    (sets.set channel diagnostics).get other =
      if channel = other then diagnostics else sets.get other := by
  cases channel <;> cases other <;> rfl

theorem get_remove (sets : ChannelSets) (channel other : Channel) :
    (sets.remove channel).get other =
      if channel = other then [] else sets.get other := by
  cases channel <;> cases other <;> rfl

end ChannelSets

/-- A message to the editor: all diagnostics of one document. -/
structure Delivery where
  id : String
  diagnostics : List Diagnostic
  deriving DecidableEq, Repr

/-- The diagnostics of all documents. -/
structure Publisher where
  documents : Dict String ChannelSets := {}
  deriving DecidableEq, Repr

namespace Publisher

def empty : Publisher := {}

def sets (publisher : Publisher) (id : String) : ChannelSets :=
  (publisher.documents.get? id).getD {}

def held (publisher : Publisher) (id : String) : List Diagnostic :=
  (publisher.sets id).union

/-- Keep the sets of a document, and hand all of them to the editor. -/
def put (publisher : Publisher) (id : String) (sets : ChannelSets) :
    Publisher × Delivery :=
  (⟨publisher.documents.insert id sets⟩, ⟨id, sets.union⟩)

def replace (publisher : Publisher) (channel : Channel) (id : String)
    (diagnostics : List Diagnostic) : Publisher × Delivery :=
  publisher.put id ((publisher.sets id).set channel diagnostics)

/-- Replace the set of one channel, if the guard allows it. -/
def replaceIf (publisher : Publisher) (guard : Bool) (channel : Channel) (id : String)
    (diagnostics : List Diagnostic) : Publisher × Option Delivery :=
  if guard then
    let (publisher, delivery) := publisher.replace channel id diagnostics
    (publisher, some delivery)
  else (publisher, none)

/-- Put one diagnostic, resolved against a snapshot, in place of the set of its
channel. -/
def publish (publisher : Publisher) (channel : Channel) (document : Document)
    (location : Option Location) (message : String) (severity : Severity)
    (source : Pass) : Publisher × Delivery :=
  publisher.replace channel document.id
    [Diagnostic.resolve document location message severity source channel]

/-- Empty one channel of a document and keep the other. -/
def clearChannel (publisher : Publisher) (channel : Channel) (id : String) :
    Publisher × Delivery :=
  publisher.put id ((publisher.sets id).remove channel)

def clear (publisher : Publisher) (id : String) : Publisher × Delivery :=
  (⟨publisher.documents.erase id⟩, ⟨id, []⟩)

theorem held_eq_append (publisher : Publisher) (id : String) :
    publisher.held id = (publisher.sets id).check ++ (publisher.sets id).run :=
  (publisher.sets id).union_eq

theorem sets_put (publisher : Publisher) (id other : String) (sets : ChannelSets) :
    (publisher.put id sets).1.sets other =
      if id = other then sets else publisher.sets other := by
  unfold Publisher.sets put
  rw [Dict.get?_insert]
  split
  · rfl
  · rfl

theorem sets_replace (publisher : Publisher) (channel : Channel) (id other : String)
    (diagnostics : List Diagnostic) :
    (publisher.replace channel id diagnostics).1.sets other =
      if id = other then (publisher.sets id).set channel diagnostics
      else publisher.sets other :=
  publisher.sets_put id other _

theorem sets_clear (publisher : Publisher) (id other : String) :
    (publisher.clear id).1.sets other =
      if id = other then {} else publisher.sets other := by
  unfold sets clear
  rw [Dict.get?_erase]
  split
  · rfl
  · rfl

end Publisher

/-- What an editor remembers of the deliveries: the last set of each document,
and the size of every delivery. -/
structure DeliveryLog where
  latest : Dict String (List Diagnostic) := {}
  history : List (String × Nat) := []
  deriving DecidableEq, Repr

namespace DeliveryLog

def receive (log : DeliveryLog) (delivery : Delivery) : DeliveryLog :=
  { latest := log.latest.insert delivery.id delivery.diagnostics
    history := log.history ++ [(delivery.id, delivery.diagnostics.length)] }

/-- The last set of a document. -/
def shown (log : DeliveryLog) (id : String) : List Diagnostic :=
  (log.latest.get? id).getD []

theorem shown_receive (log : DeliveryLog) (delivery : Delivery)
    (id : String) :
    (log.receive delivery).shown id =
      if delivery.id = id then delivery.diagnostics else log.shown id := by
  unfold shown receive
  rw [Dict.get?_insert]
  split
  · rfl
  · rfl

end DeliveryLog

end ToolBridge
