import Mathlib.Data.List.Induction
import ToolBridge.Server.Basic

/-!
# The publisher as a map

A publisher stands for a map from documents and channels to sets of diagnostics,
and every edit of the publisher is an edit of the map.  An editor that keeps the
last delivery of each document, and a client that keeps the last message about
each URI, show what the map holds, however the edits follow each other.
-/

namespace ToolBridge

/-- What is held for each document on each channel. -/
abbrev Holdings := String → Channel → List Diagnostic

namespace Holdings

def nothing : Holdings := fun _ _ => []

/-- Put a set in the place of one entry. -/
def overwrite (holdings : Holdings) (id : String) (channel : Channel)
    (diagnostics : List Diagnostic) : Holdings :=
  fun other place =>
    if id = other ∧ channel = place then diagnostics else holdings other place

/-- Empty all entries of a document. -/
def discard (holdings : Holdings) (id : String) : Holdings :=
  fun other place => if id = other then [] else holdings other place

end Holdings

namespace Publisher

/-- The map that a publisher stands for.  A channel without a set counts as empty. -/
def holdings (publisher : Publisher) : Holdings :=
  fun id channel => (publisher.sets id).get channel

theorem held_eq (publisher : Publisher) (id : String) :
    publisher.held id = publisher.holdings id .check ++ publisher.holdings id .run :=
  publisher.held_eq_append id

theorem holdings_put (publisher : Publisher) (id : String) {sets : ChannelSets}
    {channel : Channel} {diagnostics : List Diagnostic}
    (changed : ∀ place, sets.get place =
      if channel = place then diagnostics else (publisher.sets id).get place) :
    (publisher.put id sets).1.holdings =
      publisher.holdings.overwrite id channel diagnostics := by
  funext other place
  unfold holdings Holdings.overwrite
  rw [sets_put]
  by_cases same : id = other
  · subst same
    rw [if_pos rfl, changed]
    by_cases here : channel = place <;> simp [here]
  · simp [same]

theorem holdings_replace (publisher : Publisher) (channel : Channel) (id : String)
    (diagnostics : List Diagnostic) :
    (publisher.replace channel id diagnostics).1.holdings =
      publisher.holdings.overwrite id channel diagnostics :=
  publisher.holdings_put id fun place =>
    ChannelSets.get_set _ channel place diagnostics

theorem holdings_clearChannel (publisher : Publisher) (channel : Channel)
    (id : String) :
    (publisher.clearChannel channel id).1.holdings =
      publisher.holdings.overwrite id channel [] :=
  publisher.holdings_put id fun place => ChannelSets.get_remove _ channel place

theorem holdings_clear (publisher : Publisher) (id : String) :
    (publisher.clear id).1.holdings = publisher.holdings.discard id := by
  funext other place
  unfold holdings Holdings.discard
  rw [sets_clear]
  by_cases same : id = other
  · rw [if_pos same, if_pos same]
    cases place <;> rfl
  · rw [if_neg same, if_neg same]

theorem delivery_put (publisher : Publisher) (id : String) (sets : ChannelSets) :
    (publisher.put id sets).2 = ⟨id, (publisher.put id sets).1.held id⟩ := by
  unfold held
  rw [sets_put, if_pos rfl]
  rfl

theorem delivery_clear (publisher : Publisher) (id : String) :
    (publisher.clear id).2 = ⟨id, (publisher.clear id).1.held id⟩ := by
  unfold held
  rw [sets_clear, if_pos rfl]
  rfl

/-- What is done with a publisher. -/
inductive Edit where
  | publish (channel : Channel) (document : Document)
      (location : Option Location) (message : String) (severity : Severity)
      (source : Pass)
  | replace (channel : Channel) (id : String) (diagnostics : List Diagnostic)
  /-- Replace a set, with the answer that the guard gives at that moment. -/
  | replaceIf (guard : Bool) (channel : Channel) (id : String)
      (diagnostics : List Diagnostic)
  | clearChannel (channel : Channel) (id : String)
  | clear (id : String)

namespace Edit

def id : Edit → String
  | publish _ document _ _ _ _ => document.id
  | replace _ id _ => id
  | replaceIf _ _ id _ => id
  | clearChannel _ id => id
  | clear id => id

/-- Only a guard can refuse an edit. -/
def isAccepted : Edit → Bool
  | replaceIf guard _ _ _ => guard
  | _ => true

/-- What the edit makes of the map. -/
def change (holdings : Holdings) : Edit → Holdings
  | publish channel document location message severity source =>
      holdings.overwrite document.id channel
        [Diagnostic.resolve document location message severity source channel]
  | replace channel id diagnostics => holdings.overwrite id channel diagnostics
  | replaceIf guard channel id diagnostics =>
      if guard then holdings.overwrite id channel diagnostics else holdings
  | clearChannel channel id => holdings.overwrite id channel []
  | clear id => holdings.discard id

/-- What the edit makes of the publisher, and what the editor is told. -/
def apply (publisher : Publisher) : Edit → Publisher × Option Delivery
  | publish channel document location message severity source =>
      let (publisher, delivery) :=
        publisher.publish channel document location message severity source
      (publisher, some delivery)
  | replace channel id diagnostics =>
      let (publisher, delivery) := publisher.replace channel id diagnostics
      (publisher, some delivery)
  | replaceIf guard channel id diagnostics =>
      publisher.replaceIf guard channel id diagnostics
  | clearChannel channel id =>
      let (publisher, delivery) := publisher.clearChannel channel id
      (publisher, some delivery)
  | clear id =>
      let (publisher, delivery) := publisher.clear id
      (publisher, some delivery)

/-! ## One edit -/

theorem apply_of_refused {edit : Edit} (refused : edit.isAccepted = false)
    (publisher : Publisher) : edit.apply publisher = (publisher, none) := by
  cases edit with
  | replaceIf guard channel id diagnostics =>
      cases refused
      rfl
  | _ => cases refused

theorem holdings_apply (publisher : Publisher) (edit : Edit) :
    (edit.apply publisher).1.holdings = edit.change publisher.holdings := by
  cases edit with
  | publish channel document location message severity source =>
      exact publisher.holdings_replace channel document.id _
  | replace channel id diagnostics =>
      exact publisher.holdings_replace channel id diagnostics
  | replaceIf guard channel id diagnostics =>
      cases guard with
      | false => rfl
      | true => exact publisher.holdings_replace channel id diagnostics
  | clearChannel channel id => exact publisher.holdings_clearChannel channel id
  | clear id => exact publisher.holdings_clear id

/-- An accepted edit is told once, with all that is held afterwards for its
document. -/
theorem delivery_apply {edit : Edit} (accepted : edit.isAccepted = true)
    (publisher : Publisher) :
    (edit.apply publisher).2 =
      some ⟨edit.id, (edit.apply publisher).1.held edit.id⟩ := by
  cases edit with
  | publish channel document location message severity source =>
      exact congrArg some (publisher.delivery_put document.id _)
  | replace channel id diagnostics =>
      exact congrArg some (publisher.delivery_put id _)
  | replaceIf guard channel id diagnostics =>
      cases accepted
      exact congrArg some (publisher.delivery_put id _)
  | clearChannel channel id => exact congrArg some (publisher.delivery_put id _)
  | clear id => exact congrArg some (publisher.delivery_clear id)

theorem change_of_ne (holdings : Holdings) {edit : Edit} {id : String}
    (other : edit.id ≠ id) : edit.change holdings id = holdings id := by
  funext place
  cases edit with
  | replaceIf guard channel document diagnostics =>
      cases guard with
      | false => rfl
      | true => exact if_neg fun both => other both.1
  | clear document => exact if_neg other
  | _ => exact if_neg fun both => other both.1

theorem holdings_apply_of_ne (publisher : Publisher) {edit : Edit} {id : String}
    (other : edit.id ≠ id) :
    (edit.apply publisher).1.holdings id = publisher.holdings id := by
  rw [holdings_apply, change_of_ne publisher.holdings other]

end Edit

/-! ## Sequences of edits -/

/-- A publisher and everything that was delivered. -/
structure Session where
  publisher : Publisher := {}
  deliveries : List Delivery := []

namespace Session

def advance (session : Session) (edit : Edit) : Session :=
  let (publisher, delivery) := edit.apply session.publisher
  ⟨publisher, session.deliveries ++ delivery.toList⟩

def after (edits : List Edit) : Session :=
  edits.foldl advance {}

/-- What an editor remembers that keeps the last delivery of each document. -/
def sink (session : Session) : DeliveryLog :=
  session.deliveries.foldl DeliveryLog.receive {}

/-- What is sent to a client. -/
def messages (session : Session) (related : Bool) : List Message :=
  session.deliveries.flatMap fun delivery =>
    Server.effectMessages related (.deliver delivery)

end Session

/-- A client that keeps the last diagnostics published for each URI. -/
def keep (known : Dict String Json) (message : Message) : Dict String Json :=
  if message.method = "textDocument/publishDiagnostics" then
    match message.params.field? "uri", message.params.field? "diagnostics" with
    | some (.string uri), some diagnostics => known.insert uri diagnostics
    | _, _ => known
  else known

/-- The form in which a client is told of the diagnostics of a document. -/
def editorForm (related : Bool) (id : String) (held : List Diagnostic) : Json :=
  .array (held.map (Diagnostic.toEditorJson (if related then some id else none)))

/-- Was an edit of the document accepted? -/
def touches (edits : List Edit) (id : String) : Bool :=
  edits.any fun edit => edit.isAccepted && edit.id == id

namespace Session

theorem after_append_singleton (edits : List Edit) (edit : Edit) :
    after (edits ++ [edit]) = (after edits).advance edit :=
  List.foldl_append

theorem advance_of_refused {edit : Edit} (refused : edit.isAccepted = false)
    (session : Session) : session.advance edit = session := by
  unfold advance
  rw [Edit.apply_of_refused refused]
  simp

theorem deliveries_advance {edit : Edit} (accepted : edit.isAccepted = true)
    (session : Session) :
    (session.advance edit).deliveries =
      session.deliveries ++
        [⟨edit.id, (session.advance edit).publisher.held edit.id⟩] := by
  unfold advance
  dsimp only
  rw [Edit.delivery_apply accepted]
  rfl

theorem held_advance_of_ne (session : Session) {edit : Edit} {id : String}
    (other : edit.id ≠ id) :
    (session.advance edit).publisher.held id = session.publisher.held id := by
  have same := Edit.holdings_apply_of_ne session.publisher other
  rw [held_eq, held_eq]
  exact congrArg (fun sets => sets Channel.check ++ sets Channel.run) same

theorem holdings_after (edits : List Edit) :
    (after edits).publisher.holdings =
      edits.foldl Edit.change Holdings.nothing := by
  induction edits using List.reverseRecOn with
  | nil =>
      funext id channel
      cases channel <;> rfl
  | append_singleton edits edit ih =>
      rw [after_append_singleton, List.foldl_append, ← ih]
      exact Edit.holdings_apply (after edits).publisher edit

theorem deliveries_after (edits : List Edit) :
    (after edits).deliveries.map Delivery.id =
      (edits.filter Edit.isAccepted).map Edit.id := by
  induction edits using List.reverseRecOn with
  | nil => rfl
  | append_singleton edits edit ih =>
      rw [after_append_singleton, List.filter_append, List.map_append, ← ih]
      cases accepted : edit.isAccepted with
      | false => simp [advance_of_refused accepted, accepted]
      | true => simp [deliveries_advance accepted, accepted]

/-! ## Readers of the deliveries -/

/-- Whoever keeps something of the last delivery of each document has it of
what the publisher holds now. -/
theorem get?_kept {α : Type} (form : String → List Diagnostic → α)
    (edits : List Edit) (id : String) :
    ((after edits).deliveries.foldl
        (fun kept delivery =>
          kept.insert delivery.id (form delivery.id delivery.diagnostics))
        Dict.empty).get? id =
      if touches edits id then some (form id ((after edits).publisher.held id))
      else none := by
  induction edits using List.reverseRecOn with
  | nil => rfl
  | append_singleton edits edit ih =>
      have touched : touches (edits ++ [edit]) id =
          (touches edits id || (edit.isAccepted && edit.id == id)) := by
        simp [touches]
      rw [after_append_singleton, touched]
      cases accepted : edit.isAccepted with
      | false =>
          rw [advance_of_refused accepted, Bool.false_and, Bool.or_false]
          exact ih
      | true =>
          -- The last delivery speaks for its own document and for no other.
          rw [deliveries_advance accepted, List.foldl_append]
          dsimp only [List.foldl]
          rw [Dict.get?_insert, ih]
          by_cases same : edit.id = id
          · simp [same]
          · simp [same, (after edits).held_advance_of_ne same]

theorem latest_sink (session : Session) :
    session.sink.latest =
      session.deliveries.foldl
        (fun kept delivery => kept.insert delivery.id delivery.diagnostics)
        Dict.empty := by
  have folded (deliveries : List Delivery) (log : DeliveryLog) :
      (deliveries.foldl DeliveryLog.receive log).latest =
        deliveries.foldl
          (fun kept delivery => kept.insert delivery.id delivery.diagnostics)
          log.latest := by
    induction deliveries generalizing log with
    | nil => rfl
    | cons delivery deliveries ih => exact ih (log.receive delivery)
  exact folded session.deliveries {}

theorem keep_message (known : Dict String Json) (related : Bool)
    (delivery : Delivery) :
    keep known (.diagnostics delivery.id related delivery.diagnostics) =
      known.insert delivery.id
        (editorForm related delivery.id delivery.diagnostics) := by
  simp [keep, Message.method, Message.params, Json.field?, Json.lookupField,
    editorForm]

theorem client_messages (session : Session) (related : Bool) :
    (session.messages related).foldl keep Dict.empty =
      session.deliveries.foldl
        (fun kept delivery =>
          kept.insert delivery.id
            (editorForm related delivery.id delivery.diagnostics))
        Dict.empty := by
  simp only [messages, List.foldl_flatMap, Server.effectMessages,
    List.foldl_cons, List.foldl_nil, keep_message]

end Session

/-- What a sequence of edits comes to. -/
structure Refines (related : Bool) (edits : List Edit) : Prop where
  /-- The publisher stands for the map that the edits make. -/
  holdings : ∀ id channel,
    ((Session.after edits).publisher.sets id).get channel =
      edits.foldl Edit.change Holdings.nothing id channel
  held : ∀ id, (Session.after edits).publisher.held id =
    edits.foldl Edit.change Holdings.nothing id .check ++
      edits.foldl Edit.change Holdings.nothing id .run
  sink : ∀ id, (Session.after edits).sink.latest.get? id =
    if touches edits id then some ((Session.after edits).publisher.held id)
    else none
  client : ∀ id,
    (((Session.after edits).messages related).foldl keep Dict.empty).get? id =
      if touches edits id then
        some (editorForm related id ((Session.after edits).publisher.held id))
      else none
  delivered : (Session.after edits).deliveries.map Delivery.id =
    (edits.filter Edit.isAccepted).map Edit.id
  accepted : ∀ edit : Edit, edit.isAccepted = true →
    ((Session.after edits).advance edit).deliveries =
      (Session.after edits).deliveries ++
        [⟨edit.id, ((Session.after edits).advance edit).publisher.held edit.id⟩]
  refused : ∀ edit : Edit, edit.isAccepted = false →
    (Session.after edits).advance edit = Session.after edits
  elsewhere : ∀ (edit : Edit) (id : String), edit.id ≠ id → ∀ channel,
    (((Session.after edits).advance edit).publisher.sets id).get channel =
      ((Session.after edits).publisher.sets id).get channel

/-- However a publisher is edited, it holds what the map of documents and channels
holds, and so do an editor and a client that keep the last that they were
told. -/
theorem refines_after (related : Bool) (edits : List Edit) :
    Refines related edits := by
  have holdings := Session.holdings_after edits
  constructor
  · intro id channel
    rw [← holdings]
    rfl
  · intro id
    rw [held_eq, holdings]
  · intro id
    rw [Session.latest_sink]
    exact Session.get?_kept (fun _ diagnostics => diagnostics) edits id
  · intro id
    rw [Session.client_messages]
    exact Session.get?_kept (editorForm related) edits id
  · exact Session.deliveries_after edits
  · intro edit accepted
    exact Session.deliveries_advance accepted _
  · intro edit refused
    exact Session.advance_of_refused refused _
  · intro edit id other channel
    have same := Edit.holdings_apply_of_ne (Session.after edits).publisher other
    exact congrFun same channel

end Publisher

end ToolBridge
