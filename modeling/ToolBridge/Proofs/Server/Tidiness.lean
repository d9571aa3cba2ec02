import ToolBridge.Proofs.Server.Launching
import ToolBridge.Proofs.Storage.Files

/-!
# Scratch files of closed documents

The server writes a scratch file when it launches a check and removes one when
a document is closed; nothing else that it does touches a file.  Where the
scratch file of a document is depends on the settings of the moment.  A close
removes the file under the settings in force then, and what was written for the
document under earlier settings stays where it is.
-/

namespace ToolBridge.Server

variable {σ : Type}

/-! ## The files and the calls of the editor -/

def closes? (server : Server σ) : Move σ → Option String
  | .call _ call =>
      if server.phase = .ready ∧ call.method = "textDocument/didClose" ∧
          call.isRequest = false then
        call.params.bind closedDocument?
      else none
  | _ => none

section

variable [Storage σ]

theorem move_of_closes {server : Server σ} {move : Move σ} {id : String}
    (closes : server.closes? move = some id) :
    server.move move = server.closeDocument id := by
  cases move with
  | call launcher call =>
      obtain ⟨method, params, isRequest⟩ := call
      simp only [closes?, Option.ite_none_right_eq_some] at closes
      obtain ⟨⟨ready, rfl, rfl⟩, found⟩ := closes
      obtain ⟨value, rfl, closed⟩ := Option.bind_eq_some_iff.mp found
      have known : expectsAnswer? "textDocument/didClose" = some false := by
        decide
      have allowed : phaseRefusal? .ready "textDocument/didClose" = none := by
        decide
      simp [Server.move, handle, ready, known, allowed, note, closed]
  | _ => cases closes

theorem storage_closeDocument (server : Server σ) (id : String) :
    (server.closeDocument id).1.bridge.storage =
      (Storage.remove server.bridge.storage
        (server.bridge.scratch.pathFor id)).1 := by
  have absorbed : (server.closeDocument id).1.bridge =
      (server.bridge.close id).1 := (proceeds_reactAll _ _).bridge
  rw [absorbed]
  rfl

theorem documents_closeDocument (server : Server σ) (id : String) :
    (server.closeDocument id).1.documents.get? id = none := by
  let erased : Server σ :=
    { server with
      documents := server.documents.erase id
      bridge := (server.bridge.close id).1 }
  have reacted : Quiet [] erased (server.closeDocument id) :=
    erased.quiet_reactAll (server.bridge.close id).2.2
  have documents : (server.closeDocument id).1.documents =
      server.documents.erase id := congrArg Desk.documents reacted.abides.desk
  rw [documents]
  exact Dict.get?_erase_self _ _

omit [Storage σ] in
theorem storage_introduce (server : Server σ) (params : Json) :
    (server.introduce params).1.bridge.storage = server.bridge.storage := by
  unfold introduce
  rcases initializeParams? params with _ | ⟨related, _ | options⟩
  · rfl
  · rfl
  · dsimp only
    rcases readSettings server.machine options with ⟨_ | settings, reactions⟩
    · rfl
    · rfl

omit [Storage σ] in
theorem storage_startRun (server : Server σ) (launcher : Launcher σ)
    (document : Document) (path : String) :
    (server.startRun launcher document path).1.bridge.storage =
      server.bridge.storage := by
  unfold startRun
  have kept := server.bridge.storage_start launcher document path server.config
  rcases started : server.bridge.start launcher document path server.config with
    ⟨bridge, answer, effects⟩
  rw [started] at kept
  have absorbed : (server.absorb bridge effects).1.bridge.storage =
      server.bridge.storage :=
    (congrArg Bridge.storage (proceeds_reactAll _ effects).bridge).trans kept
  rcases answer with failure | generation
  · cases failure <;> exact absorbed
  · exact absorbed

theorem storage_runFile (server : Server σ) (launcher : Launcher σ)
    (arguments : List Json) :
    (server.runFile launcher arguments).1.bridge.storage =
      server.bridge.storage := by
  unfold runFile
  rcases pathToRun? server.config arguments with _ | ⟨uri, path⟩
  · rfl
  · dsimp only
    cases server.documentToRun uri path with
    | error cause => rfl
    | ok document => exact server.storage_startRun launcher document path

omit [Storage σ] in
theorem storage_stopRun (server : Server σ) :
    server.stopRun.1.bridge.storage = server.bridge.storage := by
  have absorbed : server.stopRun.1.bridge = server.bridge.stop.1 :=
    (proceeds_reactAll _ _).bridge
  rw [absorbed, Bridge.stop_eq]

omit [Storage σ] in
theorem storage_shutdown (server : Server σ) :
    server.shutdown.1.bridge.storage = server.bridge.storage := by
  have absorbed : server.shutdown.1.bridge = server.bridge.killAll.1 :=
    (proceeds_reactAll _ _).bridge
  rw [absorbed]
  rfl

omit [Storage σ] in
theorem storage_changeSettings (server : Server σ) (value : Json) :
    (server.changeSettings value).1.bridge.storage = server.bridge.storage := by
  unfold changeSettings
  rcases readSettings server.machine value with ⟨_ | settings, reactions⟩
  · rfl
  · dsimp only
    split
    · rfl
    · rfl

theorem Handles.storage {server : Server σ} {launcher : Launcher σ} {call : Call}
    {done : Server σ × List Reaction} (handles : Handles server launcher call done)
    (open? : server.closes? (.call launcher call) = none) :
    done.1.bridge.storage = server.bridge.storage := by
  cases handles with
  | stay => rfl
  | introduce => exact server.storage_introduce _
  | shutdown => exact server.storage_shutdown
  | run arguments => exact server.storage_runFile launcher arguments
  | stop => exact server.storage_stopRun
  | store => rfl
  | close ready named tells given read =>
      simp [closes?, ready, named, tells, given, read] at open?
  | configure => exact server.storage_changeSettings _

theorem storage_handle {server : Server σ} {launcher : Launcher σ} {call : Call}
    (open? : server.closes? (.call launcher call) = none) :
    (server.handle launcher call).1.bridge.storage = server.bridge.storage :=
  (server.handles_handle launcher call).storage open?

/-- The files after a move: a check that is started writes its snapshot, and a
close removes the scratch file. -/
def filed (server : Server σ) (move : Move σ) : σ :=
  match server.taken? move, server.closes? move, move with
  | some (snapshot, _), _, _ =>
      (Storage.write server.bridge.storage
        (server.bridge.scratch.pathFor snapshot.id) snapshot.document.text).1
  | none, some id, _ =>
      (Storage.remove server.bridge.storage
        (server.bridge.scratch.pathFor id)).1
  | none, none, .disturb storage => storage
  | none, none, _ => server.bridge.storage

theorem storage_move (server : Server σ) (move : Move σ) :
    (server.move move).1.bridge.storage = server.filed move := by
  cases move with
  | call launcher call =>
      have untaken : server.taken? (.call launcher call) = none := rfl
      cases closes : server.closes? (.call launcher call) with
      | none =>
          simp only [filed, untaken, closes]
          exact storage_handle closes
      | some id =>
          simp only [filed, untaken, closes]
          rw [move_of_closes closes]
          exact server.storage_closeDocument id
  | work launcher index order =>
      cases taken : server.taken? (.work launcher index order) with
      | none =>
          simp only [filed, taken, closes?]
          rw [(work_of_untaken taken).1.bridge]
      | some check =>
          obtain ⟨asked, request, same, readies, proceeds, _⟩ :=
            work_of_taken taken
          simp only [filed, taken]
          rw [proceeds.bridge, Bridge.storage_launch, if_pos readies.current,
            readies.storage, readies.scratch, ← same]
          rfl
  | receive generation events =>
      have absorbed := (server.proceeds_receive generation events).bridge
      exact (congrArg Bridge.storage absorbed).trans
        (server.bridge.storage_receiveAll generation events)
  | disturb storage => rfl

end

/-! ## Who wrote a file -/

open ToolBridge.Text

/-- What the server last did to a place. -/
inductive Mark where
  | untouched
  /-- A scratch file was written for a document. -/
  | written (id : String) (target : Scratch) (content : List UInt8)
  | removed
  deriving DecidableEq, Repr

namespace Mark

/-- The file at a place, if one was there at first. -/
def file? (first : Option (List UInt8)) : Mark → Option (List UInt8)
  | untouched => first
  | written _ _ content => some content
  | removed => none

end Mark

abbrev Marks := List EntryName → Mark

/-- Mark a place, if there is one. -/
def Marks.put (marks : Marks) (place : Option (List EntryName)) (mark : Mark) :
    Marks :=
  fun other => if place = some other then mark else marks other

/-- The place of the scratch file of a document. -/
def scratchPlace? (server : Server FileTree) (id : String) :
    Option (List EntryName) :=
  server.bridge.storage.place? (server.bridge.scratch.pathFor id).toList

def marking (server : Server FileTree) (marks : Marks) (move : Move FileTree) :
    Marks :=
  match server.taken? move, server.closes? move with
  | some (snapshot, _), _ =>
      let target := server.bridge.scratch
      let path := (target.pathFor snapshot.id).toList
      let content := utf8Encode snapshot.document.text.toList
      match server.bridge.storage.write path content with
      | (tree, .ok _) =>
          marks.put (tree.place? path) (.written snapshot.id target content)
      | (_, .error _) => marks
  | none, some id => marks.put (server.scratchPlace? id) .removed
  | none, none => marks

def mark (marked : Server FileTree × Marks) (move : Move FileTree) :
    Server FileTree × Marks :=
  ((marked.1.move move).1, marked.1.marking marked.2 move)

/-- A sequence of moves, with the marks. -/
def markedJourney (tree : FileTree) (machine : Machine)
    (moves : List (Move FileTree)) : Server FileTree × Marks :=
  moves.foldl mark (initial tree machine, fun _ => .untouched)

def marksAfter (tree : FileTree) (machine : Machine)
    (moves : List (Move FileTree)) : Marks :=
  (markedJourney tree machine moves).2

theorem markedJourney_append_singleton (tree : FileTree) (machine : Machine)
    (moves : List (Move FileTree)) (move : Move FileTree) :
    markedJourney tree machine (moves ++ [move]) =
      mark (markedJourney tree machine moves) move := by
  rw [markedJourney, List.foldl_concat, ← markedJourney]

theorem markedJourney_fst (tree : FileTree) (machine : Machine)
    (moves : List (Move FileTree)) :
    (markedJourney tree machine moves).1 = after tree machine moves := by
  induction moves using List.reverseRecOn with
  | nil => rfl
  | append_singleton moves move ih =>
      rw [after_append_singleton, markedJourney_append_singleton, mark, ih]

theorem marksAfter_append_singleton (tree : FileTree) (machine : Machine)
    (moves : List (Move FileTree)) (move : Move FileTree) :
    marksAfter tree machine (moves ++ [move]) =
      (after tree machine moves).marking
        (marksAfter tree machine moves) move := by
  rw [marksAfter, markedJourney_append_singleton, mark, markedJourney_fst,
    ← marksAfter]

/-! ## What a move does to the files -/

/-- Everything that the server can do to the files, and the marks that it
leaves. -/
inductive Files (server : Server FileTree) (marks : Marks)
    (move : Move FileTree) : FileTree → Marks → Prop where
  | spared : Files server marks move server.bridge.storage marks
  | refused (path : List Char) (content : List UInt8) (cause : OsError)
      (refused : (server.bridge.storage.write path content).2 = .error cause) :
      Files server marks move (server.bridge.storage.write path content).1 marks
  | wrote (snapshot : Snapshot) (config : Config) (path : List Char)
      (content : List UInt8)
      (taken : server.taken? move = some (snapshot, config))
      (named : path = (server.bridge.scratch.pathFor snapshot.id).toList)
      (accepted : (server.bridge.storage.write path content).2 = .ok ()) :
      Files server marks move (server.bridge.storage.write path content).1
        (marks.put ((server.bridge.storage.write path content).1.place? path)
          (.written snapshot.id server.bridge.scratch content))
  | removed (id : String) :
      Files server marks move
        (server.bridge.storage.remove
          (server.bridge.scratch.pathFor id).toList).1
        (marks.put (server.scratchPlace? id) .removed)

theorem files_move (server : Server FileTree) (marks : Marks)
    {move : Move FileTree} (own : ∀ tree, move ≠ .disturb tree) :
    Files server marks move (server.move move).1.bridge.storage
      (server.marking marks move) := by
  rw [storage_move]
  unfold filed marking
  cases taken : server.taken? move with
  | some check =>
      obtain ⟨snapshot, config⟩ := check
      dsimp only
      have wrote : Storage.write server.bridge.storage
          (server.bridge.scratch.pathFor snapshot.id) snapshot.document.text =
            server.bridge.storage.write
              (server.bridge.scratch.pathFor snapshot.id).toList
              (utf8Encode snapshot.document.text.toList) := rfl
      rw [wrote]
      have accepts := @Files.wrote server marks move snapshot config _
        (utf8Encode snapshot.document.text.toList) taken rfl
      have refuses := @Files.refused server marks move
        (server.bridge.scratch.pathFor snapshot.id).toList
        (utf8Encode snapshot.document.text.toList)
      rcases written : server.bridge.storage.write
        (server.bridge.scratch.pathFor snapshot.id).toList
        (utf8Encode snapshot.document.text.toList) with ⟨tree, cause | _⟩
      · rw [written] at refuses
        exact refuses cause rfl
      · rw [written] at accepts
        exact accepts rfl
  | none =>
      cases closes : server.closes? move with
      | some id => exact .removed id
      | none =>
          cases move with
          | disturb tree => exact absurd rfl (own tree)
          | _ => exact .spared

namespace Files

variable {server : Server FileTree} {before marks : Marks}
  {move : Move FileTree} {tree : FileTree}

theorem keeps (files : Files server before move tree marks) :
    ∃ names, FileTree.Keeps names server.bridge.storage tree := by
  cases files with
  | spared => exact ⟨fun _ => False, .refl _ _⟩
  | refused path content => exact ⟨_, FileTree.keeps_write _ path content⟩
  | wrote snapshot config path content =>
      exact ⟨_, FileTree.keeps_write _ path content⟩
  | removed id => exact ⟨_, FileTree.keeps_remove _ _⟩

theorem fileAt (files : Files server before move tree marks)
    {first : FileTree}
    (known : ∀ place, server.bridge.storage.fileAt place =
      (before place).file? (first.fileAt place)) (place : List EntryName) :
    tree.fileAt place = (marks place).file? (first.fileAt place) := by
  cases files with
  | spared => exact known place
  | refused path content cause refused =>
      rw [FileTree.fileAt_write_of_error refused]
      exact known place
  | wrote snapshot config path content taken named accepted =>
      obtain ⟨spot, leads, written⟩ := FileTree.fileAt_write_of_ok accepted
      rw [written, leads, Marks.put]
      by_cases same : spot = place
      · simp [same, Mark.file?]
      · simp [same, known]
  | removed id =>
      rw [FileTree.fileAt_remove, Marks.put, scratchPlace?]
      split
      · rfl
      · exact known place

/-- A file that was written for a document is where the scratch file of the
document is, under the settings of the moment at which it was written. -/
theorem placed (files : Files server before move tree marks)
    (known : ∀ {place id target content},
      before place = .written id target content →
        server.bridge.storage.place? (target.pathFor id).toList = some place)
    {place : List EntryName} {id : String} {target : Scratch}
    {content : List UInt8} (mark : marks place = .written id target content) :
    tree.place? (target.pathFor id).toList = some place := by
  obtain ⟨names, keeps⟩ := files.keeps
  cases files with
  | spared => exact keeps.place? (known mark)
  | refused path content cause refused => exact keeps.place? (known mark)
  | wrote snapshot config path content taken named accepted =>
      unfold Marks.put at mark
      split at mark
      · rename_i leads
        cases mark
        exact named ▸ leads
      · exact keeps.place? (known mark)
  | removed other =>
      unfold Marks.put at mark
      split at mark
      · cases mark
      · exact keeps.place? (known mark)

/-- A file that was written for a document in a move is one of a document that
is checked then. -/
theorem written (files : Files server before move tree marks)
    {place : List EntryName} {id : String} {target : Scratch}
    {content : List UInt8} (mark : marks place = .written id target content) :
    before place = .written id target content ∨
      ∃ snapshot config, server.taken? move = some (snapshot, config) ∧
        snapshot.id = id := by
  cases files with
  | spared => exact Or.inl mark
  | refused => exact Or.inl mark
  | wrote snapshot config path content taken =>
      unfold Marks.put at mark
      split at mark
      · cases mark
        exact Or.inr ⟨snapshot, config, taken, rfl⟩
      · exact Or.inl mark
  | removed other =>
      unfold Marks.put at mark
      split at mark
      · cases mark
      · exact Or.inl mark

end Files

theorem marking_of_closes {server : Server FileTree} {move : Move FileTree}
    {id : String} (closes : server.closes? move = some id) (marks : Marks) :
    server.marking marks move = marks.put (server.scratchPlace? id) .removed := by
  cases move with
  | call launcher call =>
      have untaken : server.taken? (.call launcher call) = none := rfl
      simp only [marking, untaken, closes]
  | _ => cases closes

/-! ## Journeys -/

/-- Nobody but the server touches the files. -/
def Undisturbed (moves : List (Move FileTree)) : Prop :=
  ∀ tree, .disturb tree ∉ moves

theorem Undisturbed.append_left {first second : List (Move FileTree)}
    (undisturbed : Undisturbed (first ++ second)) : Undisturbed first :=
  fun tree member => undisturbed tree (List.mem_append_left _ member)

section

variable {tree : FileTree} {machine : Machine}

theorem files_append_singleton {moves : List (Move FileTree)}
    {move : Move FileTree} (undisturbed : Undisturbed (moves ++ [move])) :
    Files (after tree machine moves) (marksAfter tree machine moves) move
      (after tree machine (moves ++ [move])).bridge.storage
      (marksAfter tree machine (moves ++ [move])) := by
  rw [after_append_singleton, marksAfter_append_singleton]
  apply files_move
  rintro other rfl
  exact undisturbed other (by simp)

theorem fileAt_after {moves : List (Move FileTree)}
    (undisturbed : Undisturbed moves) (place : List EntryName) :
    (after tree machine moves).bridge.storage.fileAt place =
      (marksAfter tree machine moves place).file? (tree.fileAt place) := by
  induction moves using List.reverseRecOn generalizing place with
  | nil => rfl
  | append_singleton moves move ih =>
      exact (files_append_singleton undisturbed).fileAt
        (ih undisturbed.append_left) place

theorem place?_of_written {moves : List (Move FileTree)}
    (undisturbed : Undisturbed moves) {place : List EntryName} {id : String}
    {target : Scratch} {content : List UInt8}
    (mark : marksAfter tree machine moves place =
      .written id target content) :
    (after tree machine moves).bridge.storage.place?
      (target.pathFor id).toList = some place := by
  induction moves using List.reverseRecOn generalizing place id target content with
  | nil => cases mark
  | append_singleton moves move ih =>
      exact (files_append_singleton undisturbed).placed
        (fun known => ih undisturbed.append_left known) mark

/-- After a close, what was written for the document is elsewhere. -/
theorem elsewhere_of_closes {moves : List (Move FileTree)}
    {closing : Move FileTree} {id : String} (undisturbed : Undisturbed moves)
    (closes : (after tree machine moves).closes? closing = some id)
    {place : List EntryName} {target : Scratch} {content : List UInt8}
    (mark : marksAfter tree machine (moves ++ [closing]) place =
      .written id target content) :
    target ≠ (after tree machine moves).bridge.scratch ∧
      (after tree machine moves).scratchPlace? id ≠ some place := by
  rw [marksAfter_append_singleton, marking_of_closes closes, Marks.put] at mark
  split at mark
  · cases mark
  · rename_i elsewhere
    refine ⟨?_, elsewhere⟩
    rintro rfl
    exact elsewhere (place?_of_written undisturbed mark)

/-- Nothing is written for a document while it is not open. -/
theorem marksAfter_of_closed {first later : List (Move FileTree)} {id : String}
    (undisturbed : Undisturbed (first ++ later))
    (closed : ∀ middle, middle <+: later →
      (after tree machine (first ++ middle)).documents.get? id = none)
    {place : List EntryName} {target : Scratch} {content : List UInt8}
    (mark : marksAfter tree machine (first ++ later) place =
      .written id target content) :
    marksAfter tree machine first place = .written id target content := by
  induction later using List.reverseRecOn with
  | nil => exact List.append_nil first ▸ mark
  | append_singleton later move ih =>
      rw [← List.append_assoc] at undisturbed mark
      rcases (files_append_singleton undisturbed).written mark with
        known | ⟨snapshot, config, taken, rfl⟩
      · apply ih undisturbed.append_left
        · intro middle within
          exact closed middle (within.trans (List.prefix_append _ _))
        · exact known
      · have stored := stored_of_taken taken
        rw [closed later (List.prefix_append _ _)] at stored
        cases stored

end

/-- The files of a server, after moves that nobody disturbed. -/
structure ScratchFilesTraced (tree : FileTree) (machine : Machine)
    (moves : List (Move FileTree)) : Prop where
  /-- The marks say what is at every place. -/
  files : ∀ place, (after tree machine moves).bridge.storage.fileAt place =
    (marksAfter tree machine moves place).file? (tree.fileAt place)
  /-- What was written for a document is where its scratch file belongs, under
  the settings of that moment. -/
  placed : ∀ {place id target content},
    marksAfter tree machine moves place = .written id target content →
      (after tree machine moves).bridge.storage.place?
        (target.pathFor id).toList = some place
  /-- With a close, the scratch file of the document is gone. -/
  closed : ∀ {before closing id}, moves = before ++ [closing] →
    (after tree machine before).closes? closing = some id →
      (after tree machine moves).documents.get? id = none ∧
        (after tree machine moves).bridge.storage.isFile
          ((after tree machine before).bridge.scratch.pathFor id).toList =
            false
  /-- As long as the document is not opened again, no file is left that was
  written for it under the settings in force at the close. -/
  gone : ∀ {before closing later id}, moves = before ++ [closing] ++ later →
    (after tree machine before).closes? closing = some id →
    (∀ middle, middle <+: later → (after tree machine
      (before ++ [closing] ++ middle)).documents.get? id = none) →
    ∀ {place target content},
      marksAfter tree machine moves place = .written id target content →
        target ≠ (after tree machine before).bridge.scratch ∧
          (after tree machine before).scratchPlace? id ≠ some place

theorem scratchFilesTraced_after (tree : FileTree) (machine : Machine)
    (moves : List (Move FileTree)) (undisturbed : Undisturbed moves) :
    ScratchFilesTraced tree machine moves where
  files := fileAt_after undisturbed
  placed := place?_of_written undisturbed
  closed {before closing id} same closes := by
    subst same
    rw [after_append_singleton, move_of_closes closes]
    refine ⟨documents_closeDocument _ id, ?_⟩
    rw [storage_closeDocument]
    exact FileTree.isFile_remove _ _
  gone {before closing later id} same closes shut place target content mark := by
    subst same
    have known := marksAfter_of_closed undisturbed shut mark
    exact elsewhere_of_closes undisturbed.append_left.append_left closes known

/-- A document is checked in one directory and, after a change of the settings,
in another one. -/
def movedDesk : List (Move FileTree) :=
  [.call FileTree.admits .greeting,
    .call FileTree.admits (.opening "file:///hw/model.frg" "x"),
    .work FileTree.admits 0 .asOpened,
    .call FileTree.admits (.retargeting "s"),
    .work FileTree.admits 0 .asOpened,
    .work FileTree.admits 0 .asOpened]

def modelClosing : Move FileTree :=
  .call FileTree.admits (.closing "file:///hw/model.frg")

theorem scratchFilesTraced_movedDesk :
    Undisturbed (movedDesk ++ [modelClosing]) ∧
      ScratchFilesTraced {} plainMachine (movedDesk ++ [modelClosing]) :=
  have undisturbed : Undisturbed (movedDesk ++ [modelClosing]) := by
    simp [Undisturbed, movedDesk, modelClosing]
  ⟨undisturbed, scratchFilesTraced_after {} plainMachine _ undisturbed⟩

/-- The file that was written in the first directory is still there when the
document is closed. -/
theorem strayed_movedDesk :
    let first := (initial ({} : FileTree) plainMachine).bridge.scratch
    let closed := after {} plainMachine (movedDesk ++ [modelClosing])
    (after {} plainMachine movedDesk).closes? modelClosing =
        some "file:///hw/model.frg" ∧
      closed.documents.get? "file:///hw/model.frg" = none ∧
      closed.bridge.storage.isFile
        (first.pathFor "file:///hw/model.frg").toList = true := by
  decide +kernel

end ToolBridge.Server
