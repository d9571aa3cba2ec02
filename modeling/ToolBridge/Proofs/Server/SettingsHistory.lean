import ToolBridge.Proofs.Server.Launching
import ToolBridge.Proofs.Settings.Merging

/-!
# The history of the settings

The editor sends settings with its first request and with every change, and
some of what it sends cannot be read.  Whatever else happens to the server, its
configuration is what is left of all the payloads, and the place for scratch
files follows the configuration.
-/

namespace ToolBridge

open ToolBridge.Text

namespace Server

variable {σ : Type}

/-! ## What leaves the configuration alone -/

/-- The settings that a move brings from the editor. -/
def payload? (server : Server σ) : Move σ → Option Json
  | .call _ call =>
      if server.phase = .fresh ∧ call.method = "initialize" ∧
          call.isRequest = true then
        (call.params.bind initializeParams?).bind Prod.snd
      else if server.phase = .ready ∧
          call.method = "workspace/didChangeConfiguration" ∧
          call.isRequest = false then
        call.params.bind changedSettings?
      else none
  | _ => none

variable [Storage σ]

variable {server : Server σ} {launcher : Launcher σ} {call : Call}

/-- The configuration and the place for scratch files are as they were. -/
structure Spares (server next : Server σ) : Prop where
  config : next.config = server.config
  scratch : next.bridge.scratch = server.bridge.scratch

namespace Spares

omit [Storage σ] in
theorem refl (server : Server σ) : Spares server server :=
  ⟨rfl, rfl⟩

omit [Storage σ] in
theorem trans {first second third : Server σ} (earlier : Spares first second)
    (later : Spares second third) : Spares first third :=
  ⟨later.config.trans earlier.config, later.scratch.trans earlier.scratch⟩

end Spares

omit [Storage σ] in
theorem spares_absorb (server : Server σ) {bridge : Bridge σ}
    (same : bridge.scratch = server.bridge.scratch) (effects : List Effect) :
    Spares server (server.absorb bridge effects).1 := by
  have reacted : Quiet [] { server with bridge } (server.absorb bridge effects) :=
    quiet_reactAll _ effects
  have proceeds : Proceeds { server with bridge } (server.absorb bridge effects).1 :=
    proceeds_reactAll _ effects
  exact ⟨congrArg Desk.config reacted.abides.desk,
    (congrArg Bridge.scratch proceeds.bridge).trans same⟩

omit [Storage σ] in
theorem spares_startRun (server : Server σ) (launcher : Launcher σ)
    (document : Document) (path : String) :
    Spares server (server.startRun launcher document path).1 := by
  unfold startRun
  have kept := server.bridge.scratch_start launcher document path server.config
  rcases started : server.bridge.start launcher document path server.config with
    ⟨bridge, answer, effects⟩
  rw [started] at kept
  have absorbed := server.spares_absorb kept effects
  rcases answer with failure | generation
  · cases failure <;> exact absorbed
  · exact absorbed

theorem spares_runFile (server : Server σ) (launcher : Launcher σ)
    (arguments : List Json) :
    Spares server (server.runFile launcher arguments).1 := by
  unfold runFile
  rcases pathToRun? server.config arguments with _ | ⟨uri, path⟩
  · exact .refl server
  · dsimp only
    cases server.documentToRun uri path with
    | error cause => exact .refl server
    | ok document => exact server.spares_startRun launcher document path

theorem spares_launchCheck (server : Server σ) (launcher : Launcher σ)
    (request : CheckRequest) (config : Config) (owner : Option (Nat × Snapshot)) :
    Spares server (server.launchCheck launcher request config owner).1 := by
  have quiet := server.quiet_launchCheck launcher request config owner
  have proceeds := server.proceeds_launchCheck launcher request config owner
  exact ⟨congrArg Desk.config quiet.abides.desk,
    (congrArg Bridge.scratch proceeds.bridge).trans
      (server.bridge.scratch_launch launcher request config)⟩

theorem spares_runTask (server : Server σ) (launcher : Launcher σ)
    (order : Arrangement) (task : Task) :
    Spares server (server.runTask launcher order task).1 := by
  cases task with
  | check request config =>
      exact server.spares_launchCheck launcher request config none
  | revalidate =>
      simp only [runTask, startBatch_eq]
      exact ⟨rfl, rfl⟩
  | item number snapshot =>
      simp only [runTask, runItem]
      split
      · have asked : Spares server (server.ask snapshot).1 := ⟨rfl, rfl⟩
        exact asked.trans (spares_launchCheck _ launcher _ _ _)
      · have abides : Abides [] server (server.finishItem number snapshot) :=
          server.abides_finishItem number snapshot
        have proceeds := server.proceeds_finishItem number snapshot
        exact ⟨congrArg Desk.config abides.desk,
          congrArg Bridge.scratch proceeds.bridge⟩

omit [Storage σ] in
/-- The first request without settings only opens the connection. -/
theorem spares_introduce (server : Server σ) {params : Json}
    (bare : (initializeParams? params).bind Prod.snd = none) :
    Spares server (server.introduce params).1 := by
  unfold introduce
  rcases found : initializeParams? params with _ | ⟨related, _ | options⟩
  · exact .refl server
  · exact ⟨rfl, rfl⟩
  · rw [found] at bare
    cases bare

theorem Handles.spares {done : Server σ × List Reaction}
    (handles : Handles server launcher call done)
    (unpaid : server.payload? (.call launcher call) = none) :
    Spares server done.1 := by
  cases handles with
  | stay => exact ⟨rfl, rfl⟩
  | introduce fresh named asks given =>
      simp only [payload?, fresh, named, asks, given, and_self, if_true,
        Option.bind_some] at unpaid
      exact server.spares_introduce unpaid
  | shutdown =>
      let closed : Server σ := { server with phase := .closed }
      have shut : Spares server closed := ⟨rfl, rfl⟩
      have same : server.bridge.killAll.1.scratch = closed.bridge.scratch := rfl
      exact shut.trans (closed.spares_absorb same _)
  | run arguments => exact server.spares_runFile launcher arguments
  | stop =>
      have same : server.bridge.stop.1.scratch = server.bridge.scratch := by
        rw [Bridge.stop_eq]
      exact server.spares_absorb same _
  | store => exact ⟨rfl, rfl⟩
  | close =>
      rename_i id _ _ _ _ _
      let erased : Server σ :=
        { server with documents := server.documents.erase id }
      have removed : Spares server erased := ⟨rfl, rfl⟩
      have same : (server.bridge.close id).1.scratch = erased.bridge.scratch := rfl
      exact removed.trans (erased.spares_absorb same _)
  | configure ready named tells given read =>
      simp [payload?, ready, named, tells, given, read] at unpaid

/-- Only what the editor sends as settings can change the configuration. -/
theorem spares_move {move : Move σ} (unpaid : server.payload? move = none) :
    Spares server (server.move move).1 := by
  cases move with
  | call launcher call =>
      exact (server.handles_handle launcher call).spares unpaid
  | work launcher index order =>
      cases found : server.tasks[index]? with
      | none =>
          simp only [Server.move, found]
          exact .refl server
      | some task =>
          simp only [Server.move, found]
          have taken : Spares server
              { server with tasks := server.tasks.eraseIdx index } := ⟨rfl, rfl⟩
          exact taken.trans (spares_runTask _ launcher order task)
  | receive generation events =>
      exact server.spares_absorb
        (server.bridge.scratch_receiveAll generation events) _
  | disturb storage => exact ⟨rfl, rfl⟩

/-! ## What a payload does -/

/-- Everything that a payload can do. -/
inductive Takes (server : Server σ) (payload : Json) :
    Server σ × List Reaction → Prop where
  /-- What cannot be read does nothing, even if the first request brings it. -/
  | ignored (related : Bool) (unread : Settings.ofJson? payload = none) :
      Takes server payload
        ({ server with related, phase := .ready },
          [settingsWarning server.machine payload])
  | idle (read : Settings.ofJson? payload = some {}) :
      Takes server payload (server, [])
  /-- A change has the open documents checked again. -/
  | applied {settings : Settings} (related : Bool) (again : List Task)
      (read : Settings.ofJson? payload = some settings)
      (due : again = [.revalidate] ∨ server.phase = .fresh) :
      Takes server payload
        ({ server.applySettings settings with
            related
            phase := .ready
            tasks := server.tasks ++ again }, [])

omit [Storage σ] in
theorem takes_changeSettings (ready : server.phase = .ready) (payload : Json) :
    Takes server payload (server.changeSettings payload) := by
  obtain ⟨machine, bridge, phase, config, settings, related, documents, stamps,
    tasks, batches, batchCount, owners⟩ := server
  cases ready
  unfold changeSettings readSettings
  cases read : Settings.ofJson? payload with
  | none => exact .ignored related read
  | some settings =>
      dsimp only
      split
      · rename_i empty
        exact .idle (read.trans (congrArg some (eq_of_beq empty)))
      · exact .applied related [.revalidate] read (Or.inl rfl)

omit [Storage σ] in
theorem takes_introduce {params payload : Json} {related : Bool}
    (fresh : server.phase = .fresh)
    (introduced : initializeParams? params = some (related, some payload)) :
    Takes server payload
      ((server.introduce params).1, (server.introduce params).2.2) := by
  simp only [introduce, introduced, readSettings]
  cases read : Settings.ofJson? payload with
  | none => exact .ignored related read
  | some settings =>
      -- No document is open yet, so that there is nothing to check again.
      have done := Takes.applied related [] read (Or.inr fresh)
      rw [List.append_nil] at done
      exact done

theorem takes_move {move : Move σ} {payload : Json}
    (paid : server.payload? move = some payload) :
    Takes server payload (server.move move) := by
  cases move with
  | call launcher call =>
      obtain ⟨method, params, isRequest⟩ := call
      simp only [payload?] at paid
      split at paid
      · rename_i first
        obtain ⟨fresh, rfl, rfl⟩ := first
        obtain ⟨⟨related, options⟩, found, rfl⟩ := Option.bind_eq_some_iff.mp paid
        obtain ⟨params, rfl, introduced⟩ := Option.bind_eq_some_iff.mp found
        have known : expectsAnswer? "initialize" = some true := by decide
        have allowed : phaseRefusal? .fresh "initialize" = none := by decide
        have handled : server.move (.call launcher
            ⟨"initialize", some params, true⟩) =
              ((server.introduce params).1, (server.introduce params).2.2) := by
          simp [Server.move, handle, fresh, known, allowed, serve, serveWith]
        rw [handled]
        exact takes_introduce fresh introduced
      · split at paid
        · rename_i change
          obtain ⟨ready, rfl, rfl⟩ := change
          obtain ⟨params, rfl, changed⟩ := Option.bind_eq_some_iff.mp paid
          have known :
              expectsAnswer? "workspace/didChangeConfiguration" = some false := by
            decide
          have allowed :
              phaseRefusal? .ready "workspace/didChangeConfiguration" = none := by
            decide
          have handled : server.move (.call launcher
              ⟨"workspace/didChangeConfiguration", some params, false⟩) =
                server.changeSettings payload := by
            simp [Server.move, handle, ready, known, allowed, note, changed]
          rw [handled]
          exact takes_changeSettings ready payload
        · cases paid
  | _ => cases paid

namespace Takes

variable {payload : Json} {settings : Settings} {done : Server σ × List Reaction}

omit [Storage σ] in
theorem of_unread (takes : Takes server payload done)
    (unread : Settings.ofJson? payload = none) :
    ∃ related, done = ({ server with related, phase := .ready },
      [settingsWarning server.machine payload]) := by
  cases takes with
  | ignored related _ => exact ⟨related, rfl⟩
  | idle read => cases unread.symm.trans read
  | applied related again read due => cases unread.symm.trans read

omit [Storage σ] in
theorem of_telling (takes : Takes server payload done)
    (read : Settings.ofJson? payload = some settings) (telling : settings ≠ {}) :
    done.1.settings = server.settings + 1 ∧
      (server.phase = .ready → done.1.tasks = server.tasks ++ [.revalidate]) := by
  cases takes with
  | ignored related unread => cases unread.symm.trans read
  | idle empty =>
      cases empty.symm.trans read
      exact absurd rfl telling
  | applied related again _ due =>
      refine ⟨rfl, ?_⟩
      intro ready
      rcases due with rfl | fresh
      · rfl
      · cases ready.symm.trans fresh

omit [Storage σ] in
theorem phase_eq (takes : Takes server payload done) (ready : server.phase = .ready) :
    done.1.phase = .ready := by
  cases takes with
  | ignored => rfl
  | idle => exact ready
  | applied => rfl

end Takes

/-! ## Every history -/

/-- A move, with what the editor sent so far. -/
def collect (travelled : Server σ × List Json) (move : Move σ) :
    Server σ × List Json :=
  ((travelled.1.move move).1,
    travelled.2 ++ (travelled.1.payload? move).toList)

/-- A sequence of moves, with what the editor sent. -/
def supplied (storage : σ) (machine : Machine) (moves : List (Move σ)) :
    Server σ × List Json :=
  moves.foldl collect (initial storage machine, [])

/-- The settings that the editor sent in a sequence of moves, of whatever
shape. -/
def payloads (storage : σ) (machine : Machine) (moves : List (Move σ)) : List Json :=
  (supplied storage machine moves).2

theorem supplied_append_singleton (storage : σ) (machine : Machine)
    (moves : List (Move σ)) (move : Move σ) :
    supplied storage machine (moves ++ [move]) =
      collect (supplied storage machine moves) move := by
  rw [supplied, List.foldl_concat, ← supplied]

theorem supplied_fst (storage : σ) (machine : Machine) (moves : List (Move σ)) :
    (supplied storage machine moves).1 = after storage machine moves := by
  induction moves using List.reverseRecOn with
  | nil => rfl
  | append_singleton moves move ih =>
      rw [after_append_singleton, supplied_append_singleton, collect, ih]

theorem payloads_append_singleton (storage : σ) (machine : Machine)
    (moves : List (Move σ)) (move : Move σ) :
    payloads storage machine (moves ++ [move]) =
      payloads storage machine moves ++
        ((after storage machine moves).payload? move).toList := by
  rw [payloads, supplied_append_singleton, collect, supplied_fst, ← payloads]

/-- The configuration is what is left of the payloads, and the place for scratch
files follows it. -/
structure Follows (given : List Json) (server : Server σ) : Prop where
  settled : Settings.Settled given server.config
  scratch : server.bridge.scratch =
    ⟨server.config.effectiveScratchDirectory server.machine.temporary,
      server.config.extension⟩

theorem machine_after (storage : σ) (machine : Machine) (moves : List (Move σ)) :
    (after storage machine moves).machine = machine :=
  (Since.after storage machine [] moves).machine

theorem Follows.move {given : List Json} (follows : Follows given server)
    (move : Move σ) :
    Follows (given ++ (server.payload? move).toList) (server.move move).1 := by
  cases paid : server.payload? move with
  | none =>
      have spares := spares_move paid
      rw [Option.toList_none, List.append_nil]
      refine ⟨?_, ?_⟩
      · rw [spares.config]
        exact follows.settled
      · have same : (server.move move).1.machine = server.machine :=
          (Since.move server move).machine
        rw [spares.scratch, spares.config, same]
        exact follows.scratch
  | some payload =>
      have takes := takes_move paid
      rw [Option.toList_some]
      generalize server.move move = done at takes
      cases takes with
      | ignored related unread =>
          exact ⟨follows.settled.ignore unread, follows.scratch⟩
      | idle read =>
          -- Settings without any field give the configuration back as it is.
          exact ⟨follows.settled.apply read, follows.scratch⟩
      | applied related again read due =>
          exact ⟨follows.settled.apply read, rfl⟩

theorem follows_after (storage : σ) (machine : Machine) (moves : List (Move σ)) :
    Follows (payloads storage machine moves) (after storage machine moves) := by
  induction moves using List.reverseRecOn with
  | nil => exact ⟨Settings.settled_nil, rfl⟩
  | append_singleton moves move ih =>
      rw [payloads_append_singleton, after_append_singleton]
      exact ih.move move

end Server

/-- The editor changes the settings. -/
def Call.configuring (settings : Json) : Call :=
  ⟨"workspace/didChangeConfiguration",
    some (.object [("settings", settings)]), false⟩

namespace Server

variable {σ : Type} [Storage σ]

omit [Storage σ] in
theorem payload?_configuring {server : Server σ} (ready : server.phase = .ready)
    (launcher : Launcher σ) (settings : Json) :
    server.payload? (.call launcher (.configuring settings)) = some settings := by
  have read : changedSettings? (.object [("settings", settings)]) =
      some settings := rfl
  simp [payload?, Call.configuring, ready, read]

theorem exists_payloads (storage : σ) (machine : Machine) (given : List Json) :
    ∃ moves, payloads storage machine moves = given ∧
      (after storage machine moves).phase = .ready := by
  let launcher : Launcher σ := fun _ _ => .ok ()
  induction given using List.reverseRecOn with
  | nil => exact ⟨[.call launcher .greeting], rfl, rfl⟩
  | append_singleton given payload ih =>
      obtain ⟨moves, collected, ready⟩ := ih
      have paid := payload?_configuring ready launcher payload
      refine ⟨moves ++ [.call launcher (.configuring payload)], ?_, ?_⟩
      · rw [payloads_append_singleton, collected, paid]
        rfl
      · rw [after_append_singleton]
        exact (takes_move paid).phase_eq ready

/-- The configuration is what the settings that were sent add up to. -/
structure SettingsMerged (machine : Machine) (given : List Json) (server : Server σ) :
    Prop where
  /-- Each field has the last value that was given to it, or its first value. -/
  settled : Settings.Settled given server.config
  callable : ∃ c ∈ server.config.program.toList, isBlank c = false
  named : server.config.extension ≠ "" ∧
    server.config.extension.toList.head? ≠ some '.'
  scratch : server.bridge.scratch =
    ⟨server.config.effectiveScratchDirectory machine.temporary,
      server.config.extension⟩
  /-- What cannot be read changes nothing but the phase, and is followed by a
  warning only. -/
  ignored : ∀ {move payload}, server.payload? move = some payload →
    Settings.ofJson? payload = none →
    ∃ related, server.move move =
      ({ server with related, phase := .ready },
        [settingsWarning machine payload])
  /-- What sets anything is a new generation of settings, for which the open
  documents are checked again. -/
  followed : ∀ {move payload settings}, server.payload? move = some payload →
    Settings.ofJson? payload = some settings → settings ≠ {} →
    (server.move move).1.settings = server.settings + 1 ∧
      (server.phase = .ready →
        (server.move move).1.tasks = server.tasks ++ [.revalidate])

/-- Whatever happens to a server, and whatever the editor sends as settings. -/
theorem settingsMerged_after (storage : σ) (machine : Machine) :
    (∀ moves, SettingsMerged machine (payloads storage machine moves)
        (after storage machine moves)) ∧
      ∀ given, ∃ moves, payloads storage machine moves = given := by
  refine ⟨?_, ?_⟩
  · intro moves
    have follows := follows_after storage machine moves
    have same := machine_after storage machine moves
    refine
      { settled := follows.settled
        callable := ?_
        named := ?_
        scratch := ?_
        ignored := ?_
        followed := ?_ }
    · refine follows.settled.program.holds
        (fun value => ∃ c ∈ value.toList, isBlank c = false)
        ⟨'r', by decide, by decide⟩ ?_
      rintro payload value ⟨_, _, _, _, _, telling⟩
      exact telling
    · refine follows.settled.extension.holds
        (fun value => value ≠ "" ∧ value.toList.head? ≠ some '.')
        ⟨by decide, by decide⟩ ?_
      rintro payload value ⟨_, _, _, _, telling, plain, _⟩
      exact ⟨telling, plain⟩
    · rw [follows.scratch, same]
    · intro move payload paid unread
      obtain ⟨related, done⟩ := (takes_move paid).of_unread unread
      exact ⟨related, by rw [done, same]⟩
    · intro move payload settings paid read telling
      exact (takes_move paid).of_telling read telling
  · intro given
    obtain ⟨moves, collected, _⟩ := exists_payloads storage machine given
    exact ⟨moves, collected⟩

end Server

end ToolBridge
