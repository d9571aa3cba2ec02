import ToolBridge.Proofs.Server.Frames

/-!
# What a call can do

A call is looked up by its method, its kind and the phase of the server.  Most
of what can be called leaves the server as it is or moves it on to another
phase.  What is left is listed here once, with what is known of the call where
that matters later.
-/

namespace ToolBridge.Server

variable {σ : Type}

theorem orders_openLink (link : Link) : orders (openLink link) = [] := by
  unfold openLink
  cases Uri.ofFilePath? link.filePath with
  | none => rfl
  | some uri => rfl

/-- The first request is served once, before anything else is. -/
theorem fresh_of_allowed {phase : Phase}
    (allowed : phaseRefusal? phase "initialize" = none) : phase = .fresh := by
  cases phase with
  | fresh => rfl
  | _ => exact absurd allowed (by decide)

/-- Everything else is served between the first request and the last one. -/
theorem ready_of_allowed {phase : Phase} {method : String}
    (other : method ≠ cancelMethod) (later : method ≠ "initialize")
    (allowed : phaseRefusal? phase method = none) : phase = .ready := by
  cases phase with
  | ready => rfl
  | _ => simp [phaseRefusal?, other, later] at allowed

variable [Storage σ]

/-- Everything that the server can do about a call. -/
inductive Handles (server : Server σ) (launcher : Launcher σ) (call : Call) :
    Server σ × List Reaction → Prop where
  /-- The server is not made fresh again, and nothing is asked for. -/
  | stay {reactions : List Reaction} (phase : Phase)
      (later : phase = .fresh → server.phase = .fresh)
      (silent : orders reactions = []) :
      Handles server launcher call ({ server with phase }, reactions)
  | introduce {params : Json} (fresh : server.phase = .fresh)
      (named : call.method = "initialize") (asks : call.isRequest = true)
      (given : call.params = some params) :
      Handles server launcher call
        ((server.introduce params).1, (server.introduce params).2.2)
  | shutdown : Handles server launcher call server.shutdown
  | run (arguments : List Json) :
      Handles server launcher call
        ((server.runFile launcher arguments).1,
          (server.runFile launcher arguments).2.2)
  | stop : Handles server launcher call (server.stopRun.1, server.stopRun.2.2)
  | store (document : Document) (ready : server.phase = .ready) :
      Handles server launcher call (server.store document)
  | close {params : Json} {id : String} (ready : server.phase = .ready)
      (named : call.method = "textDocument/didClose")
      (tells : call.isRequest = false) (given : call.params = some params)
      (read : closedDocument? params = some id) :
      Handles server launcher call (server.closeDocument id)
  | configure {params value : Json} (ready : server.phase = .ready)
      (named : call.method = "workspace/didChangeConfiguration")
      (tells : call.isRequest = false) (given : call.params = some params)
      (read : changedSettings? params = some value) :
      Handles server launcher call (server.changeSettings value)

variable {server : Server σ} {launcher : Launcher σ} {call : Call}

theorem Handles.same : Handles server launcher call (server, []) :=
  .stay server.phase id rfl

theorem Handles.leave {phase : Phase} (later : phase ≠ .fresh) :
    Handles server launcher call ({ server with phase }, []) :=
  .stay phase (fun fresh => absurd fresh later) rfl

theorem handles_serve (asks : call.isRequest = true)
    (allowed : phaseRefusal? server.phase call.method = none) :
    Handles server launcher call
      ((server.serve launcher call.method call.params).1,
        (server.serve launcher call.method call.params).2.2) := by
  unfold serve
  split
  · cases call.params with
    | none => exact .shutdown
    | some params => exact .leave (by simp)
  · cases given : call.params with
    | none => exact .same
    | some params =>
        dsimp only [serveWith]
        split
        · rename_i named
          exact .introduce (fresh_of_allowed (named ▸ allowed)) named asks given
        · split
          · rcases command? params with _ | ⟨command, arguments⟩
            · exact .same
            · dsimp only [execute]
              split
              · exact .run arguments
              · split
                · exact .stop
                · exact .same
          · split
            · cases linkParams? params with
              | none => exact .same
              | some found => exact .same
            · split
              · cases Link.ofJson? params with
                | none => exact .same
                | some link =>
                    exact .stay server.phase id (orders_openLink link)
              · split
                · exact .same
                · exact .same

theorem handles_note (tells : call.isRequest = false)
    (allowed : phaseRefusal? server.phase call.method = none) :
    Handles server launcher call (server.note call.method call.params) := by
  unfold note
  split
  · split
    · exact .stay server.phase id rfl
    · exact .same
  · rename_i named given
    split
    · exact .store _
        (ready_of_allowed (by decide) (by decide) (named ▸ allowed))
    · exact .same
  · rename_i named given
    split
    · exact .store _
        (ready_of_allowed (by decide) (by decide) (named ▸ allowed))
    · exact .same
  · rename_i named given
    split
    · rename_i id read
      exact .close (ready_of_allowed (by decide) (by decide) (named ▸ allowed))
        named tells given read
    · exact .same
  · rename_i named given
    split
    · rename_i value read
      exact .configure
        (ready_of_allowed (by decide) (by decide) (named ▸ allowed)) named tells
        given read
    · exact .same
  · exact .same

theorem handles_handle (server : Server σ) (launcher : Launcher σ) (call : Call) :
    Handles server launcher call
      ((server.handle launcher call).1, (server.handle launcher call).2.2) := by
  unfold handle
  dsimp only
  split
  · exact .same
  · split
    · exact .leave (by simp)
    · split
      · split
        · exact .same
        · exact .same
      · split
        · exact .same
        · rename_i allowed
          split
          · unfold misdirected
            split
            · exact .same
            · split
              · exact .leave (by simp)
              · exact .same
          · rename_i fitting
            -- The kind of the call fits its method, so the method tells it.
            split
            · rename_i expected
              have asks : call.isRequest = true := by simp_all
              exact handles_serve asks allowed
            · rename_i unexpected
              have tells : call.isRequest = false := by simp_all
              exact handles_note tells allowed

end ToolBridge.Server
