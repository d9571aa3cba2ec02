import ToolBridge.Bridge.Basic

/-!
# The run session

A run executes a saved file.  Its output is relayed line by line; its error
text is kept until it ends, and then decides whether the run failed.  A run
that is stopped or replaced ends without a word of its own.
-/

namespace ToolBridge

open ToolBridge.Text

namespace Bridge

variable {σ : Type}

/-- End the live run, if there is one, and say so. -/
def dismissRun (bridge : Bridge σ) : Bridge σ × Bool × List Effect :=
  match bridge.processes.kill .interactive with
  | (processes, some running) =>
      ({ bridge with processes, active := none }, true,
        [Observer.terminated running, .line Console.terminating])
  | (processes, none) => ({ bridge with processes, active := none }, false, [])

/-- Start the process of a run, after the run before was dismissed. -/
def spawnRun (bridge : Bridge σ) (launcher : Launcher σ) (document : Document)
    (extension : String) (command : Command) :
    Bridge σ × Except Failure Nat × List Effect :=
  let number := bridge.runs + 1
  let (processes, answer, terminated) :=
    bridge.processes.spawn .interactive (launcher bridge.storage command)
      (.run number document extension "")
  let effects := (terminated.map Observer.terminated).toList
  match answer with
  | .ok generation =>
      ({ bridge with
          processes, runs := number, active := some ⟨number, document⟩ },
        .ok generation,
        effects ++ [.launched ⟨.interactive, generation, command⟩])
  | .error cause =>
      ({ bridge with processes, runs := number, active := none },
        .error (.launch command.display cause), effects)

/-- Run a file whose text in the editor is a document. -/
def start (bridge : Bridge σ) (launcher : Launcher σ) (document : Document)
    (path : String) (config : Config) :
    Bridge σ × Except Failure Nat × List Effect :=
  if config.isSourcePath path then
    let (bridge, _, dismissal) := bridge.dismissRun
    let narration :=
      [Effect.console .clear, .console .reveal, .line (Console.running path)]
    let (bridge, answer, effects) :=
      bridge.spawnRun launcher document config.extension
        (config.runCommand path)
    (bridge, answer, dismissal ++ narration ++ effects)
  else (bridge, .error (.notSource path config.extension), [])

/-- Stop the live run.  The answer says whether there was one. -/
def stop (bridge : Bridge σ) : Bridge σ × Bool × List Effect :=
  let document := bridge.activeDocument
  let (bridge, stopped, effects) := bridge.dismissRun
  if stopped then
    (bridge, true,
      effects ++ (document.map fun id => Effect.navigate id none).toList)
  else (bridge, false, effects)

/-- The end of a run whose error text is blank. -/
def finishCleanRun (bridge : Bridge σ) (document : Document) :
    Bridge σ × List Effect :=
  let (publisher, delivery) := bridge.publisher.clearChannel .run document.id
  ({ bridge with publisher },
    [.deliver delivery, .navigate document.id none, .line Console.finished])

/-- The diagnostic of a run's error text, and where the cursor goes. -/
def runDiagnostic (document : Document) (extension message : String) :
    Diagnostic × Position :=
  let location := locateSourcePath extension message
  let diagnostic :=
    Diagnostic.resolve document location message .error .runner .run
  (diagnostic,
    if location.isSome then diagnostic.range.start else Position.origin)

/-- The end of a run with error text. -/
def finishFailedRun (bridge : Bridge σ) (document : Document)
    (extension message : String) : Bridge σ × Diagnostic × List Effect :=
  let (diagnostic, position) := runDiagnostic document extension message
  let (publisher, delivery) :=
    bridge.publisher.replace .run document.id [diagnostic]
  ({ bridge with publisher }, diagnostic,
    [.line message, .deliver delivery, .navigate document.id (some position),
      .line Console.exited])

/-- Forget the active run, if it is the one with this number. -/
def settleRun (bridge : Bridge σ) (number : Nat) : Bridge σ :=
  match bridge.active with
  | some active =>
      if active.number = number then { bridge with active := none } else bridge
  | none => bridge

def finishRun (bridge : Bridge σ) (generation number : Nat)
    (document : Document) (extension stderr : String) (code : Option Int) :
    Bridge σ × List Effect :=
  let bridge := bridge.settleRun number
  if isBlankText stderr.toList then
    let (bridge, effects) := bridge.finishCleanRun document
    (bridge, effects ++ [.ended generation (some ⟨code, none⟩)])
  else
    let message := String.ofList (trimLineBreaks stderr.toList)
    let (bridge, diagnostic, effects) :=
      bridge.finishFailedRun document extension message
    (bridge, effects ++ [.ended generation (some ⟨code, some diagnostic⟩)])

end Bridge

end ToolBridge
