import ToolBridge.Text.Literal

/-!
# The console

The surface on which runs are narrated and their output is relayed.
-/

namespace ToolBridge

open ToolBridge.Text

/-- What can be asked of the console. -/
inductive ConsoleEvent where
  | append (line : String)
  | clear
  | reveal
  deriving DecidableEq, Repr

namespace Console

/-- The line that the runner prints while its viewer is up. -/
def runnerNotice : List Char :=
  "Sterling running. Hit enter to stop service.".toList

/-- What the user is told instead. -/
def editorNotice : List Char :=
  "Sterling running. Hit Stop to stop service.".toList

def terminating : String := "Terminating the current Forge process ..."

def exited : String := "Forge exited."

def finished : String := "Finished running."

def notSourceFile : String :=
  "Click on the Forge file first before hitting the run button :)"

/-- The first line of a run. -/
def running (path : String) : String :=
  "Running file \"" ++ path ++ "\" ..."

/-- A line of the runner as the user sees it. -/
def relayed (line : String) : String :=
  String.ofList (replaceAll runnerNotice editorNotice line.toList)

/-- The lines that a sequence of events leaves on the console. -/
def lines (events : List ConsoleEvent) : List String :=
  events.foldl
    (fun shown event =>
      match event with
      | .append line => shown ++ [line]
      | .clear => []
      | .reveal => shown)
    []

end Console

end ToolBridge
