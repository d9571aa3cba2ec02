import ToolBridge.CommandLine.Execute
import ToolBridge.Scenario.Script
import ToolBridge.Scenario.Workplace

/-!
# Scenarios of the command line

A command line is done in a file tree with a scripted toolchain.
-/

namespace ToolBridge.Scenario

def scriptedToolchain (script : Script) : CommandLine.Toolchain FileTree :=
  fun tree command =>
    (tree.admits command).map fun _ =>
      let readFile := fun (path : String) => (tree.read path.toList).toOption
      script.events readFile command.arguments

/-- What is around a command line. -/
structure Desk where
  files : List (String × List UInt8) := []
  stdin : List UInt8 := []
  script : Script := {}
  colors : Bool := false
  interrupted : Bool := false

def runCommandLine (desk : Desk) (words : List String) :
    CommandLine.Result FileTree :=
  let storage := furnish workplace desk.files
  CommandLine.execute
    { storage
      temporary := temporaryDirectory
      toolchain := scriptedToolchain desk.script
      stdin := desk.stdin
      colors := desk.colors
      interrupted := desk.interrupted }
    (fun path => storage.isFile path.toList) words

end ToolBridge.Scenario
