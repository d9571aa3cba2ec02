import ToolBridge.Command
import ToolBridge.Location.Chain
import ToolBridge.Path

/-!
# Configuration

How the toolchain is called and how its exit codes are read.
-/

namespace ToolBridge

/-- How a process ended, by its exit code. -/
inductive ExitClass where
  | clean
  /-- The code for a syntax error. -/
  | syntaxError
  /-- Any other failure, without a code when a signal ended the process. -/
  | toolError (code : Option Int)
  deriving DecidableEq, Repr

/-- The settings of the bridge. -/
structure Config where
  /-- The toolchain's executable. -/
  program : String := "racket"
  /-- The extension of source files, without the dot. -/
  extension : String := "frg"
  /-- The exit code that marks a syntax error. -/
  syntaxErrorCode : Int := 2
  /-- The arguments of a check. -/
  checkArguments : List String :=
    ["-e", "(enter! (file \"\x7bfile\x7d\"))"]
  /-- The arguments of a run. -/
  runArguments : List String := ["\x7bfile\x7d"]
  /-- Where scratch files go, if not into the system's temporary directory. -/
  scratchDirectory : Option String := none
  deriving DecidableEq, Repr

namespace Config

/-- The settings of someone who set nothing. -/
def standard : Config := {}

/-- The name of the directory for scratch files among the temporary files of
the system. -/
def scratchName : String := "frg-lsp"

/-- Where scratch files go, given the system's directory for temporary files. -/
def effectiveScratchDirectory (config : Config) (temporary : String) : String :=
  config.scratchDirectory.getD
    (String.ofList (Path.join temporary.toList scratchName.toList))

def checkCommand (config : Config) (path : String) : Command :=
  ⟨config.program, Template.expandAll config.checkArguments path⟩

def runCommand (config : Config) (path : String) : Command :=
  ⟨config.program, Template.expandAll config.runArguments path⟩

/-- The class of an exit code.  Zero is clean even when it is set as the code
for a syntax error. -/
def classify (config : Config) : Option Int → ExitClass
  | none => .toolError none
  | some code =>
      if code = 0 then .clean
      else if code = config.syntaxErrorCode then .syntaxError
      else .toolError (some code)

def isSourcePath (config : Config) (path : String) : Bool :=
  Path.extension? path.toList == some config.extension.toList

end Config

end ToolBridge
