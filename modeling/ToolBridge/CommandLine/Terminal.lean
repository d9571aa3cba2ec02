import ToolBridge.Bridge.Basic
import ToolBridge.CommandLine.Paint

/-!
# A run on the terminal

Output goes to standard output, where the lines that tell the story of the
run are dimmed.  Where the cursor would go in an editor is told on standard
error.
-/

namespace ToolBridge.CommandLine

open ToolBridge.Text

/-- What was printed. -/
structure Transcript where
  stdout : String := ""
  stderr : String := ""
  deriving DecidableEq, Repr

namespace Transcript

def printLine (transcript : Transcript) (line : String) : Transcript :=
  { transcript with stdout := transcript.stdout ++ line ++ "\n" }

/-- A line on standard error. -/
def complain (transcript : Transcript) (line : String) : Transcript :=
  { transcript with stderr := transcript.stderr ++ line ++ "\n" }

end Transcript

/-- The lines that tell the story of a run. -/
def isNarration (line : String) : Bool :=
  line == Console.terminating || line == Console.exited ||
    line == Console.finished ||
    (startsWith "Running file \"".toList line.toList &&
      endsWith "\" ...".toList line.toList)

/-- The line that shows a place in a document. -/
def arrow (colors : Bool) (id : String) (position : Position) : String :=
  "  " ++ paint colors .boldBlue "-->" ++ " " ++ id ++ ":" ++
    numeral (countedFromOne position.line) ++ ":" ++
    numeral (countedFromOne position.character)

/-- Print what is seen of one effect.  There is no panel to clear or to
reveal. -/
def printEffect (colors : Bool) (transcript : Transcript) :
    Effect → Transcript
  | .console (.append line) =>
      transcript.printLine
        (if isNarration line then paint colors .dimmed line else line)
  | .navigate id (some position) =>
      transcript.complain (arrow colors id position)
  | _ => transcript

def printEffects (colors : Bool) (transcript : Transcript)
    (effects : List Effect) : Transcript :=
  effects.foldl (printEffect colors) transcript

end ToolBridge.CommandLine
