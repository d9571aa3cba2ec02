import ToolBridge.Location.Keys
import ToolBridge.Location.SourcePath
import ToolBridge.Location.Terse

/-!
# The chain of grammars

A source path is the most telling way to name a place and a terse location
the least, so the grammars are tried in that order on the whole text.
-/

namespace ToolBridge

/-- The first usable source path of a text, for a source extension. -/
def locateSourcePath (extension text : String) : Option Location :=
  SourcePath.locate extension.toList text.toList

/-- The location that the first successful grammar finds. -/
def locate (extension text : String) : Option Location :=
  match SourcePath.locate extension.toList text.toList with
  | some location => some location
  | none =>
      match Keys.locate text.toList with
      | some location => some location
      | none => Terse.locate text.toList

end ToolBridge
