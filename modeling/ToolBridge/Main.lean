import ToolBridge.CommandLine.Execute
import ToolBridge.FileTree

/-!
# The program

The command line at work.  The files that an invocation names are read into a
file tree, the invocation is done there, and what it says is printed.  This
program has no toolchain of its own to start, so every launch is refused.
-/

namespace ToolBridge.Program

open ToolBridge.CommandLine

partial def readAll (stream : IO.FS.Stream) (seen : ByteArray) :
    IO ByteArray := do
  let chunk ← stream.read 65536
  if chunk.isEmpty then return seen
  readAll stream (seen ++ chunk)

/-- Put a file into a tree, if it can be read. -/
def addFile (tree : FileTree) (path : String) : IO FileTree := do
  try
    let content ← IO.FS.readBinFile path
    return (tree.write path.toList content.toList).1
  catch _ => return tree

def neededFiles (words : List String) : List String :=
  match readArguments words with
  | .error _ => []
  | .ok invocation =>
      let file :=
        match invocation.action with
        | .check file _ => [file]
        | .run file => [file]
        | _ => []
      invocation.config.getD configFile :: file

def readsStdin (words : List String) : Bool :=
  match readArguments words with
  | .ok ⟨_, _, .links _ _⟩ => true
  | _ => false

def run (words : List String) : IO UInt32 := do
  let storage ← (neededFiles words).foldlM addFile ({} : FileTree)
  let stdin ←
    if readsStdin words then readAll (← IO.getStdin) .empty else pure .empty
  let temporary := (← IO.getEnv "TMPDIR").getD "/tmp"
  let result := execute
    { storage
      temporary
      toolchain := fun _ _ => .error .notFound
      stdin := stdin.toList }
    (fun path => storage.isFile path.toList) words
  IO.print result.transcript.stdout
  IO.eprint result.transcript.stderr
  return result.code.toUInt32

end ToolBridge.Program

def main (words : List String) : IO UInt32 :=
  ToolBridge.Program.run words
