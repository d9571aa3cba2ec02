import ToolBridge.FileTree

/-!
# The workplace

The file tree in which every scenario starts: an empty work directory, and
beside it a system directory with one file in it.
-/

namespace ToolBridge.Scenario

open ToolBridge.Text

/-- The tree at the start, with a work directory and those above it. -/
def workplaceAt (workDirectory : List EntryName) : FileTree :=
  let places := (List.range workDirectory.length).map fun count =>
    workDirectory.take (count + 1)
  let nodes := places.foldl (fun nodes place => nodes.insert place .directory)
    ((Dict.empty.insert ["etc".toList] Node.directory).insert
      ["etc".toList, "passwd".toList] (.file []))
  { nodes, workDirectory }

/-- The tree at the start, with a work directory that no absolute path leads
to: nothing can be called by an empty name. -/
def workplace : FileTree :=
  workplaceAt [[], []]

/-- The tree at the start, with a work directory under a name. -/
def namedWorkplace : FileTree :=
  workplaceAt ["WORK".toList]

/-- The directory for temporary files, in the work directory. -/
def temporaryDirectory : String := "tmp"

/-- What can stand in the way of a scratch file. -/
inductive Obstacle where
  | file (text : String)
  | directory
  deriving DecidableEq, Repr

/-- Put a file or a directory under a path. -/
def obstruct (tree : FileTree) (path : String) : Obstacle → FileTree
  | .file text => (tree.write path.toList (utf8Encode text.toList)).1
  | .directory => (tree.makeAll path.toList).1

/-- Put files with the given content into the tree. -/
def furnish (tree : FileTree) (files : List (String × List UInt8)) : FileTree :=
  files.foldl (fun tree file => (tree.write file.1.toList file.2).1) tree

end ToolBridge.Scenario
