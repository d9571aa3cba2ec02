import ToolBridge.Command
import ToolBridge.Dict
import ToolBridge.Path
import ToolBridge.Storage
import ToolBridge.Text.Units

/-!
# File trees

A file system in memory, with the refusals of a real one: a path may lead
through a file, end in a slash, be too long or name nothing.
-/

namespace ToolBridge

open ToolBridge.Text

abbrev EntryName := List Char

/-- What stands under a path. -/
inductive Node where
  | file (content : List UInt8)
  | directory
  deriving DecidableEq, Repr

/-- The entries below the root, by their full path, and the directory in
which relative paths start. -/
structure FileTree where
  nodes : Dict (List EntryName) Node := {}
  workDirectory : List EntryName := []
  deriving Repr

namespace FileTree

/-- The longest name of an entry, in bytes. -/
def nameLimit : Nat := 255

/-- The first length that is too much for a path, in bytes. -/
def pathLimit : Nat := 4096

/-- What stands under a full path.  The root is always there. -/
def nodeAt (tree : FileTree) (place : List EntryName) : Option Node :=
  match place with
  | [] => some .directory
  | _ :: _ => tree.nodes.get? place

/-- Step from a directory to one of its entries, which has to be a directory
too. -/
def enter (tree : FileTree) (directory : List EntryName) (name : EntryName) :
    Except OsError (List EntryName) :=
  if name == Path.here then .ok directory
  else if name == Path.above then .ok directory.dropLast
  else if nameLimit < utf8Length name then .error .nameTooLong
  else
    match tree.nodeAt (directory ++ [name]) with
    | some .directory => .ok (directory ++ [name])
    | some (.file _) => .error .notADirectory
    | none => .error .notFound

/-- The end of a path: the root itself, or a name in a directory, perhaps
with a slash after it. -/
inductive Target where
  | root
  | entry (directory : List EntryName) (name : EntryName) (slash : Bool)
  deriving DecidableEq, Repr

/-- Follow a path up to its last component. -/
def follow (tree : FileTree) (path : List Char) : Except OsError Target :=
  if path.contains (Char.ofNat 0) then .error .zeroInPath
  else if path.isEmpty then .error .notFound
  else if pathLimit ≤ utf8Length path then .error .nameTooLong
  else
    let start := if Path.isAbsolute path then [] else tree.workDirectory
    let components := (Path.rawComponents path).filter (· != [])
    match components.getLast? with
    | none => .ok .root
    | some name => do
        let directory ← components.dropLast.foldlM tree.enter start
        return .entry directory name (path.getLast? == some '/')

/-- A name that stands for a directory wherever it is used. -/
def isRelative (name : EntryName) : Bool :=
  name == Path.here || name == Path.above

def put (tree : FileTree) (place : List EntryName) (node : Node) : FileTree :=
  { tree with nodes := tree.nodes.insert place node }

def isDirectory (tree : FileTree) (path : List Char) : Bool :=
  match tree.follow path with
  | .ok .root => true
  | .ok (.entry directory name _) => (tree.enter directory name).isOk
  | .error _ => false

def makeDirectory (tree : FileTree) (path : List Char) :
    Except OsError FileTree := do
  match ← tree.follow path with
  | .root => throw .alreadyExists
  | .entry directory name _ =>
      if isRelative name then throw .alreadyExists
      else if nameLimit < utf8Length name then throw .nameTooLong
      else
        match tree.nodeAt (directory ++ [name]) with
        | some _ => throw .alreadyExists
        | none => return tree.put (directory ++ [name]) .directory

def ensureDirectory (tree : FileTree) (path : List Char) :
    Except OsError FileTree :=
  match tree.makeDirectory path with
  | .ok tree => .ok tree
  | .error cause =>
      if cause ≠ .notFound && tree.isDirectory path then .ok tree
      else .error cause

/-- Make a directory and those above it, given the path and its ancestors.
The empty path stands for the work directory, which is always there.  The
directories made before a refusal stay. -/
def makeEach (tree : FileTree) :
    (paths : List (List Char)) → FileTree × Except OsError Unit
  | [] => (tree, .ok ())
  | path :: above =>
      if path.isEmpty then (tree, .ok ())
      else
        match tree.ensureDirectory path with
        | .ok tree => (tree, .ok ())
        | .error .notFound =>
            match makeEach tree above with
            | (tree, .ok _) =>
                match tree.ensureDirectory path with
                | .ok tree => (tree, .ok ())
                | .error cause => (tree, .error cause)
            | (tree, .error cause) => (tree, .error cause)
        | .error cause => (tree, .error cause)

/-- Make a directory and those above it. -/
def makeAll (tree : FileTree) (path : List Char) :
    FileTree × Except OsError Unit :=
  tree.makeEach (Path.ancestors path)

/-- Make the directories above the last component of a path. -/
def makeParents (tree : FileTree) (path : List Char) :
    FileTree × Except OsError Unit :=
  match Path.parent? path with
  | some parent => tree.makeAll parent
  | none => (tree, .ok ())

/-- Write a file in a directory that is there. -/
def writeFile (tree : FileTree) (path : List Char) (content : List UInt8) :
    Except OsError FileTree := do
  match ← tree.follow path with
  | .root => throw .isADirectory
  | .entry directory name slash =>
      if isRelative name || slash then throw .isADirectory
      else if nameLimit < utf8Length name then throw .nameTooLong
      else
        match tree.nodeAt (directory ++ [name]) with
        | some .directory => throw .isADirectory
        | _ => return tree.put (directory ++ [name]) (.file content)

/-- Write a file, with the directories above it. -/
def write (tree : FileTree) (path : List Char) (content : List UInt8) :
    FileTree × Except OsError Unit :=
  match tree.makeParents path with
  | (tree, .ok _) =>
      match tree.writeFile path content with
      | .ok tree => (tree, .ok ())
      | .error cause => (tree, .error cause)
  | (tree, .error cause) => (tree, .error cause)

def read (tree : FileTree) (path : List Char) : Except OsError (List UInt8) := do
  match ← tree.follow path with
  | .root => throw .isADirectory
  | .entry directory name slash =>
      if isRelative name then throw .isADirectory
      else if nameLimit < utf8Length name then throw .nameTooLong
      else
        match tree.nodeAt (directory ++ [name]) with
        | some (.file content) =>
            if slash then throw .notADirectory else return content
        | some .directory => throw .isADirectory
        | none => throw .notFound

def readText (tree : FileTree) (path : List Char) : Except OsError String := do
  match utf8Decode? (← tree.read path) with
  | some text => return String.ofList text
  | none => throw .notUtf8

def isFile (tree : FileTree) (path : List Char) : Bool :=
  (tree.read path).isOk

def unlink (tree : FileTree) (path : List Char) : Except OsError FileTree := do
  match ← tree.follow path with
  | .root => throw .isADirectory
  | .entry directory name slash =>
      if isRelative name then throw .isADirectory
      else if nameLimit < utf8Length name then throw .nameTooLong
      else
        match tree.nodeAt (directory ++ [name]) with
        | some (.file _) =>
            if slash then throw .notADirectory
            else
              return { tree with nodes := tree.nodes.erase (directory ++ [name]) }
        | some .directory => throw .isADirectory
        | none => throw .notFound

def remove (tree : FileTree) (path : List Char) :
    FileTree × Except OsError Unit :=
  match tree.unlink path with
  | .ok tree => (tree, .ok ())
  | .error .notFound => (tree, .ok ())
  | .error cause => (tree, .error cause)

instance : Storage FileTree where
  write tree path text := tree.write path.toList (utf8Encode text.toList)
  remove tree path := tree.remove path.toList
  read tree path := tree.readText path.toList

/-- The one program that is found by its name alone. -/
def installedProgram : List Char := "racket".toList

/-- The system's answer to an attempt to launch a command.  A name without a
slash is searched among the installed programs; no file of the tree can be
executed. -/
def admits (tree : FileTree) (command : Command) : Except OsError Unit :=
  let program := command.program.toList
  let texts := program :: command.arguments.map String.toList
  if texts.any fun text => text.contains (Char.ofNat 0) then
    .error .zeroInCommand
  else if program.contains '/' then
    match tree.read program with
    | .ok _ => .error .permissionDenied
    | .error .isADirectory => .error .permissionDenied
    | .error cause => .error cause
  else if program = installedProgram then .ok ()
  else if isRelative program then .error .permissionDenied
  else if nameLimit < utf8Length program then .error .nameTooLong
  else .error .notFound

/-- The entries below a directory, by their path from there.  The path of a
directory ends in a slash, and its content is nothing; neither has a file
that holds no text any. -/
def listing (tree : FileTree) (directory : List EntryName) :
    List (String × Option String) :=
  tree.nodes.entries.filterMap fun entry =>
    if entry.1.take directory.length = directory ∧
        directory.length < entry.1.length then
      let path := ['/'].intercalate (entry.1.drop directory.length)
      match entry.2 with
      | .directory => some (String.ofList (path ++ ['/']), none)
      | .file content =>
          some (String.ofList path, (utf8Decode? content).map String.ofList)
    else none

end FileTree

end ToolBridge
