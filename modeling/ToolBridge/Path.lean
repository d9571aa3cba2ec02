import ToolBridge.Text.Lines
import ToolBridge.Text.Trim

/-!
# Paths

Paths of the local file system, as texts with slashes.  Empty components and
the component `.` say nothing, except a `.` at the start of a relative path.
-/

namespace ToolBridge.Path

open ToolBridge.Text

/-- The component of the current directory. -/
def here : List Char := ['.']

/-- The component of the directory above. -/
def above : List Char := ['.', '.']

def isAbsolute (path : List Char) : Bool :=
  path.head? == some '/'

/-- Everything between slashes, empty components included. -/
def rawComponents (path : List Char) : List (List Char) :=
  splitBy (· == '/') path

/-- The components that say something. -/
def components (path : List Char) : List (List Char) :=
  let telling := (rawComponents path).filter fun component =>
    component != [] && component != here
  if !isAbsolute path && (rawComponents path).head? == some here then
    here :: telling
  else telling

/-- A component that says nothing where it stands. -/
def isSilent (component : List Char) : Bool :=
  component == [] || component == here

/-- The slash or the dot at which a path starts, and the components after it,
empty ones included. -/
def splitStart (path : List Char) : List Char × List (List Char) :=
  if isAbsolute path || (rawComponents path).head? == some here then
    (path.take 1, rawComponents (path.drop 1))
  else ([], rawComponents path)

/-- Components up to the last one that says something. -/
def trimSilent (components : List (List Char)) : List (List Char) :=
  (components.reverse.dropWhile isSilent).reverse

/-- The path in front of the last component that says something, as it is
written.  The root and the empty path have none. -/
def parent? (path : List Char) : Option (List Char) :=
  let (start, components) := splitStart path
  match (trimSilent components).reverse with
  | [] => if start == here then some [] else none
  | _ :: before =>
      some (start ++ ['/'].intercalate (trimSilent before.reverse))

/-- A path and what is in front of its components, from the last one to the
first, at most `limit` paths. -/
def ancestorsWithin : (limit : Nat) → List Char → List (List Char)
  | 0, path => [path]
  | limit + 1, path =>
      match parent? path with
      | some parent => path :: ancestorsWithin limit parent
      | none => [path]

/-- A path and all that is in front of its components. -/
def ancestors (path : List Char) : List (List Char) :=
  ancestorsWithin (rawComponents path).length path

/-- The last component, if it names something in a directory. -/
def fileName? (path : List Char) : Option (List Char) :=
  match (components path).getLast? with
  | some component =>
      if component == above || component == here then none else some component
  | none => none

/-- The part of a name after its last dot.  A dot at the start does not
count. -/
def nameExtension? (name : List Char) : Option (List Char) :=
  let suffix := afterLast (· == '.') name
  if suffix.length + 1 < name.length then some suffix else none

def extension? (path : List Char) : Option (List Char) :=
  match fileName? path with
  | some name => nameExtension? name
  | none => none

def join (directory name : List Char) : List Char :=
  if directory.isEmpty then name
  else if directory.getLast? == some '/' then directory ++ name
  else directory ++ '/' :: name

end ToolBridge.Path
