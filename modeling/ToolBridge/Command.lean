import ToolBridge.Text.Literal

/-!
# Commands

A program with its arguments, and the templates from which the arguments of
a toolchain command are made.  A template names the file by a placeholder.
-/

namespace ToolBridge

open ToolBridge.Text

/-- A program and its arguments.  No shell ever sees them. -/
structure Command where
  program : String
  arguments : List String
  deriving DecidableEq, Repr

namespace Command

/-- The program and the arguments with blanks between them. -/
def display (command : Command) : String :=
  command.arguments.foldl (fun text argument => text ++ " " ++ argument)
    command.program

end Command

namespace Template

/-- The text that stands for the file. -/
def placeholder : List Char := "\x7bfile\x7d".toList

/-- A path inside a string literal of the toolchain's language, where a
backslash and a double quote are escaped by a backslash. -/
def escape : List Char → List Char
  | [] => []
  | c :: cs =>
      if c = '\\' ∨ c = '"' then '\\' :: c :: escape cs else c :: escape cs

/-- An argument for a file.  A template that is the placeholder alone becomes
the path itself; inside a longer template the path is escaped. -/
def expand (path template : List Char) : List Char :=
  if template = placeholder then path
  else replaceAll placeholder (escape path) template

/-- The arguments for a file. -/
def expandAll (templates : List String) (path : String) : List String :=
  templates.map fun template =>
    String.ofList (expand path.toList template.toList)

end Template

end ToolBridge
