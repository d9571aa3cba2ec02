import ToolBridge.Document
import ToolBridge.Location.Chain
import ToolBridge.Text.Trim

/-!
# Links

A locator in terminal text that names the active file becomes a link into
that file.  Terminal text often names other files with the same extension, so
a locator of another file gives no link.
-/

namespace ToolBridge

open ToolBridge.Text

/-- A clickable part of terminal text. -/
structure Link where
  /-- Where the locator starts, in UTF-16 units. -/
  startIndex : Nat
  /-- How long it is, in UTF-16 units. -/
  length : Nat
  tooltip : String
  filePath : String
  /-- The target line, counted from zero. -/
  line : Option Nat
  /-- The target column, counted from zero. -/
  column : Option Nat
  deriving DecidableEq, Repr

namespace Link

/-- The cursor target.  Without it the file is opened where it was left. -/
def position? (link : Link) : Option Position :=
  match link.line, link.column with
  | some line, some column => some ⟨line, column⟩
  | _, _ => none

/-- The last component of a path, whichever separators it uses. -/
def fileName (path : List Char) : List Char :=
  afterLast isSeparator path

/-- The text in front of a byte span, the text in it, both in UTF-16
units. -/
def measure (text : List Char) (span : ByteSpan) : Nat × Nat :=
  let (before, rest) := splitAtByte span.start text
  let (inside, _) := splitAtByte (span.stop - span.start) rest
  (utf16Length before, utf16Length inside)

/-- The link of the first usable source path of a text, if that names the
active file. -/
def resolve (extension text active : String) : Option Link :=
  match locateSourcePath extension text with
  | some location =>
      if location.file = some (String.ofList (fileName active.toList)) then
        let (startIndex, length) := measure text.toList location.span
        some
          { startIndex
            length
            tooltip :=
              active ++ ":" ++ numeral location.line ++ ":" ++
                numeral location.column
            filePath := active
            line := some (location.line - 1)
            column := some (location.column - 1) }
      else none
  | none => none

/-- The links of a text, at most one a line. -/
def resolveAll (extension text active : String) : List Link :=
  (lines text.toList).filterMap fun line =>
    resolve extension (String.ofList line) active

/-- The links of a text with the numbers of their lines, counted from one. -/
def resolveNumbered (extension text active : String) : List (Nat × Link) :=
  ((lines text.toList).zipIdx 1).filterMap fun line =>
    (resolve extension (String.ofList line.1) active).map fun link =>
      (line.2, link)

end Link

end ToolBridge
