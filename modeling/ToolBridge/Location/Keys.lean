import ToolBridge.Location.Basic
import ToolBridge.Text.Literal
import ToolBridge.Text.Number
import ToolBridge.Text.Units

/-!
# Key and value

Reader errors end in `line=7` and `column=2`, in either order and perhaps on
lines of their own.
-/

namespace ToolBridge.Keys

open ToolBridge.Text

/-- A key with its digits, and the bytes they take. -/
structure Written where
  digits : List Char
  span : ByteSpan
  deriving DecidableEq, Repr

/-- The digits that follow the key at the head of the text. -/
def readHere (key text : List Char) : Option (List Char) :=
  match after? key text with
  | some rest =>
      match rest.takeWhile isDecimal with
      | [] => none
      | digit :: digits => some (digit :: digits)
  | none => none

/-- The first place where the key is followed by digits. -/
def find (key : List Char) : Nat → List Char → Option Written
  | _, [] => none
  | offset, c :: cs =>
      match readHere key (c :: cs) with
      | some digits =>
          some
            { digits
              span := ⟨offset, offset + utf8Length (key ++ digits)⟩ }
      | none => find key (offset + c.utf8Size) cs

def lineKey : List Char := "line=".toList

def columnKey : List Char := "column=".toList

/-- The location of the first line key and the first column key, if both are
there and both numbers have a value. -/
def locate (text : List Char) : Option Location :=
  match find lineKey 0 text, find columnKey 0 text with
  | some line, some column =>
      match readNumber? line.digits, readNumber? column.digits with
      | some lineNumber, some columnNumber =>
          some
            { line := lineNumber
              column := columnNumber
              file := none
              grammar := .keyValue
              span :=
                ⟨min line.span.start column.span.start,
                 max line.span.stop column.span.stop⟩ }
      | _, _ => none
  | _, _ => none

end ToolBridge.Keys
