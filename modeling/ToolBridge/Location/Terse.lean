import ToolBridge.Location.Basic
import ToolBridge.Text.Number
import ToolBridge.Text.Units

/-!
# Terse locations

`module.rkt:3:5:` is any word without colons, perhaps empty, a line, a column
and a colon.
-/

namespace ToolBridge.Terse

open ToolBridge.Text

/-- A terse location as it stands in the text. -/
structure Written where
  word : List Char
  line : List Char
  column : List Char
  deriving DecidableEq, Repr

namespace Written

def text (written : Written) : List Char :=
  written.word ++ ':' :: written.line ++ ':' :: written.column ++ [':']

end Written

/-- The characters of the word. -/
def isWordChar (c : Char) : Bool :=
  !isBlank c && c != ':'

/-- A nonempty run of digits with a colon after it, and the rest. -/
def readDigits (text : List Char) : Option (List Char × List Char) :=
  match text.takeWhile isDecimal, text.dropWhile isDecimal with
  | digit :: digits, ':' :: rest => some (digit :: digits, rest)
  | _, _ => none

/-- Line and column, after an empty rest of a word. -/
def readNumbers (text : List Char) : Option Written :=
  match text with
  | ':' :: rest =>
      match readDigits rest with
      | some (line, rest) =>
          match readDigits rest with
          | some (column, _) => some ⟨[], line, column⟩
          | none => none
      | none => none
  | _ => none

/-- A terse location that starts at the head of the text. -/
def readHere : List Char → Option Written
  | [] => none
  | c :: cs =>
      if isWordChar c then
        (readHere cs).map fun written =>
          { written with word := c :: written.word }
      else readNumbers (c :: cs)

/-- The first terse location of a text, with the byte offset of its start. -/
def find : List Char → Option (Nat × Written)
  | [] => none
  | c :: cs =>
      match readHere (c :: cs) with
      | some written => some (0, written)
      | none => (find cs).map fun found => (c.utf8Size + found.1, found.2)

/-- The terse location at the head of a text and the first one, found in one
pass. -/
def survey : List Char → Option Written × Option (Nat × Written)
  | [] => (none, none)
  | c :: cs =>
      let behind := survey cs
      let here :=
        if isWordChar c then
          behind.1.map fun written =>
            { written with word := c :: written.word }
        else readNumbers (c :: cs)
      let first :=
        match here with
        | some written => some (0, written)
        | none => behind.2.map fun found => (c.utf8Size + found.1, found.2)
      (here, first)

/-- A survey finds what reading at every place would find. -/
theorem survey_eq (text : List Char) : survey text = (readHere text, find text) := by
  induction text with
  | nil => rfl
  | cons c cs ih => simp only [survey, ih, readHere, find]

/-- The location of the first terse mention, if its numbers have a value. -/
def locate (text : List Char) : Option Location :=
  match (survey text).2 with
  | some (offset, written) =>
      match readNumber? written.line, readNumber? written.column with
      | some line, some column =>
          some
            { line
              column
              file := none
              grammar := .terse
              span := ⟨offset, offset + utf8Length written.text⟩ }
      | _, _ => none
  | none => none

end ToolBridge.Terse
