import ToolBridge.Location.Basic
import ToolBridge.Text.Lines
import ToolBridge.Text.Literal
import ToolBridge.Text.Number
import ToolBridge.Text.Units

/-!
# Source paths

`/hw/model.frg:12:3:` is a run of separators, a file name with the source
extension, a line and a column, with an optional colon at the end.  A name
holds neither separators nor white space; it may hold colons, dots and the
extension itself.

In a piece of text without line breaks the locator that starts first is taken,
with the longest name at that place.  The directory in front of the last
separators is not part of it.
-/

namespace ToolBridge.SourcePath

open ToolBridge.Text

def isNameChar (c : Char) : Bool :=
  !isSeparator c && !isBlank c

/-- A locator as it stands in the text. -/
structure Written where
  separators : List Char
  name : List Char
  line : List Char
  column : List Char
  colon : Bool
  deriving DecidableEq, Repr

namespace Written

def file (extension : List Char) (written : Written) : List Char :=
  written.name ++ '.' :: extension

def text (extension : List Char) (written : Written) : List Char :=
  written.separators ++ written.file extension ++ ':' :: written.line ++
    ':' :: written.column ++ if written.colon then [':'] else []

/-- The location, when both numbers have a value. -/
def location? (extension : List Char) (offset : Nat) (written : Written) :
    Option Location :=
  match readNumber? written.line, readNumber? written.column with
  | some line, some column =>
      some
        { line
          column
          file := some (String.ofList (written.file extension))
          grammar := .sourcePath
          span := ⟨offset, offset + utf8Length (written.text extension)⟩ }
  | _, _ => none

end Written

/-- Line, column and closing colon, just after the extension. -/
def readPosition (text : List Char) : Option (List Char × List Char × Bool) :=
  match text with
  | ':' :: rest =>
      let line := rest.takeWhile isDecimal
      match line, rest.dropWhile isDecimal with
      | _ :: _, ':' :: rest =>
          let column := rest.takeWhile isDecimal
          match column with
          | [] => none
          | _ :: _ =>
              some (line, column, (rest.dropWhile isDecimal).head? == some ':')
      | _, _ => none
  | _ => none

/-- The extension and what follows it, after an empty rest of a name. -/
def readExtension (extension text : List Char) : Option Written :=
  match after? ('.' :: extension) text with
  | some rest =>
      match readPosition rest with
      | some (line, column, colon) => some ⟨[], [], line, column, colon⟩
      | none => none
  | none => none

/-- The longest name with what follows it. -/
def readName (extension : List Char) : List Char → Option Written
  | [] => none
  | c :: cs =>
      let longer :=
        if isNameChar c then
          (readName extension cs).map fun written =>
            { written with name := c :: written.name }
        else none
      match longer with
      | some written => some written
      | none => readExtension extension (c :: cs)

/-- A locator that starts at the head of the text. -/
def readHere (extension : List Char) : List Char → Option Written
  | [] => none
  | c :: cs =>
      if isSeparator c then
        (readHere extension cs).map fun written =>
          { written with separators := c :: written.separators }
      else readName extension (c :: cs)

/-- The first locator of a text, with the byte offset of its start. -/
def find (extension : List Char) : List Char → Option (Nat × Written)
  | [] => none
  | c :: cs =>
      match readHere extension (c :: cs) with
      | some written => some (0, written)
      | none =>
          (find extension cs).map fun found => (c.utf8Size + found.1, found.2)

/-- What is known of a text after one pass over it: the longest name and the
locator at its head, and the first locator. -/
structure Survey where
  name : Option Written := none
  here : Option Written := none
  first : Option (Nat × Written) := none
  deriving DecidableEq, Repr

/-- The survey of a text with one more character, given the survey of the
text behind it. -/
def Survey.extend (extension : List Char) (c : Char) (cs : List Char)
    (behind : Survey) : Survey :=
  let longer :=
    if isNameChar c then
      behind.name.map fun written => { written with name := c :: written.name }
    else none
  let name :=
    match longer with
    | some written => some written
    | none => readExtension extension (c :: cs)
  let here :=
    if isSeparator c then
      behind.here.map fun written =>
        { written with separators := c :: written.separators }
    else name
  let first :=
    match here with
    | some written => some (0, written)
    | none => behind.first.map fun found => (c.utf8Size + found.1, found.2)
  ⟨name, here, first⟩

/-- Survey a text from its end to its head, so that no part is read twice. -/
def survey (extension : List Char) : List Char → Survey
  | [] => {}
  | c :: cs => (survey extension cs).extend extension c cs

/-- A survey finds what reading at every place would find. -/
theorem survey_eq (extension text : List Char) :
    survey extension text =
      ⟨readName extension text, readHere extension text,
        find extension text⟩ := by
  induction text with
  | nil => rfl
  | cons c cs ih =>
      rw [survey, ih]
      simp only [Survey.extend, readName, readHere, find]

/-- The location that one piece of text without line breaks yields.  A first
locator whose numbers have no value yields nothing. -/
def ofPiece (extension piece : List Char) : Option Location :=
  match (survey extension piece).first with
  | some (offset, written) => written.location? extension offset
  | none => none

/-- The location of the first piece that yields one. -/
def ofPieces (extension : List Char) : Nat → List (List Char) → Option Location
  | _, [] => none
  | offset, piece :: rest =>
      match ofPiece extension piece with
      | some location => some (location.shift offset)
      | none => ofPieces extension (offset + utf8Length piece + 1) rest

/-- The first usable source path of a text. -/
def locate (extension text : List Char) : Option Location :=
  ofPieces extension 0 (pieces text)

end ToolBridge.SourcePath
