import ToolBridge.Location.Basic
import ToolBridge.Text.Lines
import ToolBridge.Text.Number
import ToolBridge.Text.Units

/-!
# Documents

A document is the full text that the editor handed over for one open or
change, with the identity under which its processes and diagnostics are kept.

Three ways to name a place meet here: the toolchain's line and column, both
counted from one; character offsets into the text; and the editor's position,
a line counted from zero and a character counted in UTF-16 units.  The numbers
of a position have 32 bits, while a text can be of any length.
-/

namespace ToolBridge

open ToolBridge.Text

/-- An editor position. -/
structure Position where
  line : Nat
  character : Nat
  deriving DecidableEq, Repr, Inhabited

namespace Position

/-- Positions are ordered by line and then by character. -/
def before (left right : Position) : Prop :=
  left.line < right.line ∨
    (left.line = right.line ∧ left.character < right.character)

def origin : Position := ⟨0, 0⟩

/-- What is left of two counts in 32 bits each. -/
def truncated (position : Position) : Position :=
  ⟨position.line % numberBound, position.character % numberBound⟩

end Position

/-- A range between two editor positions. -/
structure Extent where
  start : Position
  stop : Position
  deriving DecidableEq, Repr, Inhabited

/-- A half-open range of character offsets. -/
structure CharSpan where
  start : Nat
  stop : Nat
  deriving DecidableEq, Repr, Inhabited

namespace CharSpan

/-- The empty span in front of the first character. -/
def documentStart : CharSpan := ⟨0, 0⟩

def length (span : CharSpan) : Nat :=
  span.stop - span.start

def isEmpty (span : CharSpan) : Bool :=
  span.stop ≤ span.start

/-- A span of at least one character, as far as the text reaches. -/
def widened (total start stop : Nat) : CharSpan :=
  if start < stop then ⟨start, stop⟩ else ⟨start, min (start + 1) total⟩

/-- The span from a column to the end of the line body, in a segment that
starts at the offset `lineStart`. -/
def inSegment (total lineStart column : Nat) (segment : List Char) : CharSpan :=
  let body := (segmentBody segment).length
  widened total (lineStart + min (column - 1) body) (lineStart + body)

def lastCharacter (total : Nat) : CharSpan :=
  widened total (total - 1) (total - 1)

/-- The span in the segment at index `skip` of those that start at
`lineStart`. -/
def inSegments (total column : Nat) : (lineStart skip : Nat) →
    List (List Char) → CharSpan
  | _, _, [] => lastCharacter total
  | lineStart, 0, segment :: _ => inSegment total lineStart column segment
  | lineStart, skip + 1, segment :: rest =>
      inSegments total column (lineStart + segment.length) skip rest

/-- The span that a line and a column of the toolchain stand for.  Line zero
is no place at all, a line past the end is the last character, and a column
past the end of its line is the terminator. -/
def ofPlace (text : List Char) (line column : Nat) : CharSpan :=
  match line with
  | 0 => documentStart
  | line + 1 => inSegments text.length column 0 line (segments text)

end CharSpan

/-- How many lines a text has, a last one without line feed included. -/
def lineCount (text : List Char) : Nat :=
  (segments text).length

/-- The offsets just after each line feed of a text whose first character
has the given offset. -/
def lineStartsAfter : Nat → List Char → List Nat
  | _, [] => []
  | offset, c :: cs =>
      if c = '\n' then (offset + 1) :: lineStartsAfter (offset + 1) cs
      else lineStartsAfter (offset + 1) cs

/-- The offset at which each line starts. -/
def lineTable (text : List Char) : List Nat :=
  0 :: lineStartsAfter 0 text

/-- The editor position of a character offset.  An offset past the end
stands for the end. -/
def positionAt (text : List Char) (offset : Nat) : Position :=
  let begun := (lineTable text).takeWhile fun start => start ≤ offset
  let start := begun.getLast?.getD 0
  Position.truncated
    ⟨begun.length - 1, utf16Length ((text.drop start).take (offset - start))⟩

/-- One snapshot of an editor buffer. -/
structure Document where
  id : String
  version : Int
  text : String
  deriving DecidableEq, Repr, Inhabited

namespace Document

/-- The editor position of a character offset. -/
def positionAt (document : Document) (offset : Nat) : Position :=
  ToolBridge.positionAt document.text.toList offset

def extentOf (document : Document) (span : CharSpan) : Extent :=
  ⟨document.positionAt span.start, document.positionAt span.stop⟩

/-- The characters that a line and a column of the toolchain stand for. -/
def spanOf (document : Document) (line column : Nat) : CharSpan :=
  CharSpan.ofPlace document.text.toList line column

end Document

end ToolBridge
