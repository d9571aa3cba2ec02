/-!
# Lines

A text is cut into segments that each end with a line feed, the last one
perhaps without it.  The body of a segment is the segment without its line
terminator, which is a line feed or a carriage return and a line feed; a
carriage return is dropped only in front of a line feed.

The cuts are made on any kind of symbol, so that the same definitions serve
characters and bytes.
-/

namespace ToolBridge.Text

/-- Cut after every symbol that ends a segment. -/
def segmentsBy {α : Type} (isEnd : α → Bool) : List α → List (List α)
  | [] => []
  | c :: cs =>
      if isEnd c then [c] :: segmentsBy isEnd cs
      else
        match segmentsBy isEnd cs with
        | [] => [[c]]
        | segment :: rest => (c :: segment) :: rest

/-- A list without its last symbol, if that satisfies the test. -/
def dropLastIf {α : Type} (test : α → Bool) (symbols : List α) : List α :=
  match symbols.getLast? with
  | some last => if test last then symbols.dropLast else symbols
  | none => symbols

/-- A segment without its terminator. -/
def bodyBy {α : Type} (isEnd isReturn : α → Bool) (segment : List α) : List α :=
  match segment.getLast? with
  | some last =>
      if isEnd last then dropLastIf isReturn segment.dropLast else segment
  | none => segment

/-- Cut at every symbol that satisfies the test, without keeping it.  There
is one piece more than there are such symbols. -/
def splitBy {α : Type} (isBreak : α → Bool) : List α → List (List α)
  | [] => [[]]
  | c :: cs =>
      if isBreak c then [] :: splitBy isBreak cs
      else
        match splitBy isBreak cs with
        | [] => [[c]]
        | piece :: rest => (c :: piece) :: rest

/-- The segments of a text, each with its line feed. -/
def segments (text : List Char) : List (List Char) :=
  segmentsBy (· == '\n') text

/-- A segment of a text without its line feed or carriage return and line
feed. -/
def segmentBody (segment : List Char) : List Char :=
  bodyBy (· == '\n') (· == '\r') segment

/-- The lines of a text, without their terminators. -/
def lines (text : List Char) : List (List Char) :=
  (segments text).map segmentBody

/-- A line feed or a carriage return. -/
def isLineBreak (c : Char) : Bool :=
  c == '\n' || c == '\r'

/-- The pieces of a text between line feeds and carriage returns. -/
def pieces (text : List Char) : List (List Char) :=
  splitBy isLineBreak text

/-- Every segment ends where the next one starts: nothing is lost. -/
theorem flatten_segmentsBy {α : Type} (isEnd : α → Bool) (symbols : List α) :
    (segmentsBy isEnd symbols).flatten = symbols := by
  induction symbols with
  | nil => rfl
  | cons c cs ih =>
      by_cases ends : isEnd c = true
      · simp [segmentsBy, ends, ih]
      · cases tail : segmentsBy isEnd cs with
        | nil =>
            simp only [tail, List.flatten_nil] at ih
            simp [segmentsBy, ends, ← ih]
        | cons segment rest =>
            simp only [tail, List.flatten_cons] at ih
            simp [segmentsBy, ends, tail, ih]

theorem flatten_segments (text : List Char) :
    (segments text).flatten = text :=
  flatten_segmentsBy _ text

theorem splitBy_ne_nil {α : Type} (isBreak : α → Bool) (symbols : List α) :
    splitBy isBreak symbols ≠ [] := by
  cases symbols with
  | nil => simp [splitBy]
  | cons c cs =>
      by_cases breaks : isBreak c = true
      · simp [splitBy, breaks]
      · cases tail : splitBy isBreak cs <;> simp [splitBy, breaks, tail]

end ToolBridge.Text
