import ToolBridge.CommandLine.Report
import ToolBridge.Proofs.Document.Places
import ToolBridge.Proofs.Text.Lines

/-!
# Positions of the toolchain's places

The toolchain counts lines and columns from one and in characters, the editor
from zero and in UTF-16 units.  On the way from one to the other the lines are
counted twice: a place is looked up in the segments of the text, and its
position in the table of line starts.  Both are compared here with one
description of a line, by what stands in front of it, its body and its end.

The numbers of a position have 32 bits.  Lines and columns of the toolchain have
them too, so only the units of a very long line can be cut off.
-/

namespace ToolBridge

open ToolBridge.Text

/-! ## Lines -/

inductive LineEnd where
  | feed
  | returnFeed
  /-- The text ends instead. -/
  | missing
  deriving DecidableEq, Repr

def LineEnd.text : LineEnd → List Char
  | feed => ['\n']
  | returnFeed => ['\r', '\n']
  | missing => []

/-- Nothing, or a text that ends with a line feed. -/
def Lined (front : List Char) : Prop :=
  ∀ last, front.getLast? = some last → last = '\n'

/-- A line of a text with as many lines in front of it as its index says.  A
carriage return belongs to the end of a line only in front of a line feed. -/
structure LineAt (text : List Char) (index : Nat) (before body : List Char)
    (ending : LineEnd) (after : List Char) : Prop where
  split : text = before ++ (body ++ ending.text ++ after)
  counted : before.count '\n' = index
  lined : Lined before
  solid : Unbroken (· == '\n') body
  bare : ending = .feed → body.getLast? ≠ some '\r'
  last : ending = .missing → after = [] ∧ body ≠ []

theorem Lined.eq_nil {line : List Char} (lined : Lined line)
    (unbroken : Unbroken (· == '\n') line) : line = [] := by
  cases found : line.getLast? with
  | none => exact List.getLast?_eq_none_iff.mp found
  | some last =>
      obtain rfl := lined last found
      exact absurd (unbroken '\n' (List.mem_of_getLast? found)) (by decide)

theorem Lined.of_append {left right : List Char} (lined : Lined (left ++ right)) :
    Lined right := by
  intro last found
  apply lined last
  rw [List.getLast?_append, found]
  rfl

theorem count_eq_zero {line : List Char} (unbroken : Unbroken (· == '\n') line) :
    line.count '\n' = 0 := by
  apply List.count_eq_zero.mpr
  intro member
  exact absurd (unbroken '\n' member) (by decide)

theorem Lined.behind {line front : List Char} (lined : Lined (line ++ '\n' :: front)) :
    Lined front := by
  rw [List.append_cons] at lined
  exact lined.of_append

theorem count_line_append {line : List Char} (unbroken : Unbroken (· == '\n') line)
    (front : List Char) :
    (line ++ '\n' :: front).count '\n' = front.count '\n' + 1 := by
  rw [List.count_append, List.count_cons_self, count_eq_zero unbroken, Nat.zero_add]

namespace LineAt

variable {text before body after : List Char} {index : Nat} {ending : LineEnd}

theorem cons {line : List Char} (unbroken : Unbroken (· == '\n') line)
    (found : LineAt text index before body ending after) :
    LineAt (line ++ '\n' :: text) (index + 1) (line ++ '\n' :: before) body ending
      after where
  split := by
    rw [found.split]
    simp
  counted := by rw [count_line_append unbroken, found.counted]
  lined := by
    intro last end_
    rw [List.getLast?_append, List.getLast?_cons] at end_
    cases inner : before.getLast? with
    | none => simpa [inner, eq_comm] using end_
    | some other =>
        obtain rfl := found.lined other inner
        simpa [inner, eq_comm] using end_
  solid := found.solid
  bare := found.bare
  last := found.last

theorem first {line : List Char} (unbroken : Unbroken (· == '\n') line)
    (rest : List Char) :
    ∃ body ending, LineAt (line ++ '\n' :: rest) 0 [] body ending rest := by
  by_cases returned : line.getLast? = some '\r'
  · obtain ⟨body, rfl⟩ := List.getLast?_eq_some_iff.mp returned
    refine ⟨body, .returnFeed, by simp [LineEnd.text], rfl, by simp [Lined], ?_,
      by simp, by simp⟩
    intro c member
    exact unbroken c (List.mem_append_left _ member)
  · exact ⟨line, .feed, by simp [LineEnd.text], rfl, by simp [Lined], unbroken,
      fun _ => returned, by simp⟩

end LineAt

theorem exists_lineAt {text : List Char} {index : Nat}
    (counted : index < lineCount text) :
    ∃ before body ending after, LineAt text index before body ending after := by
  induction text using segment_induction (· == '\n') generalizing index with
  | last line unbroken =>
      by_cases telling : line = []
      · subst telling
        cases counted
      · rw [lineCount, segments, segmentsBy_of_unbroken unbroken telling,
          List.length_singleton, Nat.lt_one_iff] at counted
        subst counted
        exact ⟨[], line, .missing, [], by simp [LineEnd.text], rfl,
          by simp [Lined], unbroken, by simp, fun _ => ⟨rfl, telling⟩⟩
  | more line mark rest unbroken ends ih =>
      obtain rfl := beq_iff_eq.mp ends
      cases index with
      | zero =>
          obtain ⟨body, ending, found⟩ := LineAt.first unbroken rest
          exact ⟨[], body, ending, rest, found⟩
      | succ index =>
          rw [lineCount, segments, segmentsBy_append_cons unbroken ends,
            List.length_cons, Nat.add_lt_add_iff_right] at counted
          obtain ⟨before, body, ending, after, found⟩ := ih counted
          exact ⟨_, body, ending, after, found.cons unbroken⟩

/-! ## Segments -/

section Segments

variable {text before body after : List Char} {index : Nat} {ending : LineEnd}

/-- The lines in front are skipped one by one. -/
theorem inSegments_append (total column start : Nat) (lined : Lined before)
    (rest : List Char) :
    CharSpan.inSegments total column start (before.count '\n')
        (segments (before ++ rest)) =
      CharSpan.inSegments total column (start + before.length) 0
        (segments rest) := by
  induction before using segment_induction (· == '\n') generalizing start with
  | last line unbroken =>
      rw [lined.eq_nil unbroken]
      rfl
  | more line mark front unbroken ends ih =>
      obtain rfl := beq_iff_eq.mp ends
      rw [count_line_append unbroken, List.append_assoc, List.cons_append, segments,
        segmentsBy_append_cons unbroken ends, CharSpan.inSegments]
      rw [← segments, ih _ lined.behind]
      congr 1
      simp
      omega

theorem LineAt.segments_eq (found : LineAt text index before body ending after) :
    ∃ others, segments (body ++ ending.text ++ after) =
      (body ++ ending.text) :: others := by
  cases ending with
  | feed =>
      refine ⟨segments after, ?_⟩
      have cut := segmentsBy_append_cons found.solid (beq_self_eq_true '\n') after
      simpa [LineEnd.text, segments] using cut
  | returnFeed =>
      refine ⟨segments after, ?_⟩
      have solid : Unbroken (· == '\n') (body ++ ['\r']) := by
        intro c member
        rcases List.mem_append.mp member with inside | last
        · exact found.solid c inside
        · rw [List.mem_singleton.mp last]
          rfl
      have cut := segmentsBy_append_cons solid (beq_self_eq_true '\n') after
      simpa [LineEnd.text, segments] using cut
  | missing =>
      obtain ⟨rfl, telling⟩ := found.last rfl
      refine ⟨[], ?_⟩
      have whole := segmentsBy_of_unbroken found.solid telling
      simpa [LineEnd.text, segments] using whole

theorem LineAt.segmentBody_eq (found : LineAt text index before body ending after) :
    segmentBody (body ++ ending.text) = body := by
  have dropped {line : List Char} :
      segmentBody (line ++ ['\n']) = dropLastIf (· == '\r') line :=
    bodyBy_terminated rfl line
  cases ending with
  | feed =>
      rw [LineEnd.text, dropped, dropLastIf]
      split
      · rename_i last ends
        rw [if_neg]
        intro returned
        exact found.bare rfl (by rw [ends, beq_iff_eq.mp returned])
      · rfl
  | returnFeed =>
      rw [LineEnd.text, List.append_cons body '\r' ['\n'], dropped]
      simp [dropLastIf]
  | missing =>
      rw [LineEnd.text, List.append_nil]
      exact bodyBy_of_unbroken found.solid

/-- A place on a line goes from its column to the end of the body. -/
theorem LineAt.ofPlace_eq (found : LineAt text index before body ending after)
    (column : Nat) :
    CharSpan.ofPlace text (index + 1) column =
      CharSpan.widened text.length
        (before.length + min (column - 1) body.length)
        (before.length + body.length) := by
  obtain ⟨others, cut⟩ := found.segments_eq
  rw [CharSpan.ofPlace, ← found.counted]
  conv => lhs; rw [found.split]
  rw [inSegments_append _ _ _ found.lined, cut, CharSpan.inSegments,
    CharSpan.inSegment, found.segmentBody_eq, Nat.zero_add, ← found.split]

theorem inSegments_of_length_le {segments : List (List Char)} {skip : Nat}
    (few : segments.length ≤ skip) (total column start : Nat) :
    CharSpan.inSegments total column start skip segments =
      CharSpan.lastCharacter total := by
  induction segments generalizing start skip with
  | nil => rw [CharSpan.inSegments]
  | cons segment rest ih =>
      cases skip with
      | zero => cases few
      | succ skip =>
          rw [CharSpan.inSegments]
          exact ih (Nat.le_of_succ_le_succ few) _

end Segments

/-! ## The table of line starts -/

theorem lineStartsAfter_append (offset : Nat) (left right : List Char) :
    lineStartsAfter offset (left ++ right) =
      lineStartsAfter offset left ++
        lineStartsAfter (offset + left.length) right := by
  induction left generalizing offset with
  | nil => rfl
  | cons c left ih =>
      have moved : offset + 1 + left.length = offset + (c :: left).length := by
        rw [List.length_cons]
        omega
      rw [List.cons_append, lineStartsAfter, lineStartsAfter, ih, moved]
      split
      · rfl
      · rfl

theorem length_lineStartsAfter (offset : Nat) (text : List Char) :
    (lineStartsAfter offset text).length = text.count '\n' := by
  induction text generalizing offset with
  | nil => rfl
  | cons c text ih =>
      rw [lineStartsAfter]
      split
      · rename_i feed
        rw [List.length_cons, ih, feed, List.count_cons_self]
      · rename_i other
        rw [ih, List.count_cons_of_ne other]

/-- The lines that start up to an offset are those of the text in front of
it. -/
theorem takeWhile_lineStartsAfter (start offset : Nat) (text : List Char) :
    (lineStartsAfter start text).takeWhile (fun begun => begun ≤ offset) =
      lineStartsAfter start (text.take (offset - start)) := by
  induction text generalizing start with
  | nil => simp [lineStartsAfter]
  | cons c text ih =>
      by_cases within : start + 1 ≤ offset
      · obtain ⟨left, step⟩ : ∃ left, offset - start = left + 1 :=
          ⟨offset - start - 1, by omega⟩
        have rest := ih (start + 1)
        rw [show offset - (start + 1) = left by omega] at rest
        rw [step, List.take_succ_cons, lineStartsAfter, lineStartsAfter]
        split
        · rw [List.takeWhile_cons_of_pos (by simpa using within), rest]
        · exact rest
      · rw [show offset - start = 0 by omega, List.take_zero, lineStartsAfter]
        cases table : lineStartsAfter start (c :: text) with
        | nil => rfl
        | cons begun others =>
            have member : begun ∈ lineStartsAfter start (c :: text) := by
              rw [table]
              exact List.mem_cons_self
            have late := lt_of_mem_lineStartsAfter member
            apply List.takeWhile_cons_of_neg
            simp only [decide_eq_true_eq]
            omega

theorem lineStartsAfter_of_unbroken {line : List Char}
    (unbroken : Unbroken (· == '\n') line) (offset : Nat) :
    lineStartsAfter offset line = [] := by
  apply List.eq_nil_of_length_eq_zero
  rw [length_lineStartsAfter, count_eq_zero unbroken]

theorem getLast?_lineTable {front line : List Char} (lined : Lined front)
    (unbroken : Unbroken (· == '\n') line) :
    (lineTable (front ++ line)).getLast? = some front.length := by
  rw [lineTable, lineStartsAfter_append, lineStartsAfter_of_unbroken unbroken,
    List.append_nil]
  cases found : front.getLast? with
  | none =>
      rw [List.getLast?_eq_none_iff.mp found]
      rfl
  | some last =>
      obtain rfl := lined last found
      obtain ⟨before, rfl⟩ := List.getLast?_eq_some_iff.mp found
      have ends : lineStartsAfter (0 + before.length) ['\n'] =
          [before.length + 1] := by
        simp [lineStartsAfter]
      rw [lineStartsAfter_append, ends, ← List.cons_append, List.getLast?_concat,
        List.length_append, List.length_singleton]

/-- The position of an offset, by the text in front of it: its line is counted in
line feeds, and its character behind the last of them. -/
theorem positionAt_eq {text front line : List Char} {offset : Nat}
    (cut : text.take offset = front ++ line) (lined : Lined front)
    (unbroken : Unbroken (· == '\n') line) :
    positionAt text offset =
      Position.truncated ⟨front.count '\n', utf16Length line⟩ := by
  have begun : (lineTable text).takeWhile (fun start => start ≤ offset) =
      lineTable (front ++ line) := by
    rw [lineTable, List.takeWhile_cons_of_pos (by simp),
      takeWhile_lineStartsAfter, Nat.sub_zero, cut]
    rfl
  have counted : (lineTable (front ++ line)).length = front.count '\n' + 1 := by
    rw [lineTable, List.length_cons, length_lineStartsAfter, List.count_append,
      count_eq_zero unbroken, Nat.add_zero]
  have part : (text.drop front.length).take (offset - front.length) = line := by
    rw [← List.drop_take, cut, List.drop_left]
  rw [positionAt, begun, getLast?_lineTable lined unbroken, counted]
  simp only [Option.getD_some, Nat.add_sub_cancel, part]

/-! ## Places and positions -/

/-- The position one character behind the body of a line, as far as the text
reaches. -/
def LineEnd.position (index : Nat) (body : List Char) : LineEnd → Position
  | feed => ⟨index + 1, 0⟩
  | returnFeed => ⟨index, utf16Length body + 1⟩
  | missing => ⟨index, utf16Length body⟩

namespace LineAt

variable {text before body after : List Char} {index : Nat} {ending : LineEnd}

theorem length_eq (found : LineAt text index before body ending after) :
    text.length =
      before.length + body.length + ending.text.length + after.length := by
  rw [found.split]
  simp only [List.length_append]
  omega

theorem positionAt_body (found : LineAt text index before body ending after)
    {column : Nat} (inside : column ≤ body.length) :
    positionAt text (before.length + column) =
      Position.truncated ⟨index, utf16Length (body.take column)⟩ := by
  have cut : text.take (before.length + column) = before ++ body.take column := by
    rw [found.split, List.take_length_add_append, List.append_assoc,
      List.take_append_of_le_length inside]
  have unbroken : Unbroken (· == '\n') (body.take column) := by
    intro c member
    exact found.solid c (List.mem_of_mem_take member)
  rw [positionAt_eq cut found.lined unbroken, found.counted]

theorem positionAt_end (found : LineAt text index before body ending after) :
    positionAt text (min (before.length + body.length + 1) text.length) =
      (ending.position index body).truncated := by
  have whole := found.length_eq
  cases ending with
  | feed =>
      -- One character further is the start of the next line.
      have inside : before.length + body.length + 1 ≤ text.length := by
        rw [whole]
        simp only [LineEnd.text, List.length_singleton]
        omega
      have cut : text.take (before.length + body.length + 1) =
          (before ++ body ++ ['\n']) ++ [] := by
        rw [found.split, LineEnd.text, ← List.append_assoc, ← List.append_assoc,
          List.append_nil]
        apply List.take_left'
        simp
        omega
      have lined : Lined (before ++ body ++ ['\n']) := by
        intro last ends
        simpa [eq_comm] using ends
      have counted : (before ++ body ++ ['\n']).count '\n' = index + 1 := by
        rw [List.count_append, List.count_append, found.counted,
          count_eq_zero found.solid]
        rfl
      rw [Nat.min_eq_left inside,
        positionAt_eq cut lined (by simp [Unbroken]), counted]
      rfl
  | returnFeed =>
      -- The carriage return is a character of the line for the editor.
      have inside : before.length + body.length + 1 ≤ text.length := by
        rw [whole]
        simp only [LineEnd.text, List.length_cons]
        omega
      have cut : text.take (before.length + body.length + 1) =
          before ++ (body ++ ['\r']) := by
        rw [found.split, LineEnd.text, List.append_cons body '\r' ['\n'],
          List.append_assoc _ ['\n'], ← List.append_assoc]
        apply List.take_left'
        simp
        omega
      have unbroken : Unbroken (· == '\n') (body ++ ['\r']) := by
        intro c member
        rcases List.mem_append.mp member with inBody | last
        · exact found.solid c inBody
        · rw [List.mem_singleton.mp last]
          rfl
      rw [Nat.min_eq_left inside, positionAt_eq cut found.lined unbroken,
        found.counted, utf16Length_append]
      rfl
  | missing =>
      obtain ⟨rfl, _⟩ := found.last rfl
      have total : min (before.length + body.length + 1) text.length =
          before.length + body.length := by
        rw [whole]
        simp [LineEnd.text]
      rw [total, found.positionAt_body (Nat.le_refl _), List.take_length]
      rfl

end LineAt

/-! ## Characters and units -/

theorem utf16Size_eq_one_iff {c : Char} : utf16Size c = 1 ↔ c.toNat < 0x10000 := by
  by_cases single : c.toNat < 0x10000
  · simp [utf16Size, single]
  · simp [utf16Size, single]

theorem length_le_utf16Length (text : List Char) : text.length ≤ utf16Length text := by
  induction text with
  | nil => exact Nat.le_refl _
  | cons c text ih =>
      have size : 1 ≤ utf16Size c := by
        unfold utf16Size
        split
        · exact Nat.le_refl _
        · exact Nat.le_succ _
      rw [List.length_cons, utf16Length]
      omega

/-- Characters and units count the same exactly if no character takes two
units. -/
theorem utf16Length_eq_length_iff {text : List Char} :
    utf16Length text = text.length ↔ ∀ c ∈ text, utf16Size c = 1 := by
  induction text with
  | nil => simp [utf16Length]
  | cons c text ih =>
      have rest := length_le_utf16Length text
      have first := length_le_utf16Length [c]
      simp only [utf16Length, List.length_singleton] at first
      rw [utf16Length, List.length_cons, List.forall_mem_cons, ← ih]
      omega

theorem utf16Length_of_basic {text : List Char}
    (basic : ∀ c ∈ text, c.toNat < 0x10000) : utf16Length text = text.length :=
  utf16Length_eq_length_iff.mpr fun c member =>
    utf16Size_eq_one_iff.mpr (basic c member)

/-- The position at which a place ends that starts so many characters behind the
start of a line: the end of the body, or one character further if the body ends in
front of it. -/
def LineEnd.stop (ending : LineEnd) (index : Nat) (body : List Char) (reach : Nat) :
    Position :=
  if reach < body.length then ⟨index, utf16Length body⟩
  else ending.position index body

/-- What a place of the toolchain comes to in a document. -/
structure Resolves (document : Document) (line column : Nat) : Prop where
  /-- The lines are those that are counted. -/
  known : 1 ≤ line → line ≤ lineCount document.text.toList →
    ∃ before body ending after,
      LineAt document.text.toList (line - 1) before body ending after
  located : ∀ {before body ending after}, 1 ≤ line →
    LineAt document.text.toList (line - 1) before body ending after →
    let span := document.spanOf line column
    let reach := min (max column 1 - 1) body.length
    span.start = before.length + reach ∧
      (document.extentOf span).start =
        Position.truncated ⟨line - 1, utf16Length (body.take reach)⟩ ∧
      (document.extentOf span).stop =
        (ending.stop (line - 1) body reach).truncated
  /-- Nothing is cut off from a line of the toolchain, nor from a character on a
  line with fewer units than 32 bits can count. -/
  exact : ∀ {before body ending after}, 1 ≤ line → line < numberBound →
    LineAt document.text.toList (line - 1) before body ending after →
    let extent := document.extentOf (document.spanOf line column)
    let reach := min (max column 1 - 1) body.length
    extent.start.line = line - 1 ∧
      (utf16Length (body ++ ending.text) < numberBound →
        extent.start = ⟨line - 1, utf16Length (body.take reach)⟩ ∧
          extent.stop = ending.stop (line - 1) body reach)
  inside : (document.spanOf line column).Within document.text.toList.length
  /-- A line past the end stands for the last character. -/
  beyond : lineCount document.text.toList < line →
    document.text.toList ≠ [] →
    document.spanOf line column =
      ⟨document.text.toList.length - 1, document.text.toList.length⟩
  /-- What is printed is the place itself, as long as every character in front
  of it takes one unit. -/
  printed : ∀ {before body ending after}, 1 ≤ line →
    LineAt document.text.toList (line - 1) before body ending after →
    line < numberBound → column < numberBound → column ≤ body.length + 1 →
    (∀ c ∈ body.take (column - 1), c.toNat < 0x10000) →
    ∀ file location message severity source channel,
      location.line = line → location.column = column →
      let report := CommandLine.Report.ofDiagnostic file
        (Diagnostic.resolve document (some location) message severity source
          channel)
      report.line = line ∧ report.column = max column 1 ∧
        ∀ colors, ∃ rest, report.text colors =
          CommandLine.paint colors .bold file ++ ":" ++ numeral line ++ ":" ++
            numeral (max column 1) ++ ": " ++ rest

section

variable {document : Document} {before body after : List Char} {index : Nat}
  {ending : LineEnd}

theorem LineAt.start_eq
    (found : LineAt document.text.toList index before body ending after)
    (column : Nat) :
    (document.spanOf (index + 1) column).start =
        before.length + min (column - 1) body.length ∧
      (document.extentOf (document.spanOf (index + 1) column)).start =
        Position.truncated
          ⟨index, utf16Length (body.take (min (column - 1) body.length))⟩ := by
  have start : (document.spanOf (index + 1) column).start =
      before.length + min (column - 1) body.length := by
    rw [Document.spanOf, found.ofPlace_eq, CharSpan.widened]
    split
    · rfl
    · rfl
  refine ⟨start, ?_⟩
  rw [Document.extentOf, Document.positionAt, start]
  exact found.positionAt_body (Nat.min_le_right _ _)

theorem LineAt.stop_eq
    (found : LineAt document.text.toList index before body ending after)
    (column : Nat) :
    (document.extentOf (document.spanOf (index + 1) column)).stop =
      (ending.stop index body (min (column - 1) body.length)).truncated := by
  rw [Document.extentOf, Document.positionAt, Document.spanOf, found.ofPlace_eq,
    CharSpan.widened, LineEnd.stop]
  by_cases inside : min (column - 1) body.length < body.length
  · rw [if_pos (Nat.add_lt_add_left inside _), if_pos inside]
    have position := found.positionAt_body (Nat.le_refl body.length)
    rw [List.take_length] at position
    exact position
  · have reached : min (column - 1) body.length = body.length := by omega
    rw [reached, if_neg (Nat.lt_irrefl _), if_neg (Nat.lt_irrefl _)]
    exact found.positionAt_end

theorem LineAt.report_eq
    (found : LineAt document.text.toList index before body ending after)
    {column : Nat} (lineFits : index + 1 < numberBound)
    (columnFits : column < numberBound) (short : column ≤ body.length + 1)
    (basic : ∀ c ∈ body.take (column - 1), c.toNat < 0x10000) :
    (document.extentOf (document.spanOf (index + 1) column)).start =
      ⟨index, column - 1⟩ := by
  have reached : min (column - 1) body.length = column - 1 := by omega
  rw [(found.start_eq column).2, reached, utf16Length_of_basic basic,
    List.length_take, reached]
  exact Position.truncated_of_sized
    ⟨Nat.lt_of_succ_lt lineFits, Nat.lt_of_le_of_lt (Nat.sub_le _ _) columnFits⟩

/-- On a line with fewer units than 32 bits can count, both ends of a place have a
place in 32 bits. -/
theorem LineAt.sized (lineFits : index + 1 < numberBound)
    (short : utf16Length (body ++ ending.text) < numberBound) (reach : Nat) :
    Position.Sized ⟨index, utf16Length (body.take reach)⟩ ∧
      (ending.stop index body reach).Sized := by
  have lineSized : index < numberBound := Nat.lt_of_succ_lt lineFits
  rw [utf16Length_append] at short
  have whole : utf16Length body < numberBound := by omega
  constructor
  · exact ⟨lineSized, Nat.lt_of_le_of_lt
      (utf16Length_mono (List.take_prefix reach body).isInfix) whole⟩
  · unfold LineEnd.stop
    split
    · exact ⟨lineSized, whole⟩
    · cases ending with
      | feed => exact ⟨lineFits, (by decide : 0 < numberBound)⟩
      | returnFeed =>
          have units : utf16Length LineEnd.returnFeed.text = 2 := by decide
          refine ⟨lineSized, ?_⟩
          change utf16Length body + 1 < numberBound
          omega
      | missing => exact ⟨lineSized, whole⟩

end

end ToolBridge
