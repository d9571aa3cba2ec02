import ToolBridge.Text.Lines
import ToolBridge.Text.Trim

/-!
# Cutting into lines

A list is one line without an end, or a line with its end and more lines
after it.  What the cuts of a text do to such a line is said here once.
-/

namespace ToolBridge.Text

variable {α : Type} {isEnd isReturn : α → Bool} {line rest : List α} {mark : α}

/-- No symbol of the list ends a segment. -/
def Unbroken (isEnd : α → Bool) (line : List α) : Prop :=
  ∀ symbol ∈ line, isEnd symbol = false

theorem Unbroken.head {c : α} (unbroken : Unbroken isEnd (c :: line)) :
    isEnd c = false :=
  unbroken c List.mem_cons_self

theorem Unbroken.tail {c : α} (unbroken : Unbroken isEnd (c :: line)) :
    Unbroken isEnd line :=
  fun symbol member => unbroken symbol (List.mem_cons_of_mem c member)

/-- A list is one line without an end, or a line with its end and more lines
after it. -/
theorem segment_induction {motive : List α → Prop} (isEnd : α → Bool)
    (last : ∀ line, Unbroken isEnd line → motive line)
    (more : ∀ line mark rest, Unbroken isEnd line → isEnd mark = true →
      motive rest → motive (line ++ mark :: rest)) (symbols : List α) :
    motive symbols := by
  -- The recursion goes symbol by symbol, so it carries the first line with it.
  have whole {symbols : List α}
      (split : Unbroken isEnd symbols ∨ ∃ line mark rest,
        symbols = line ++ mark :: rest ∧ Unbroken isEnd line ∧
          isEnd mark = true ∧ motive rest) : motive symbols := by
    rcases split with unbroken | ⟨line, mark, rest, rfl, unbroken, ends, holds⟩
    · exact last symbols unbroken
    · exact more line mark rest unbroken ends holds
  apply whole
  induction symbols with
  | nil => exact Or.inl (by simp [Unbroken])
  | cons c symbols ih =>
      cases ends : isEnd c with
      | true =>
          exact Or.inr ⟨[], c, symbols, rfl, by simp [Unbroken], ends, whole ih⟩
      | false =>
          rcases ih with unbroken | ⟨line, mark, rest, rfl, unbroken, found, holds⟩
          · exact Or.inl (by simpa [Unbroken, ends] using unbroken)
          · exact Or.inr ⟨c :: line, mark, rest, rfl,
              by simpa [Unbroken, ends] using unbroken, found, holds⟩

theorem segmentsBy_of_unbroken (unbroken : Unbroken isEnd line)
    (telling : line ≠ []) : segmentsBy isEnd line = [line] := by
  induction line with
  | nil => exact absurd rfl telling
  | cons c line ih =>
      cases line with
      | nil => simp [segmentsBy, unbroken.head]
      | cons d line =>
          rw [segmentsBy, ih unbroken.tail (by simp),
            if_neg (by simp [unbroken.head])]

theorem segmentsBy_append_cons (unbroken : Unbroken isEnd line)
    (ends : isEnd mark = true) (rest : List α) :
    segmentsBy isEnd (line ++ mark :: rest) =
      (line ++ [mark]) :: segmentsBy isEnd rest := by
  induction line with
  | nil => simp [segmentsBy, ends]
  | cons c line ih =>
      rw [List.cons_append, segmentsBy, ih unbroken.tail,
        if_neg (by simp [unbroken.head])]
      rfl

theorem bodyBy_terminated (ends : isEnd mark = true) (line : List α) :
    bodyBy isEnd isReturn (line ++ [mark]) = dropLastIf isReturn line := by
  simp [bodyBy, ends]

theorem bodyBy_of_unbroken (unbroken : Unbroken isEnd line) :
    bodyBy isEnd isReturn line = line := by
  unfold bodyBy
  split
  · rename_i last found
    rw [if_neg]
    simp [unbroken last (List.mem_of_getLast? found)]
  · rfl

theorem lines_of_unbroken {text : List Char} (unbroken : Unbroken (· == '\n') text)
    (telling : text ≠ []) : lines text = [text] := by
  rw [lines, segments, segmentsBy_of_unbroken unbroken telling, List.map_singleton,
    segmentBody, bodyBy_of_unbroken unbroken]

theorem lines_append_cons {text : List Char} (unbroken : Unbroken (· == '\n') text)
    (rest : List Char) :
    lines (text ++ '\n' :: rest) = dropLastIf (· == '\r') text :: lines rest := by
  rw [lines, segments, segmentsBy_append_cons unbroken (by rfl), List.map_cons,
    segmentBody, bodyBy_terminated (by rfl)]
  rfl

/-! ## Pieces -/

theorem splitBy_append_cons {isBreak : α → Bool}
    (breaks : isBreak mark = true) (left right : List α) :
    splitBy isBreak (left ++ mark :: right) =
      splitBy isBreak left ++ splitBy isBreak right := by
  induction left with
  | nil => simp [splitBy, breaks]
  | cons c left ih =>
      rw [List.cons_append, splitBy, splitBy, ih]
      split
      · rfl
      · cases first : splitBy isBreak left with
        | nil => exact absurd first (splitBy_ne_nil isBreak left)
        | cons piece rest => rfl

theorem splitBy_of_unbroken {isBreak : α → Bool} {symbols : List α}
    (unbroken : Unbroken isBreak symbols) :
    splitBy isBreak symbols = [symbols] := by
  induction symbols with
  | nil => rfl
  | cons c symbols ih =>
      have rest := ih fun symbol member =>
        unbroken symbol (List.mem_cons_of_mem c member)
      simp [splitBy, unbroken c List.mem_cons_self, rest]

theorem beforeFirst_append {test : α → Bool} (unbroken : Unbroken test line)
    (rest : List α) :
    beforeFirst test (line ++ rest) = line ++ beforeFirst test rest := by
  apply List.takeWhile_append_of_pos
  intro symbol member
  simp [unbroken symbol member]

theorem splitBy_eq_cons (isBreak : α → Bool) (symbols : List α) :
    ∃ others, splitBy isBreak symbols =
      beforeFirst isBreak symbols :: others := by
  induction symbols with
  | nil => exact ⟨[], rfl⟩
  | cons c symbols ih =>
      obtain ⟨others, pieces⟩ := ih
      cases breaks : isBreak c with
      | true =>
          exact ⟨splitBy isBreak symbols, by simp [splitBy, beforeFirst, breaks]⟩
      | false => exact ⟨others, by simp [splitBy, beforeFirst, breaks, pieces]⟩

/-! ## The last component -/

/-- What stands in front of the part after the last mark. -/
theorem dropEndWhile_append_afterLast (test : α → Bool) (symbols : List α) :
    dropEndWhile (fun symbol => !test symbol) symbols ++ afterLast test symbols =
      symbols := by
  unfold dropEndWhile afterLast
  rw [← List.reverse_append, List.takeWhile_append_dropWhile, List.reverse_reverse]

theorem unbroken_afterLast (test : α → Bool) (symbols : List α) :
    Unbroken test (afterLast test symbols) := by
  intro symbol member
  have passes := List.all_takeWhile (l := symbols.reverse)
    (p := fun symbol => !test symbol)
  unfold afterLast at member
  simpa using List.all_eq_true.mp passes symbol (List.mem_reverse.mp member)

theorem afterLast_of_unbroken {test : α → Bool} (unbroken : Unbroken test line) :
    afterLast test line = line := by
  have passes : ∀ symbol ∈ line.reverse, (!test symbol) = true := by
    intro symbol member
    rw [unbroken symbol (List.mem_reverse.mp member), Bool.not_false]
  have whole : (line.reverse ++ []).takeWhile (fun symbol => !test symbol) =
      line.reverse ++ [] := List.takeWhile_append_of_pos passes
  rw [List.append_nil] at whole
  rw [afterLast, whole, List.reverse_reverse]

theorem afterLast_append_cons {test : α → Bool} (ends : test mark = true)
    (unbroken : Unbroken test rest) (front : List α) :
    afterLast test (front ++ mark :: rest) = rest := by
  have passes : ∀ symbol ∈ rest.reverse, (!test symbol) = true := by
    intro symbol member
    rw [unbroken symbol (List.mem_reverse.mp member), Bool.not_false]
  rw [afterLast, List.reverse_append, List.reverse_cons, List.append_assoc,
    List.takeWhile_append_of_pos passes]
  simp [ends]

/-- The part in front ends with a mark, if there is one. -/
theorem dropEndWhile_eq_nil_or (test : α → Bool) (symbols : List α) :
    dropEndWhile (fun symbol => !test symbol) symbols = [] ∨
      ∃ before mark, test mark = true ∧
        dropEndWhile (fun symbol => !test symbol) symbols = before ++ [mark] := by
  unfold dropEndWhile
  cases left : symbols.reverse.dropWhile fun symbol => !test symbol with
  | nil => exact Or.inl rfl
  | cons mark before =>
      have stops := List.head?_dropWhile_not (fun symbol => !test symbol)
        symbols.reverse
      rw [left] at stops
      exact Or.inr ⟨before.reverse, mark, by simpa using stops, by simp⟩

end ToolBridge.Text
