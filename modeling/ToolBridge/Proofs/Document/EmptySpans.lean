import ToolBridge.Proofs.Document.Positions

/-!
# Empty spans

A diagnostic without a place stands in front of the first character and covers
nothing, and by that alone it is told from all others.  A place can cover nothing
too, behind the last character of a text that no line feed ends.  It does not
stand in front of the first character there, unless the text is empty.
-/

namespace ToolBridge

open ToolBridge.Text

namespace CharSpan

theorem isEmpty_iff {span : CharSpan} :
    span.isEmpty = true ↔ span.stop ≤ span.start :=
  decide_eq_true_iff

theorem start_widened (total start stop : Nat) :
    (widened total start stop).start = start := by
  unfold widened
  split
  · rfl
  · rfl

/-- Only at the end of the text a span cannot be widened. -/
theorem isEmpty_widened {total start stop : Nat} (inside : start ≤ total) :
    (widened total start stop).isEmpty = true ↔ stop ≤ start ∧ start = total := by
  rw [isEmpty_iff]
  unfold widened
  split
  · rename_i ordered
    dsimp only
    omega
  · rename_i reached
    dsimp only
    omega

theorem ofPlace_nil (line column : Nat) : ofPlace [] line column = documentStart := by
  cases line with
  | zero => rfl
  | succ line =>
      rw [ofPlace, segments, segmentsBy, inSegments]
      rfl

theorem isEmpty_lastCharacter {total : Nat} :
    (lastCharacter total).isEmpty = true ↔ total = 0 := by
  rw [lastCharacter, isEmpty_widened (Nat.sub_le _ _)]
  omega

end CharSpan

/-! ## The last line -/

theorem lineCount_append {front : List Char} (lined : Lined front)
    (rest : List Char) :
    lineCount (front ++ rest) = front.count '\n' + lineCount rest := by
  induction front using segment_induction (· == '\n') with
  | last line unbroken =>
      rw [lined.eq_nil unbroken]
      exact (Nat.zero_add _).symm
  | more line mark front unbroken ends ih =>
      obtain rfl := beq_iff_eq.mp ends
      have step : lineCount (line ++ '\n' :: (front ++ rest)) =
          lineCount (front ++ rest) + 1 := by
        rw [lineCount, segments, segmentsBy_append_cons unbroken ends,
          List.length_cons]
        rfl
      rw [List.append_assoc, List.cons_append, step, ih lined.behind,
        count_line_append unbroken]
      omega

/-- The last line of a text, if no line feed ends it. -/
structure OpenLine (text : List Char) (line : Nat) (body : List Char) : Prop where
  last : line = lineCount text
  stands : ∃ before, LineAt text (line - 1) before body .missing []

namespace LineAt

variable {text before body after : List Char} {index : Nat} {ending : LineEnd}

theorem openLine (found : LineAt text index before body .missing after) :
    OpenLine text (index + 1) body := by
  obtain ⟨rfl, telling⟩ := found.last rfl
  have alone : lineCount body = 1 := by
    rw [lineCount, segments, segmentsBy_of_unbroken found.solid telling]
    rfl
  have split : text = before ++ body := by
    have split := found.split
    rwa [LineEnd.text, List.append_nil, List.append_nil] at split
  refine ⟨?_, before, found⟩
  rw [split, lineCount_append found.lined, alone, found.counted]

/-- The body of a line goes up to the end of the text exactly if no terminator
follows it. -/
theorem body_ends_iff (found : LineAt text index before body ending after) :
    before.length + body.length = text.length ↔ ending = .missing := by
  have whole := found.length_eq
  cases ending with
  | feed =>
      simp only [LineEnd.text, List.length_singleton] at whole
      simp only [reduceCtorEq, iff_false]
      omega
  | returnFeed =>
      simp only [LineEnd.text, List.length_cons] at whole
      simp only [reduceCtorEq, iff_false]
      omega
  | missing =>
      obtain ⟨rfl, _⟩ := found.last rfl
      simpa [LineEnd.text, eq_comm] using whole

theorem isEmpty_ofPlace (found : LineAt text index before body ending after)
    (column : Nat) :
    (CharSpan.ofPlace text (index + 1) column).isEmpty = true ↔
      ending = .missing ∧ body.length ≤ column - 1 := by
  have whole := found.length_eq
  have inside : before.length + min (column - 1) body.length ≤ text.length := by
    omega
  rw [found.ofPlace_eq, CharSpan.isEmpty_widened inside, ← found.body_ends_iff]
  omega

end LineAt

/-- A place covers nothing if it is none, if there is nothing to cover, or if it
lies behind the last line and no line feed ends that. -/
theorem isEmpty_ofPlace_iff (text : List Char) (line column : Nat) :
    (CharSpan.ofPlace text line column).isEmpty = true ↔
      line = 0 ∨ text = [] ∨
        ∃ body, OpenLine text line body ∧ body.length ≤ column - 1 := by
  cases line with
  | zero => simp [CharSpan.ofPlace, CharSpan.isEmpty_iff, CharSpan.documentStart]
  | succ index =>
      by_cases counted : index < lineCount text
      · obtain ⟨before, body, ending, after, found⟩ := exists_lineAt counted
        have telling : text ≠ [] := by
          rintro rfl
          cases counted
        rw [found.isEmpty_ofPlace]
        constructor
        · rintro ⟨rfl, reached⟩
          exact Or.inr (Or.inr ⟨body, found.openLine, reached⟩)
        · rintro (nowhere | empty | ⟨other, ⟨_, front, stands⟩, reached⟩)
          · cases nowhere
          · exact absurd empty telling
          · -- The same place is looked at from both descriptions of the line.
            have empty := (stands.isEmpty_ofPlace column).mpr ⟨rfl, reached⟩
            exact (found.isEmpty_ofPlace column).mp empty
      · have past : CharSpan.ofPlace text (index + 1) column =
            CharSpan.lastCharacter text.length := by
          rw [CharSpan.ofPlace, inSegments_of_length_le (Nat.le_of_not_lt counted)]
        rw [past, CharSpan.isEmpty_lastCharacter, List.length_eq_zero_iff]
        constructor
        · intro empty
          exact Or.inr (Or.inl empty)
        · rintro (nowhere | empty | ⟨body, ⟨last, _⟩, _⟩)
          · cases nowhere
          · exact empty
          · omega

-- Without a line feed behind it, a carriage return is a character of the line.
example : CharSpan.ofPlace "sig\nab\r".toList 2 3 = ⟨6, 7⟩ ∧
    CharSpan.ofPlace "sig\nab\r".toList 2 4 = ⟨7, 7⟩ := by
  decide

theorem start_eq_of_isEmpty {text : List Char} {line column : Nat} (first : line ≠ 0)
    (empty : (CharSpan.ofPlace text line column).isEmpty = true) :
    (CharSpan.ofPlace text line column).start = text.length := by
  rcases (isEmpty_ofPlace_iff text line column).mp empty with
    nowhere | rfl | ⟨body, ⟨_, before, found⟩, reached⟩
  · exact absurd nowhere first
  · rw [CharSpan.ofPlace_nil]
    rfl
  · obtain ⟨index, rfl⟩ := Nat.exists_eq_succ_of_ne_zero first
    rw [Nat.succ_sub_one] at found
    have ends := found.body_ends_iff.mpr rfl
    rw [Nat.succ_eq_add_one, found.ofPlace_eq, CharSpan.start_widened]
    omega

theorem isUnlocated_resolve_iff (document : Document) (location : Option Location)
    (message : String) (severity : Severity) (source : Pass) (channel : Channel) :
    (Diagnostic.resolve document location message severity source
        channel).isUnlocated = true ↔
      location = none ∨ (∃ place, location = some place ∧ place.line = 0) ∨
        document.text.toList = [] := by
  cases location with
  | none =>
      simp [Diagnostic.resolve, Diagnostic.isUnlocated, CharSpan.isEmpty_iff,
        CharSpan.documentStart]
  | some place =>
      have same : (Diagnostic.resolve document (some place) message severity source
            channel).isUnlocated = true ↔
          (document.spanOf place.line place.column).isEmpty = true ∧
            (document.spanOf place.line place.column).start = 0 := by
        rw [Diagnostic.isUnlocated, Bool.and_eq_true, beq_iff_eq]
        rfl
      rw [same, Document.spanOf]
      constructor
      · rintro ⟨empty, start⟩
        by_cases nowhere : place.line = 0
        · exact Or.inr (Or.inl ⟨place, rfl, nowhere⟩)
        · rw [start_eq_of_isEmpty nowhere empty] at start
          exact Or.inr (Or.inr (List.length_eq_zero_iff.mp start))
      · rintro (absent | ⟨other, equal, nowhere⟩ | empty)
        · cases absent
        · obtain rfl := Option.some.inj equal
          rw [nowhere]
          exact ⟨rfl, rfl⟩
        · rw [empty, CharSpan.ofPlace_nil]
          exact ⟨rfl, rfl⟩

/-- What is covered by the places of a document, and which diagnostics have no
place. -/
structure EmptySpansDiscerned (document : Document) : Prop where
  inside : ∀ line column, (document.spanOf line column).Within
    document.text.toList.length
  empty : ∀ line column, (document.spanOf line column).isEmpty = true ↔
    line = 0 ∨ document.text.toList = [] ∨
      ∃ body, OpenLine document.text.toList line body ∧ body.length ≤ column - 1
  unlocated : ∀ location message severity source channel,
    (Diagnostic.resolve document location message severity source
        channel).isUnlocated = true ↔
      location = none ∨ (∃ place, location = some place ∧ place.line = 0) ∨
        document.text.toList = []

/-- No place in a document with text is taken for the lack of a place, though
behind the last line it may cover nothing. -/
theorem emptySpansDiscerned_places (document : Document) :
    EmptySpansDiscerned document where
  inside line column := CharSpan.within_ofPlace _ line column
  empty line column := isEmpty_ofPlace_iff _ line column
  unlocated := isUnlocated_resolve_iff document

end ToolBridge
