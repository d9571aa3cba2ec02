import ToolBridge.Proofs.Document.Positions

/-!
# The order of positions

The offsets of a text, from its start to its end, and its positions are the same
places in the same order, as long as 32 bits can count the units of the text.  A
position is found by a search in the table of line starts, and it is undone by
counting line feeds and then UTF-16 units.
-/

namespace ToolBridge

open ToolBridge.Text

namespace Position

theorem before.trans {first second third : Position} (left : first.before second)
    (right : second.before third) : first.before third := by
  unfold before at left right ⊢
  omega

theorem not_before_self (position : Position) : ¬ position.before position := by
  unfold before
  omega

end Position

/-! ## Searching the table of line starts -/

theorem pairwise_lineStartsAfter (offset : Nat) (text : List Char) :
    (lineStartsAfter offset text).Pairwise (· < ·) := by
  induction text generalizing offset with
  | nil => exact List.Pairwise.nil
  | cons c text ih =>
      rw [lineStartsAfter]
      split
      · apply List.pairwise_cons.mpr
        exact ⟨fun start member => lt_of_mem_lineStartsAfter member, ih _⟩
      · exact ih _

theorem pairwise_lineTable (text : List Char) :
    (lineTable text).Pairwise (· < ·) := by
  apply List.pairwise_cons.mpr
  exact ⟨fun start member => lt_of_mem_lineStartsAfter member,
    pairwise_lineStartsAfter 0 text⟩

/-- What comes of a search in a table: the index of what was looked for, or the
index at which it would have to be inserted. -/
inductive Search where
  | hit (index : Nat)
  | miss (index : Nat)
  deriving DecidableEq, Repr

namespace Search

/-- What a search for an offset in a table of line starts may come to. -/
def Answers (table : List Nat) (offset : Nat) : Search → Prop
  | hit index => table[index]? = some offset
  | miss index => index ≤ table.length ∧
      (∀ start ∈ table.take index, start < offset) ∧
        ∀ start ∈ table.drop index, offset < start

/-- The line that was hit, or the one in front of the place for insertion.  In
front of the first line there is none. -/
def line? : Search → Option Nat
  | hit index => some index
  | miss 0 => none
  | miss (index + 1) => some index

theorem exists_answers {table : List Nat} (increasing : table.Pairwise (· < ·))
    (offset : Nat) : ∃ answer : Search, answer.Answers table offset := by
  induction table with
  | nil => exact ⟨miss 0, by simp [Answers]⟩
  | cons start table ih =>
      obtain ⟨least, increasing⟩ := List.pairwise_cons.mp increasing
      rcases Nat.lt_trichotomy offset start with early | rfl | late
      · refine ⟨miss 0, Nat.zero_le _, by simp, ?_⟩
        intro other member
        rcases List.mem_cons.mp member with rfl | later
        · exact early
        · exact Nat.lt_trans early (least other later)
      · exact ⟨hit 0, rfl⟩
      · obtain ⟨answer, answers⟩ := ih increasing
        cases answer with
        | hit index => exact ⟨hit (index + 1), answers⟩
        | miss index =>
            obtain ⟨inside, below, above⟩ := answers
            refine ⟨miss (index + 1), Nat.succ_le_succ inside, ?_, above⟩
            rw [List.take_succ_cons]
            exact List.forall_mem_cons.mpr ⟨late, below⟩

end Search

theorem take_of_entry {table : List Nat} {index start : Nat}
    (entry : table[index]? = some start) :
    table.take (index + 1) = table.take index ++ [start] := by
  rw [List.take_add_one, entry, Option.toList_some]

/-- The line of a search is in the table, and it is the last that starts up to the
offset. -/
theorem Search.Answers.entry {text : List Char} {offset : Nat} {answer : Search}
    (answers : answer.Answers (lineTable text) offset) :
    ∃ line start, answer.line? = some line ∧
      (lineTable text)[line]? = some start ∧ start ≤ offset ∧
        ∀ later ∈ (lineTable text).drop (line + 1), offset < later := by
  cases answer with
  | hit index =>
      refine ⟨index, offset, rfl, answers, Nat.le_refl _, ?_⟩
      have increasing := pairwise_lineTable text
      rw [← List.take_append_drop (index + 1) (lineTable text),
        take_of_entry answers] at increasing
      intro later behind
      apply (List.pairwise_append.mp increasing).2.2
      · exact List.mem_append_right _ List.mem_cons_self
      · exact behind
  | miss index =>
      obtain ⟨inside, below, above⟩ := answers
      cases index with
      | zero =>
          -- The first line starts at zero, so nothing is inserted in front of it.
          exact absurd (above 0 List.mem_cons_self) (Nat.not_lt_zero _)
      | succ index =>
          obtain ⟨start, entry⟩ : ∃ start, (lineTable text)[index]? = some start :=
            ⟨_, List.getElem?_eq_getElem inside⟩
          rw [take_of_entry entry] at below
          have early := below start (List.mem_append_right _ List.mem_cons_self)
          exact ⟨index, start, rfl, entry, Nat.le_of_lt early, above⟩

theorem takeWhile_lineTable {text : List Char} {offset line start : Nat}
    (entry : (lineTable text)[line]? = some start) (reached : start ≤ offset)
    (ahead : ∀ later ∈ (lineTable text).drop (line + 1), offset < later) :
    (lineTable text).takeWhile (fun begun => decide (begun ≤ offset)) =
      (lineTable text).take line ++ [start] := by
  have passed : ∀ begun ∈ (lineTable text).take line ++ [start],
      decide (begun ≤ offset) = true := by
    have increasing := (pairwise_lineTable text).sublist
      (List.take_sublist (line + 1) _)
    rw [take_of_entry entry] at increasing
    intro begun member
    apply decide_eq_true
    rcases List.mem_append.mp member with earlier | last
    · have less := (List.pairwise_append.mp increasing).2.2 begun earlier start
        List.mem_cons_self
      exact Nat.le_trans (Nat.le_of_lt less) reached
    · rw [List.mem_singleton.mp last]
      exact reached
  have stopped : ((lineTable text).drop (line + 1)).takeWhile
      (fun begun => decide (begun ≤ offset)) = [] := by
    cases rest : (lineTable text).drop (line + 1) with
    | nil => rfl
    | cons later others =>
        have late := ahead later (by rw [rest]; exact List.mem_cons_self)
        apply List.takeWhile_cons_of_neg
        rw [decide_eq_true_iff]
        exact Nat.not_le_of_lt late
  conv => lhs; rw [← List.take_append_drop (line + 1) (lineTable text)]
  rw [take_of_entry entry, List.takeWhile_append_of_pos passed, stopped,
    List.append_nil]

/-- The last line that starts up to an offset decides its position. -/
theorem positionAt_of_entry {text : List Char} {offset line start : Nat}
    (entry : (lineTable text)[line]? = some start) (reached : start ≤ offset)
    (ahead : ∀ later ∈ (lineTable text).drop (line + 1), offset < later) :
    positionAt text offset =
      Position.truncated
        ⟨line, utf16Length ((text.drop start).take (offset - start))⟩ := by
  have counted : ((lineTable text).take line ++ [start]).length = line + 1 := by
    have inside := (List.getElem?_eq_some_iff.mp entry).1
    rw [List.length_append, List.length_singleton, List.length_take,
      Nat.min_eq_left (Nat.le_of_lt inside)]
  rw [positionAt, takeWhile_lineTable entry reached ahead, counted,
    List.getLast?_concat]
  rfl

/-! ## From one offset to the next -/

/-- The text in front of an offset, cut behind its last line feed. -/
structure SplitAt (text : List Char) (offset : Nat) (front line : List Char) :
    Prop where
  cut : text.take offset = front ++ line
  lined : Lined front
  unbroken : Unbroken (· == '\n') line

theorem exists_splitAt (text : List Char) (offset : Nat) :
    ∃ front line, SplitAt text offset front line := by
  refine ⟨_, _, (dropEndWhile_append_afterLast (· == '\n') _).symm, ?_,
    unbroken_afterLast _ _⟩
  rcases dropEndWhile_eq_nil_or (· == '\n') (text.take offset) with
    empty | ⟨before, mark, ends, cut⟩
  · rw [empty]
    simp [Lined]
  · rw [cut, beq_iff_eq.mp ends]
    simp [Lined]

namespace SplitAt

variable {text front line : List Char} {offset : Nat}

theorem whole (split : SplitAt text offset front line) :
    text = front ++ line ++ text.drop offset := by
  rw [← split.cut, List.take_append_drop]

/-- Lines and characters are not more than the units of the text. -/
theorem counts_le (split : SplitAt text offset front line) :
    front.count '\n' ≤ utf16Length text ∧ utf16Length line ≤ utf16Length text := by
  have lines : front.count '\n' ≤ utf16Length front :=
    Nat.le_trans List.count_le_length (length_le_utf16Length front)
  have frontInside : front <:+: text :=
    ⟨[], line ++ text.drop offset, by simpa using split.whole.symm⟩
  have lineInside : line <:+: text := ⟨front, text.drop offset, split.whole.symm⟩
  exact ⟨Nat.le_trans lines (utf16Length_mono frontInside),
    utf16Length_mono lineInside⟩

theorem positionAt_eq (split : SplitAt text offset front line)
    (short : utf16Length text < numberBound) :
    positionAt text offset = ⟨front.count '\n', utf16Length line⟩ := by
  have least := split.counts_le
  rw [ToolBridge.positionAt_eq split.cut split.lined split.unbroken]
  exact Position.truncated_of_sized
    ⟨Nat.lt_of_le_of_lt least.1 short, Nat.lt_of_le_of_lt least.2 short⟩

theorem feed (split : SplitAt text offset front line)
    (next : text[offset]? = some '\n') :
    SplitAt text (offset + 1) (front ++ line ++ ['\n']) [] where
  cut := by
    rw [List.take_add_one, next, split.cut, List.append_nil]
    rfl
  lined := by simp [Lined]
  unbroken := by simp [Unbroken]

theorem extend (split : SplitAt text offset front line) {c : Char}
    (next : text[offset]? = some c) (other : c ≠ '\n') :
    SplitAt text (offset + 1) front (line ++ [c]) where
  cut := by
    rw [List.take_add_one, next, split.cut, List.append_assoc]
    rfl
  lined := split.lined
  unbroken := by
    intro symbol member
    rcases List.mem_append.mp member with inLine | last
    · exact split.unbroken symbol inLine
    · rw [List.mem_singleton.mp last]
      exact beq_eq_false_iff_ne.mpr other

end SplitAt

section

variable {text : List Char} (short : utf16Length text < numberBound)
include short

theorem positionAt_before_succ {offset : Nat} (inside : offset < text.length) :
    (positionAt text offset).before (positionAt text (offset + 1)) := by
  obtain ⟨front, line, split⟩ := exists_splitAt text offset
  obtain ⟨c, next⟩ : ∃ c, text[offset]? = some c :=
    ⟨_, List.getElem?_eq_getElem inside⟩
  rw [split.positionAt_eq short]
  by_cases feed : c = '\n'
  · -- The next line begins.
    subst feed
    have counted : (front ++ line ++ ['\n']).count '\n' = front.count '\n' + 1 := by
      rw [List.count_append, List.count_append, count_eq_zero split.unbroken]
      rfl
    rw [(split.feed next).positionAt_eq short, counted]
    exact Or.inl (Nat.lt_succ_self _)
  · -- The line goes on, by one unit at least.
    have size := length_le_utf16Length [c]
    rw [List.length_singleton] at size
    rw [(split.extend next feed).positionAt_eq short, utf16Length_append]
    refine Or.inr ⟨rfl, ?_⟩
    dsimp only
    omega

theorem positionAt_before {first last : Nat}
    (ordered : first < last) (inside : last ≤ text.length) :
    (positionAt text first).before (positionAt text last) := by
  induction ordered with
  | refl => exact positionAt_before_succ short inside
  | step ordered ih =>
      exact (ih (Nat.le_of_succ_le inside)).trans
        (positionAt_before_succ short inside)

theorem positionAt_before_iff {first last : Nat}
    (here : first ≤ text.length) (there : last ≤ text.length) :
    (positionAt text first).before (positionAt text last) ↔ first < last := by
  constructor
  · intro before
    rcases Nat.lt_trichotomy first last with ordered | rfl | reversed
    · exact ordered
    · exact absurd before (Position.not_before_self _)
    · have back := positionAt_before short reversed here
      exact absurd (before.trans back) (Position.not_before_self _)
  · intro ordered
    exact positionAt_before short ordered there

end

theorem positionAt_min (text : List Char) (offset : Nat) :
    positionAt text offset = positionAt text (min offset text.length) := by
  obtain ⟨front, line, split⟩ := exists_splitAt text offset
  have same : text.take (min offset text.length) = front ++ line := by
    rw [← split.cut, List.take_eq_take_iff, Nat.min_assoc, Nat.min_self]
  rw [positionAt_eq split.cut split.lined split.unbroken,
    positionAt_eq same split.lined split.unbroken]

/-! ## Back from a position -/

/-- The offset at which a line starts, counted in line feeds. -/
def lineOffset : (line : Nat) → List Char → Nat
  | 0, _ => 0
  | _ + 1, [] => 0
  | line + 1, c :: text =>
      if c = '\n' then lineOffset line text + 1
      else lineOffset (line + 1) text + 1

/-- How many characters take so many UTF-16 units. -/
def unitOffset : (units : Nat) → List Char → Nat
  | 0, _ => 0
  | _ + 1, [] => 0
  | units + 1, c :: text => unitOffset (units + 1 - utf16Size c) text + 1

/-- The offset of a position: its line is counted in line feeds, and its character
in the units of the line. -/
def offsetAt (text : List Char) (position : Position) : Nat :=
  let start := lineOffset position.line text
  start + unitOffset position.character (text.drop start)

theorem lineOffset_append {front : List Char} (lined : Lined front)
    (rest : List Char) :
    lineOffset (front.count '\n') (front ++ rest) = front.length := by
  induction front with
  | nil => rw [List.count_nil, lineOffset, List.length_nil]
  | cons c front ih =>
      have behind : Lined front := by
        rw [← List.singleton_append] at lined
        exact lined.of_append
      rw [List.cons_append, List.length_cons]
      by_cases feed : c = '\n'
      · rw [feed, List.count_cons_self, lineOffset, if_pos rfl, ih behind]
      · -- Some line feed is still to come, since the part in front ends with one.
        have ends : '\n' ∈ front := by
          cases found : front.getLast? with
          | none =>
              obtain rfl := List.getLast?_eq_none_iff.mp found
              exact absurd (lined c rfl) feed
          | some last =>
              rw [← behind last found]
              exact List.mem_of_getLast? found
        obtain ⟨count, counted⟩ := Nat.exists_eq_succ_of_ne_zero
          (Nat.ne_of_gt (List.count_pos_iff.mpr ends))
        have step := ih behind
        rw [counted] at step
        rw [List.count_cons_of_ne feed, counted, lineOffset, if_neg feed, step]

theorem unitOffset_append (line rest : List Char) :
    unitOffset (utf16Length line) (line ++ rest) = line.length := by
  induction line with
  | nil => rw [utf16Length, unitOffset, List.length_nil]
  | cons c line ih =>
      have size := length_le_utf16Length [c]
      simp only [utf16Length, List.length_singleton, Nat.add_zero] at size
      obtain ⟨units, counted⟩ : ∃ units, utf16Size c + utf16Length line = units + 1 :=
        ⟨utf16Size c + utf16Length line - 1, by omega⟩
      have left : units + 1 - utf16Size c = utf16Length line := by omega
      rw [utf16Length, counted, List.cons_append, unitOffset, left, ih,
        List.length_cons]

theorem offsetAt_append {front : List Char} (lined : Lined front)
    (line rest : List Char) :
    offsetAt (front ++ line ++ rest) ⟨front.count '\n', utf16Length line⟩ =
      front.length + line.length := by
  simp only [offsetAt, List.append_assoc, lineOffset_append lined, List.drop_left,
    unitOffset_append]

theorem offsetAt_positionAt {text : List Char} {offset : Nat}
    (short : utf16Length text < numberBound) (inside : offset ≤ text.length) :
    offsetAt text (positionAt text offset) = offset := by
  obtain ⟨front, line, split⟩ := exists_splitAt text offset
  have counted : front.length + line.length = offset := by
    rw [← List.length_append, ← split.cut, List.length_take,
      Nat.min_eq_left inside]
  rw [split.positionAt_eq short]
  conv => lhs; rw [split.whole]
  rw [offsetAt_append split.lined, counted]

/-- A position that the text has: a line of it, and the units of some characters
that the line begins with. -/
def Position.Of (text : List Char) (position : Position) : Prop :=
  ∃ front line rest, text = front ++ line ++ rest ∧ Lined front ∧
    Unbroken (· == '\n') line ∧ position = ⟨front.count '\n', utf16Length line⟩

theorem position_of_iff {text : List Char} {position : Position}
    (short : utf16Length text < numberBound) :
    position.Of text ↔
      ∃ offset, offset ≤ text.length ∧ positionAt text offset = position := by
  constructor
  · rintro ⟨front, line, rest, rfl, lined, unbroken, rfl⟩
    have split : SplitAt (front ++ line ++ rest) (front ++ line).length front line :=
      ⟨List.take_left' rfl, lined, unbroken⟩
    exact ⟨(front ++ line).length, (List.prefix_append _ rest).length_le,
      split.positionAt_eq short⟩
  · rintro ⟨offset, _, rfl⟩
    obtain ⟨front, line, split⟩ := exists_splitAt text offset
    exact ⟨front, line, text.drop offset, split.whole, split.lined, split.unbroken,
      split.positionAt_eq short⟩

theorem extentOf_ordered {document : Document}
    (short : utf16Length document.text.toList < numberBound) {span : CharSpan}
    (ordered : span.start ≤ span.stop) :
    (document.extentOf span).start = (document.extentOf span).stop ∨
      (document.extentOf span).start.before (document.extentOf span).stop := by
  unfold Document.extentOf Document.positionAt
  dsimp only
  rw [positionAt_min _ span.start, positionAt_min _ span.stop]
  have kept : min span.start document.text.toList.length ≤
      min span.stop document.text.toList.length := by
    omega
  rcases Nat.eq_or_lt_of_le kept with same | less
  · rw [same]
    exact Or.inl rfl
  · exact Or.inr (positionAt_before short less (Nat.min_le_right _ _))

/-- The offsets and the positions of a document whose units 32 bits can count. -/
structure PositionIsomorphism (document : Document) : Prop where
  /-- Each search leads to the line of the offset. -/
  looked : ∀ offset (answer : Search),
    answer.Answers (lineTable document.text.toList) offset →
    ∃ start, answer.line? = some (document.positionAt offset).line ∧
      (lineTable document.text.toList)[(document.positionAt offset).line]? =
        some start ∧
      start ≤ offset ∧
      (document.positionAt offset).character =
        utf16Length ((document.text.toList.drop start).take (offset - start))
  ordered : ∀ first last, first ≤ document.text.toList.length →
    last ≤ document.text.toList.length →
    ((document.positionAt first).before (document.positionAt last) ↔ first < last)
  recovered : ∀ offset, offset ≤ document.text.toList.length →
    offsetAt document.text.toList (document.positionAt offset) = offset
  covered : ∀ position : Position, position.Of document.text.toList ↔
    ∃ offset, offset ≤ document.text.toList.length ∧
      document.positionAt offset = position
  extents : ∀ span : CharSpan, span.start ≤ span.stop →
    (document.extentOf span).start = (document.extentOf span).stop ∨
      (document.extentOf span).start.before (document.extentOf span).stop

/-- There are no more lines than units in a text, and no more units in a part. -/
theorem sized_of_entry {text : List Char} {line start : Nat}
    (short : utf16Length text < numberBound)
    (entry : (lineTable text)[line]? = some start) (count : Nat) :
    Position.Sized ⟨line, utf16Length ((text.drop start).take count)⟩ := by
  have inside := (List.getElem?_eq_some_iff.mp entry).1
  rw [lineTable, List.length_cons, length_lineStartsAfter] at inside
  have lines : text.count '\n' ≤ utf16Length text :=
    Nat.le_trans List.count_le_length (length_le_utf16Length text)
  have part : (text.drop start).take count <:+: text :=
    (List.take_prefix _ _).isInfix.trans (List.drop_suffix _ _).isInfix
  refine ⟨?_, Nat.lt_of_le_of_lt (utf16Length_mono part) short⟩
  change line < numberBound
  omega

theorem positionIsomorphism_of_short {document : Document}
    (short : utf16Length document.text.toList < numberBound) :
    PositionIsomorphism document where
  looked offset answer answers := by
    obtain ⟨line, start, found, entry, reached, ahead⟩ := answers.entry
    have sized := sized_of_entry short entry (offset - start)
    rw [Document.positionAt, positionAt_of_entry entry reached ahead,
      Position.truncated_of_sized sized]
    exact ⟨start, found, entry, reached, rfl⟩
  ordered first last here there := positionAt_before_iff short here there
  recovered offset inside := offsetAt_positionAt short inside
  covered position := position_of_iff short
  extents span ordered := extentOf_ordered short ordered

/-- The table of line starts of a document and the positions that are looked up in
it. -/
structure OrderedPositions (document : Document) : Prop where
  increasing : (lineTable document.text.toList).Pairwise (· < ·)
  first : (lineTable document.text.toList).head? = some 0
  searched : ∀ offset, ∃ answer : Search,
    answer.Answers (lineTable document.text.toList) offset
  /-- No search leads out of the table. -/
  found : ∀ offset (answer : Search),
    answer.Answers (lineTable document.text.toList) offset →
    ∃ line start, answer.line? = some line ∧
      (lineTable document.text.toList)[line]? = some start ∧ start ≤ offset ∧
      document.positionAt offset = Position.truncated
        ⟨line, utf16Length ((document.text.toList.drop start).take (offset - start))⟩
  sized : ∀ offset, (document.positionAt offset).Sized
  beyond : ∀ offset, document.text.toList.length ≤ offset →
    document.positionAt offset =
      document.positionAt document.text.toList.length
  isomorphism : utf16Length document.text.toList < numberBound →
    PositionIsomorphism document

/-- Offsets lead to positions one by one and in order, and counting leads back,
unless the text is longer than 32 bits can count. -/
theorem orderedPositions_offsets (document : Document) :
    OrderedPositions document where
  increasing := pairwise_lineTable _
  first := rfl
  searched offset := Search.exists_answers (pairwise_lineTable _) offset
  found offset answer answers := by
    obtain ⟨line, start, found, entry, reached, ahead⟩ := answers.entry
    exact ⟨line, start, found, entry, reached,
      positionAt_of_entry entry reached ahead⟩
  sized offset := Position.sized_truncated _
  beyond offset past := by
    rw [Document.positionAt, positionAt_min, Nat.min_eq_right past]
    rfl
  isomorphism := positionIsomorphism_of_short

end ToolBridge
