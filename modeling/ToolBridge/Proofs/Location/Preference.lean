import ToolBridge.Location.Chain
import ToolBridge.Proofs.Location.SourcePath
import ToolBridge.Proofs.Text.Number

/-!
# Which locator is taken

A piece of text can hold many locators, and one text can be cut into a locator
in several ways.  The reader takes the one that starts first, then the one with
the longest name, and then the one with the longest column.  If the numbers of
that one have no value, the piece tells nothing, whatever else it holds, and
the next piece is looked at.
-/

namespace ToolBridge

namespace Text

/-! ## Numbers -/

/-- The value of digits, the last one counting for itself. -/
def decimalValue (digits : List Char) : Nat :=
  digits.foldl (fun value c => value * 10 + (c.toNat - '0'.toNat)) 0

/-- A run of ASCII digits for a number of 32 bits. -/
structure Denotes (digits : List Char) (value : Nat) : Prop where
  ascii : ∀ c ∈ digits, '0' ≤ c ∧ c ≤ '9'
  valued : decimalValue digits = value
  fits : value < Nat.pow 2 32

theorem digitsValue?_eq_some_iff {start value : Nat} {digits : List Char} :
    digitsValue? start digits = some value ↔
      (∀ c ∈ digits, '0' ≤ c ∧ c ≤ '9') ∧
        digits.foldl (fun value c => value * 10 + (c.toNat - '0'.toNat)) start =
          value := by
  induction digits generalizing start with
  | nil => simp [digitsValue?]
  | cons c digits ih =>
      rw [digitsValue?, digitValue?, List.forall_mem_cons, List.foldl_cons]
      by_cases digit : ('0' ≤ c && c ≤ '9') = true
      · rw [if_pos digit]
        simp only [Bool.and_eq_true, decide_eq_true_eq] at digit
        rw [ih, and_iff_right digit]
      · rw [if_neg digit]
        simp only [Bool.and_eq_true, decide_eq_true_eq] at digit
        constructor
        · intro read
          cases read
        · rintro ⟨⟨here, _⟩, _⟩
          exact absurd here digit

theorem readNumber?_eq_some_iff {digits : List Char} {value : Nat}
    (telling : digits ≠ []) :
    readNumber? digits = some value ↔ Denotes digits value := by
  have some : digits.isEmpty = false := by simp [telling]
  rw [readNumber?, some, if_neg (by simp)]
  constructor
  · intro read
    split at read
    · rename_i found valued
      split at read
      · rename_i fits
        cases read
        obtain ⟨ascii, same⟩ := digitsValue?_eq_some_iff.mp valued
        exact ⟨ascii, same, fits⟩
      · cases read
    · cases read
  · intro denotes
    have valued := digitsValue?_eq_some_iff.mpr ⟨denotes.ascii, denotes.valued⟩
    rw [valued]
    exact if_pos denotes.fits

end Text

namespace SourcePath

open ToolBridge.Text

variable {extension piece : List Char}

/-! ## Readings -/

/-- A locator in a piece of text, with what stands around it. -/
@[ext] structure Reading where
  before : List Char
  separators : List Char
  name : List Char
  line : List Char
  column : List Char
  after : List Char

namespace Reading

def file (extension : List Char) (reading : Reading) : List Char :=
  reading.name ++ '.' :: extension

/-- The two numbers with all that follows. -/
def position (reading : Reading) : List Char :=
  ':' :: reading.line ++ ':' :: reading.column ++ reading.after

/-- The characters from the separators to the column. -/
def text (extension : List Char) (reading : Reading) : List Char :=
  reading.separators ++ reading.file extension ++ ':' :: reading.line ++
    ':' :: reading.column

/-- The locator alone, with a colon if one follows. -/
def written (reading : Reading) : Written :=
  ⟨reading.separators, reading.name, reading.line, reading.column,
    reading.after.head? == some ':'⟩

/-- A reading that comes first, by its start, its name and its column, or is as
good as the other one. -/
def Ahead (left right : Reading) : Prop :=
  left.before.length < right.before.length ∨
    left.before.length = right.before.length ∧
      (right.name.length < left.name.length ∨
        right.name.length = left.name.length ∧
          right.column.length ≤ left.column.length)

end Reading

/-- The piece can be read in this way. -/
structure Reads (extension piece : List Char) (reading : Reading) : Prop where
  split : piece = reading.before ++ (reading.separators ++
    (reading.name ++ '.' :: (extension ++ reading.position)))
  separators : ∀ c ∈ reading.separators, isSeparator c = true
  name : ∀ c ∈ reading.name, isSeparator c = false ∧ isBlank c = false
  line : IsRun reading.line
  column : IsRun reading.column

/-- The best way to read a piece. -/
structure Best (extension piece : List Char) (reading : Reading) : Prop where
  reads : Reads extension piece reading
  ahead : ∀ other, Reads extension piece other → reading.Ahead other

theorem isNameChar_iff {c : Char} :
    isNameChar c = true ↔ isSeparator c = false ∧ isBlank c = false := by
  simp [isNameChar]

namespace Reads

variable {reading other : Reading}

theorem named (reads : Reads extension piece reading) :
    ∀ c ∈ reading.name, isNameChar c = true :=
  fun c member => isNameChar_iff.mpr (reads.name c member)

/-- Two readings that start at the same place have the same separators. -/
theorem separators_eq (reads : Reads extension piece reading)
    (again : Reads extension piece other)
    (same : reading.before.length = other.before.length) :
    reading.before = other.before ∧ reading.separators = other.separators ∧
      reading.name ++ '.' :: (extension ++ reading.position) =
        other.name ++ '.' :: (extension ++ other.position) := by
  obtain ⟨before, behind⟩ :=
    List.append_inj (reads.split.symm.trans again.split) same
  have mine := takeWhile_run reads.separators
    (opens_name reads.named (extension ++ reading.position))
  have others := takeWhile_run again.separators
    (opens_name again.named (extension ++ other.position))
  rw [behind] at mine
  exact ⟨before, mine.1.symm.trans others.1, mine.2.symm.trans others.2⟩

/-- If the names are equally long too, then only the columns can differ. -/
theorem position_eq (reads : Reads extension piece reading)
    (again : Reads extension piece other)
    (same : reading.before.length = other.before.length)
    (named : reading.name.length = other.name.length) :
    reading.name = other.name ∧ reading.position = other.position := by
  obtain ⟨_, _, behind⟩ := reads.separators_eq again same
  obtain ⟨name, rest⟩ := List.append_inj behind named
  rw [List.cons.injEq] at rest
  exact ⟨name, List.append_cancel_left rest.2⟩

/-- The position of a reading is read with a column that is at least as
long. -/
theorem readPosition_eq (reads : Reads extension piece reading) :
    readPosition reading.position =
      some (reading.line, reading.column ++ reading.after.takeWhile isDecimal,
        (reading.after.dropWhile isDecimal).head? == some ':') :=
  readPosition_run reads.line reads.column reading.after

theorem isSome_readHere (reads : Reads extension piece reading) :
    (readHere extension (reading.separators ++
      (reading.name ++ '.' :: (extension ++ reading.position)))).isSome = true :=
  isSome_readHere_locator reads.separators reads.named reads.line reads.column
    reading.after

end Reads

theorem Best.unique {reading other : Reading} (best : Best extension piece reading)
    (again : Best extension piece other) : reading = other := by
  have mine := best.ahead other again.reads
  have others := again.ahead reading best.reads
  unfold Reading.Ahead at mine others
  have before : reading.before.length = other.before.length := by omega
  have named : reading.name.length = other.name.length := by omega
  have columned : reading.column.length = other.column.length := by omega
  obtain ⟨sameBefore, sameSeparators, _⟩ :=
    best.reads.separators_eq again.reads before
  obtain ⟨sameName, samePosition⟩ :=
    best.reads.position_eq again.reads before named
  have read := best.reads.readPosition_eq
  rw [samePosition, again.reads.readPosition_eq] at read
  simp only [Option.some.injEq, Prod.mk.injEq] at read
  have sameLine : other.line = reading.line := read.1
  have rest : ':' :: reading.column ++ reading.after =
      ':' :: other.column ++ other.after := by
    unfold Reading.position at samePosition
    rw [← sameLine] at samePosition
    simpa using samePosition
  obtain ⟨sameColumn, sameAfter⟩ :=
    List.append_inj rest (by simp [columned])
  exact Reading.ext sameBefore sameSeparators sameName sameLine.symm
    (List.cons.inj sameColumn).2 sameAfter

/-! ## The reader -/

section Reader

variable {text : List Char} {written : Written}

theorem eq_append_of_readExtension
    (read : readExtension extension text = some written) :
    written.name = [] ∧ ∃ position, text = '.' :: (extension ++ position) ∧
      readPosition position =
        some (written.line, written.column, written.colon) := by
  unfold readExtension at read
  split at read
  · rename_i rest extended
    split at read
    · rename_i position
      cases read
      exact ⟨rfl, rest, after?_eq_some_iff.mp extended, position⟩
    · cases read
  · cases read

/-- Behind the name that is read stand the extension and a position. -/
theorem eq_append_of_readName (read : readName extension text = some written) :
    ∃ position, text = written.name ++ '.' :: (extension ++ position) ∧
      readPosition position =
        some (written.line, written.column, written.colon) := by
  induction text generalizing written with
  | nil => cases read
  | cons c cs ih =>
      simp only [readName] at read
      split at read
      · rename_i longer taken
        cases read
        split at taken
        · obtain ⟨shorter, found, rfl⟩ := Option.map_eq_some_iff.mp taken
          obtain ⟨position, rfl, placed⟩ := ih found
          exact ⟨position, rfl, placed⟩
        · cases taken
      · obtain ⟨bare, position, split, placed⟩ := eq_append_of_readExtension read
        exact ⟨position, by rw [bare, split]; rfl, placed⟩

theorem length_le_of_readName (read : readName extension text = some written)
    {name position : List Char} (named : ∀ c ∈ name, isNameChar c = true)
    (split : text = name ++ '.' :: (extension ++ position))
    (placed : (readPosition position).isSome = true) :
    name.length ≤ written.name.length := by
  induction name generalizing text written with
  | nil => exact Nat.zero_le _
  | cons c name ih =>
      subst split
      obtain ⟨letter, named⟩ := List.forall_mem_cons.mp named
      have longer : (readName extension
          (name ++ '.' :: (extension ++ position))).isSome = true :=
        isSome_readName named (by simp) (isSome_readExtension placed)
      obtain ⟨shorter, found⟩ := Option.isSome_iff_exists.mp longer
      rw [List.cons_append, readName, if_pos letter, found] at read
      cases read
      exact Nat.succ_le_succ (ih found named rfl)

theorem eq_append_of_readHere (read : readHere extension text = some written) :
    ∃ rest, text = written.separators ++ rest ∧
      readName extension rest = some { written with separators := [] } := by
  induction text generalizing written with
  | nil => cases read
  | cons c cs ih =>
      rw [readHere] at read
      split at read
      · obtain ⟨behind, found, rfl⟩ := Option.map_eq_some_iff.mp read
        obtain ⟨rest, rfl, named⟩ := ih found
        exact ⟨rest, rfl, named⟩
      · have bare := (heads_of_readName read).1
        refine ⟨c :: cs, by rw [bare]; rfl, ?_⟩
        rw [read, ← bare]

theorem first_of_find {offset : Nat}
    (found : find extension text = some (offset, written)) :
    ∃ before behind, text = before ++ behind ∧ offset = utf8Length before ∧
      readHere extension behind = some written ∧
      ∀ front rest, text = front ++ rest → front.length < before.length →
        readHere extension rest = none := by
  induction text generalizing offset with
  | nil => cases found
  | cons c cs ih =>
      rw [find] at found
      split at found
      · rename_i here read
        cases found
        exact ⟨[], c :: cs, rfl, rfl, read, by simp⟩
      · rename_i nothing
        obtain ⟨later, foundLater, same⟩ := Option.map_eq_some_iff.mp found
        cases same
        obtain ⟨before, behind, rfl, measured, read, first⟩ := ih foundLater
        refine ⟨c :: before, behind, rfl, by rw [utf8Length, measured], read, ?_⟩
        intro front rest split short
        cases front with
        | nil =>
            rw [List.nil_append] at split
            rw [← split]
            exact nothing
        | cons d front =>
            rw [List.cons_append, List.cons.injEq] at split
            exact first front rest split.2 (Nat.lt_of_succ_lt_succ short)

theorem best_of_find {offset : Nat}
    (found : find extension piece = some (offset, written)) :
    ∃ reading, Best extension piece reading ∧
      offset = utf8Length reading.before ∧ written = reading.written := by
  obtain ⟨before, behind, split, measured, read, first⟩ := first_of_find found
  obtain ⟨rest, rfl, named⟩ := eq_append_of_readHere read
  obtain ⟨position, cut, placed⟩ := eq_append_of_readName named
  obtain ⟨lineRun, columnRun, after, rfl, colon⟩ := eq_append_of_readPosition placed
  have wellFormed := (heads_of_readHere read).1
  let reading : Reading :=
    ⟨before, written.separators, written.name, written.line, written.column, after⟩
  have reads : Reads extension piece reading := by
    refine ⟨?_, wellFormed.separators, ?_, lineRun, columnRun⟩
    · rw [split, cut]
      rfl
    · intro c member
      exact isNameChar_iff.mp (wellFormed.name c member)
  refine ⟨reading, ⟨reads, ?_⟩, measured, ?_⟩
  · intro other again
    rcases Nat.lt_trichotomy before.length other.before.length with
      earlier | same | later
    · exact Or.inl earlier
    · refine Or.inr ⟨same, ?_⟩
      obtain ⟨_, _, behind⟩ := reads.separators_eq again same
      -- Both names are read at the same place, where the longest is taken.
      have short : other.name.length ≤ reading.name.length := by
        refine length_le_of_readName named again.named (cut.trans behind) ?_
        rw [again.readPosition_eq]
        rfl
      rcases Nat.lt_or_eq_of_le short with shorter | equal
      · exact Or.inl shorter
      · refine Or.inr ⟨equal, ?_⟩
        obtain ⟨_, positions⟩ := reads.position_eq again same equal.symm
        change readPosition reading.position = _ at placed
        rw [positions, again.readPosition_eq] at placed
        simp only [Option.some.injEq, Prod.mk.injEq] at placed
        rw [show reading.column = _ from placed.2.1.symm, List.length_append]
        exact Nat.le_add_right _ _
    · -- A start further to the left would have been found.
      have nothing := first other.before _ again.split later
      have here := again.isSome_readHere
      rw [nothing] at here
      cases here
  · cases written
    exact congrArg _ colon.symm

theorem find_eq_some_iff {offset : Nat} :
    find extension piece = some (offset, written) ↔
      ∃ reading, Best extension piece reading ∧
        offset = utf8Length reading.before ∧ written = reading.written := by
  constructor
  · exact best_of_find
  · rintro ⟨reading, best, rfl, rfl⟩
    have here := isSome_find reading.before (by simp) best.reads.isSome_readHere
    rw [← best.reads.split] at here
    obtain ⟨⟨offset, written⟩, found⟩ := Option.isSome_iff_exists.mp here
    obtain ⟨other, again, rfl, rfl⟩ := best_of_find found
    rw [best.unique again]
    exact found

end Reader

/-! ## Pieces -/

/-- The piece tells a location: its best reading has two numbers, and the
location spans that reading with the colon behind it. -/
structure Yields (extension piece : List Char) (reading : Reading)
    (location : Location) : Prop where
  best : Best extension piece reading
  line : Denotes reading.line location.line
  column : Denotes reading.column location.column
  file : location.file = some (String.ofList (reading.file extension))
  grammar : location.grammar = .sourcePath
  start : location.span.start = utf8Length reading.before
  stop : location.span.stop =
    utf8Length (reading.before ++ reading.text extension) +
      if reading.after.head? = some ':' then 1 else 0

theorem utf8Length_written (reading : Reading) :
    utf8Length (reading.written.text extension) =
      utf8Length (reading.text extension) +
        if reading.after.head? = some ':' then 1 else 0 := by
  have colon : utf8Length [':'] = 1 := by decide
  unfold Reading.written Written.text Reading.text
  by_cases closed : reading.after.head? = some ':'
  · simp only [closed, beq_self_eq_true, if_true, utf8Length_append, colon]
    rfl
  · simp only [beq_eq_false_iff_ne.mpr closed, if_neg closed, utf8Length_append]
    rfl

theorem ofPiece_eq_some_iff {location : Location} :
    ofPiece extension piece = some location ↔
      ∃ reading, Yields extension piece reading location := by
  rw [ofPiece, survey_eq]
  constructor
  · intro told
    split at told
    · rename_i offset written found
      obtain ⟨reading, best, rfl, rfl⟩ := best_of_find found
      unfold Written.location? at told
      split at told
      · rename_i line column lineRead columnRead
        cases told
        refine ⟨reading, best, ?_, ?_, rfl, rfl, rfl, ?_⟩
        · exact (readNumber?_eq_some_iff best.reads.line.1).mp lineRead
        · exact (readNumber?_eq_some_iff best.reads.column.1).mp columnRead
        · rw [utf8Length_written, utf8Length_append, Nat.add_assoc]
      · cases told
    · cases told
  · rintro ⟨reading, yields⟩
    have found := find_eq_some_iff.mpr ⟨reading, yields.best, rfl, rfl⟩
    have line := (readNumber?_eq_some_iff yields.best.reads.line.1).mpr yields.line
    have column :=
      (readNumber?_eq_some_iff yields.best.reads.column.1).mpr yields.column
    have span : location.span = ⟨utf8Length reading.before,
        utf8Length reading.before +
          utf8Length (reading.written.text extension)⟩ := by
      rw [utf8Length_written, ← Nat.add_assoc, ← utf8Length_append, ← yields.stop,
        ← yields.start]
    have lineRead : readNumber? reading.written.line = some location.line := line
    have columnRead : readNumber? reading.written.column = some location.column :=
      column
    simp only [found, Written.location?, lineRead, columnRead, ← span]
    rw [Option.some.injEq]
    cases location
    simp only [Location.mk.injEq, true_and, and_true]
    exact ⟨yields.file.symm, yields.grammar.symm⟩

/-- A piece of a text, which goes from one line break to the next. -/
structure PieceAt (text front piece back : List Char) : Prop where
  split : text = front ++ (piece ++ back)
  unbroken : Unbroken isLineBreak piece
  opens : ∀ mark, front.getLast? = some mark → isLineBreak mark = true
  closes : ∀ mark, back.head? = some mark → isLineBreak mark = true

section Pieces

variable {line front back rest : List Char} {mark : Char}

theorem PieceAt.eq_nil {text : List Char} (found : PieceAt text front piece back)
    (within : front <+: line) (unbroken : Unbroken isLineBreak line) :
    front = [] := by
  cases last : front.getLast? with
  | none => exact List.getLast?_eq_none_iff.mp last
  | some mark =>
      have breaks := found.opens mark last
      rw [unbroken mark (within.subset (List.mem_of_getLast? last))] at breaks
      cases breaks

/-- What starts with a line and goes on with a line break, or ends, has that line
for its first piece. -/
theorem eq_of_unbroken {next : List Char} (same : piece ++ back = line ++ next)
    (inside : Unbroken isLineBreak piece) (unbroken : Unbroken isLineBreak line)
    (closes : ∀ mark, back.head? = some mark → isLineBreak mark = true)
    (ends : ∀ mark, next.head? = some mark → isLineBreak mark = true) :
    piece = line ∧ back = next := by
  have cut {left right : List Char} (solid : Unbroken isLineBreak left)
      (stops : ∀ mark, right.head? = some mark → isLineBreak mark = true) :
      (left ++ right).takeWhile (fun c => !isLineBreak c) = left ∧
        (left ++ right).dropWhile (fun c => !isLineBreak c) = right := by
    apply takeWhile_run
    · intro c member
      simp [solid c member]
    · intro c head
      simp [stops c head]
  have mine := cut inside closes
  rw [same] at mine
  have others := cut unbroken ends
  exact ⟨mine.1.symm.trans others.1, mine.2.symm.trans others.2⟩

theorem pieceAt_line (unbroken : Unbroken isLineBreak line) :
    PieceAt line front piece back ↔ front = [] ∧ piece = line ∧ back = [] := by
  constructor
  · intro found
    have none := found.eq_nil ⟨_, found.split.symm⟩ unbroken
    have same := found.split
    rw [none, List.nil_append, ← List.append_nil line] at same
    exact ⟨none, eq_of_unbroken same.symm found.unbroken unbroken found.closes
      (by simp)⟩
  · rintro ⟨rfl, rfl, rfl⟩
    exact ⟨by simp, unbroken, by simp, by simp⟩

/-- The pieces of a text are its first line and the pieces of the rest. -/
theorem pieceAt_cons (unbroken : Unbroken isLineBreak line)
    (breaks : isLineBreak mark = true) :
    PieceAt (line ++ mark :: rest) front piece back ↔
      front = [] ∧ piece = line ∧ back = mark :: rest ∨
        ∃ later, front = line ++ mark :: later ∧ PieceAt rest later piece back := by
  have marked : ∀ c, (mark :: rest).head? = some c → isLineBreak c = true := by
    intro c head
    cases head
    exact breaks
  constructor
  · intro found
    -- A piece that starts within the first line starts where the line does,
    -- because there is no break in front of it.
    rcases List.append_eq_append_iff.mp found.split.symm with
      ⟨part, rfl, same⟩ | ⟨part, rfl, same⟩
    · have none := found.eq_nil ⟨part, rfl⟩ unbroken
      subst none
      exact Or.inl ⟨rfl, eq_of_unbroken same found.unbroken unbroken found.closes
        marked⟩
    · cases part with
      | nil =>
          rw [List.append_nil] at found
          have none := found.eq_nil (List.prefix_refl line) unbroken
          subst none
          exact Or.inl ⟨rfl, eq_of_unbroken same.symm found.unbroken unbroken
            found.closes marked⟩
      | cons c later =>
          rw [List.cons_append, List.cons.injEq] at same
          obtain ⟨rfl, same⟩ := same
          refine Or.inr ⟨later, rfl, same, found.unbroken, ?_, found.closes⟩
          intro last ends
          apply found.opens last
          rw [List.getLast?_append, List.getLast?_cons, ends]
          rfl
  · rintro (⟨rfl, rfl, rfl⟩ | ⟨later, rfl, found⟩)
    · exact ⟨rfl, unbroken, by simp, marked⟩
    · refine ⟨by rw [found.split]; simp, found.unbroken, ?_, found.closes⟩
      intro last ends
      rw [List.getLast?_append, List.getLast?_cons] at ends
      cases inner : later.getLast? with
      | none =>
          rw [inner] at ends
          cases ends
          exact breaks
      | some other =>
          rw [inner] at ends
          cases ends
          exact found.opens other inner

end Pieces

/-- The location of the first piece that yields one, moved to the place of the
piece in the text. -/
def First (extension text : List Char) (location : Location) : Prop :=
  ∃ front piece back reading inner, PieceAt text front piece back ∧
    Yields extension piece reading inner ∧
    location = inner.shift (utf8Length front) ∧
    ∀ earlier other rest, PieceAt text earlier other rest →
      earlier.length < front.length →
      ∀ reading told, ¬ Yields extension other reading told

theorem shift_shift (location : Location) (inner outer : Nat) :
    (location.shift inner).shift outer = location.shift (outer + inner) := by
  simp [Location.shift, ByteSpan.shift, Nat.add_assoc]

theorem shift_zero (location : Location) : location.shift 0 = location := by
  simp [Location.shift, ByteSpan.shift]

theorem utf8Size_of_isLineBreak {mark : Char} (breaks : isLineBreak mark = true) :
    mark.utf8Size = 1 := by
  simp only [isLineBreak, Bool.or_eq_true, beq_iff_eq] at breaks
  rcases breaks with rfl | rfl
  · decide
  · decide

section Texts

variable {line rest : List Char} {mark : Char} {location : Location}

theorem first_line (unbroken : Unbroken isLineBreak line) :
    First extension line location ↔
      ∃ reading, Yields extension line reading location := by
  constructor
  · rintro ⟨front, piece, back, reading, inner, found, yields, rfl, _⟩
    obtain ⟨rfl, rfl, _⟩ := (pieceAt_line unbroken).mp found
    exact ⟨reading, (shift_zero inner).symm ▸ yields⟩
  · rintro ⟨reading, yields⟩
    exact ⟨[], line, [], reading, location,
      (pieceAt_line unbroken).mpr ⟨rfl, rfl, rfl⟩, yields,
      (shift_zero location).symm, by simp⟩

/-- If the first line tells something, the text tells that. -/
theorem first_of_yields (unbroken : Unbroken isLineBreak line)
    (breaks : isLineBreak mark = true) {told : Location}
    (tells : ofPiece extension line = some told) :
    First extension (line ++ mark :: rest) location ↔ location = told := by
  obtain ⟨reading, yields⟩ := ofPiece_eq_some_iff.mp tells
  have here : PieceAt (line ++ mark :: rest) [] line (mark :: rest) :=
    (pieceAt_cons unbroken breaks).mpr (Or.inl ⟨rfl, rfl, rfl⟩)
  constructor
  · rintro ⟨front, piece, back, other, inner, found, again, rfl, first⟩
    rcases (pieceAt_cons unbroken breaks).mp found with
      ⟨rfl, rfl, _⟩ | ⟨later, rfl, _⟩
    · have same := ofPiece_eq_some_iff.mpr ⟨other, again⟩
      rw [tells, Option.some.injEq] at same
      rw [← same]
      exact shift_zero told
    · have short : 0 < (line ++ mark :: later).length := by
        rw [List.length_append, List.length_cons]
        exact Nat.add_pos_right _ (Nat.succ_pos _)
      exact absurd yields (first [] line _ here short reading told)
  · rintro rfl
    exact ⟨[], line, mark :: rest, reading, location, here, yields,
      (shift_zero location).symm, by simp⟩

/-- If the first line tells nothing, the text tells what the rest of it does. -/
theorem first_of_silent (unbroken : Unbroken isLineBreak line)
    (breaks : isLineBreak mark = true) (silent : ofPiece extension line = none) :
    First extension (line ++ mark :: rest) location ↔
      ∃ inner, First extension rest inner ∧
        location = inner.shift (utf8Length line + 1) := by
  have nothing : ∀ reading told, ¬ Yields extension line reading told := by
    intro reading told yields
    cases silent.symm.trans (ofPiece_eq_some_iff.mpr ⟨reading, yields⟩)
  have measured (later : List Char) :
      utf8Length (line ++ mark :: later) =
        utf8Length line + 1 + utf8Length later := by
    rw [utf8Length_append, utf8Length, utf8Size_of_isLineBreak breaks,
      Nat.add_assoc]
  have moved (later : List Char) :
      (line ++ mark :: later).length = line.length + 1 + later.length := by
    rw [List.length_append, List.length_cons]
    omega
  constructor
  · rintro ⟨front, piece, back, reading, inner, found, yields, rfl, first⟩
    rcases (pieceAt_cons unbroken breaks).mp found with
      ⟨_, rfl, _⟩ | ⟨later, rfl, behind⟩
    · exact absurd yields (nothing reading inner)
    · refine ⟨inner.shift (utf8Length later),
        ⟨later, piece, back, reading, inner, behind, yields, rfl, ?_⟩, ?_⟩
      · intro earlier other more inside short
        apply first (line ++ mark :: earlier) other more
        · exact (pieceAt_cons unbroken breaks).mpr (Or.inr ⟨earlier, rfl, inside⟩)
        · rw [moved, moved]
          omega
      · rw [shift_shift, measured]
  · rintro ⟨_, ⟨later, piece, back, reading, inner, found, yields, rfl, first⟩, rfl⟩
    refine ⟨line ++ mark :: later, piece, back, reading, inner,
      (pieceAt_cons unbroken breaks).mpr (Or.inr ⟨later, rfl, found⟩), yields, ?_, ?_⟩
    · rw [shift_shift, measured]
    · intro earlier other more inside short
      rcases (pieceAt_cons unbroken breaks).mp inside with
        ⟨_, rfl, _⟩ | ⟨front, rfl, behind⟩
      · exact nothing
      · apply first front other more behind
        rw [moved, moved] at short
        omega

end Texts

theorem ofPieces_eq_some_iff {text : List Char} {offset : Nat}
    {location : Location} :
    ofPieces extension offset (pieces text) = some location ↔
      ∃ inner, First extension text inner ∧ location = inner.shift offset := by
  induction text using segment_induction isLineBreak
    generalizing offset location with
  | last line unbroken =>
      rw [pieces, splitBy_of_unbroken unbroken, ofPieces]
      simp only [first_line unbroken, ← ofPiece_eq_some_iff]
      cases ofPiece extension line with
      | none => simp [ofPieces]
      | some told => simp [eq_comm]
  | more line mark rest unbroken breaks ih =>
      rw [pieces, splitBy_append_cons breaks, splitBy_of_unbroken unbroken,
        List.singleton_append, ofPieces]
      cases told : ofPiece extension line with
      | none =>
          simp only [first_of_silent unbroken breaks told]
          constructor
          · intro found
            obtain ⟨inner, first, rfl⟩ := ih.mp found
            exact ⟨_, ⟨inner, first, rfl⟩, by rw [shift_shift, Nat.add_assoc]⟩
          · rintro ⟨_, ⟨inner, first, rfl⟩, rfl⟩
            exact ih.mpr ⟨inner, first, by rw [shift_shift, Nat.add_assoc]⟩
      | some found =>
          simp only [first_of_yields unbroken breaks told]
          simp [eq_comm]

theorem locate_eq_some_iff {text : List Char} {location : Location} :
    locate extension text = some location ↔ First extension text location := by
  rw [locate, ofPieces_eq_some_iff]
  simp only [shift_zero]
  simp

theorem exists_first {text front back : List Char} {reading : Reading}
    {told : Location} (found : PieceAt text front piece back)
    (yields : Yields extension piece reading told) :
    ∃ location, First extension text location := by
  induction text using segment_induction isLineBreak generalizing front with
  | last line unbroken =>
      obtain ⟨_, rfl, _⟩ := (pieceAt_line unbroken).mp found
      exact ⟨told, (first_line unbroken).mpr ⟨reading, yields⟩⟩
  | more line mark rest unbroken breaks ih =>
      cases here : ofPiece extension line with
      | some location =>
          exact ⟨location, (first_of_yields unbroken breaks here).mpr rfl⟩
      | none =>
          rcases (pieceAt_cons unbroken breaks).mp found with
            ⟨_, rfl, _⟩ | ⟨later, _, behind⟩
          · cases here.symm.trans (ofPiece_eq_some_iff.mpr ⟨reading, yields⟩)
          · obtain ⟨location, first⟩ := ih behind
            exact ⟨_, (first_of_silent unbroken breaks here).mpr
              ⟨location, first, rfl⟩⟩

/-- What is located in a text, said without the reader. -/
structure Exact (extension text : String) : Prop where
  /-- Of several ways to read a piece, one is the best. -/
  best : ∀ {piece reading}, Reads extension.toList piece reading →
    ∃ best, Best extension.toList piece best ∧
      ∀ other, Best extension.toList piece other → other = best
  located : ∀ {location}, locateSourcePath extension text = some location ↔
    First extension.toList text.toList location
  missing : locateSourcePath extension text = none ↔
    ∀ front piece back, PieceAt text.toList front piece back →
      ∀ reading location, ¬ Yields extension.toList piece reading location

/-- For every extension and every text, the source path that is located is the
best reading of the first piece in which the best reading has two numbers. -/
theorem exact_locateSourcePath (extension text : String) :
    Exact extension text where
  best {piece reading} reads := by
    have here := isSome_find reading.before (by simp) reads.isSome_readHere
    rw [← reads.split] at here
    obtain ⟨⟨offset, written⟩, found⟩ := Option.isSome_iff_exists.mp here
    obtain ⟨best, isBest, _⟩ := best_of_find found
    exact ⟨best, isBest, fun other again => again.unique isBest⟩
  located := locate_eq_some_iff
  missing := by
    constructor
    · intro nothing front piece back found reading told yields
      obtain ⟨location, first⟩ := exists_first found yields
      cases nothing.symm.trans (locate_eq_some_iff.mpr first)
    · intro silent
      cases found : locateSourcePath extension text with
      | none => rfl
      | some location =>
          obtain ⟨front, piece, back, reading, inner, place, yields, _⟩ :=
            locate_eq_some_iff.mp found
          exact absurd yields (silent front piece back place reading inner)

/-- A name may hold what looks like a locator. -/
example : locateSourcePath "frg" "x.frg:1:2.frg:3:4:" =
    some ⟨3, 4, some "x.frg:1:2.frg", .sourcePath, ⟨0, 18⟩⟩ := by
  decide

/-- If the first locator has no value, those behind it are not looked at. -/
example : locateSourcePath "frg" "a.frg:4294967296:1 b.frg:1:1" = none := by
  decide

end SourcePath

end ToolBridge
