import ToolBridge.Location.Keys
import ToolBridge.Location.Terse
import ToolBridge.Proofs.Location.Preference

/-!
# Keys and terse locations

Both grammars take the first place of a text where they match.  Behind a key they
take all the digits that are there, and a terse location can be read at its place
in one way only.  So the first place says it all, and the readers find exactly
that place.
-/

namespace ToolBridge

open ToolBridge.Text ToolBridge.SourcePath

/-! ## First places -/

/-- The first place of a text where something starts. -/
structure Leftmost (starts : List Char → Prop) (text before behind : List Char) :
    Prop where
  split : text = before ++ behind
  here : starts behind
  first : ∀ front rest, text = front ++ rest → starts rest →
    before.length ≤ front.length

namespace Leftmost

variable {starts : List Char → Prop} {text before behind : List Char} {c : Char}

theorem head (here : starts text) : Leftmost starts text [] text where
  split := rfl
  here := here
  first _ _ _ _ := Nat.zero_le _

theorem cons (elsewhere : ¬ starts (c :: text))
    (leftmost : Leftmost starts text before behind) :
    Leftmost starts (c :: text) (c :: before) behind where
  split := congrArg (c :: ·) leftmost.split
  here := leftmost.here
  first front rest split begun := by
    cases front with
    | nil =>
        rw [List.nil_append] at split
        subst split
        exact absurd begun elsewhere
    | cons d front =>
        rw [List.cons_append, List.cons.injEq] at split
        exact Nat.succ_le_succ (leftmost.first front rest split.2 begun)

theorem eq_nil (leftmost : Leftmost starts text before behind) (here : starts text) :
    before = [] :=
  List.eq_nil_of_length_eq_zero (Nat.le_zero.mp (leftmost.first [] text rfl here))

theorem tail (leftmost : Leftmost starts (c :: text) before behind)
    (elsewhere : ¬ starts (c :: text)) :
    ∃ front, before = c :: front ∧ Leftmost starts text front behind := by
  cases before with
  | nil =>
      have same := leftmost.split
      rw [List.nil_append] at same
      subst same
      exact absurd leftmost.here elsewhere
  | cons d front =>
      obtain ⟨rfl, split⟩ := List.cons.inj leftmost.split
      refine ⟨front, rfl, split, leftmost.here, ?_⟩
      intro other rest same begun
      apply Nat.le_of_succ_le_succ
      exact leftmost.first (c :: other) rest (congrArg (c :: ·) same) begun

/-- In a part of the text that reaches far enough, the first place is the same,
if nothing needs more than what it starts with. -/
theorem excerpt {front right back : List Char}
    (leftmost : Leftmost starts text (front ++ before) (right ++ back))
    (kept : starts right)
    (grows : ∀ rest more, starts rest → starts (rest ++ more)) :
    Leftmost starts (before ++ right) before right where
  split := rfl
  here := kept
  first other rest split begun := by
    have whole : text = (front ++ other) ++ (rest ++ back) := by
      rw [leftmost.split, List.append_assoc, ← List.append_assoc before, split]
      simp only [List.append_assoc]
    have early := leftmost.first _ _ whole (grows rest back begun)
    rw [List.length_append, List.length_append] at early
    exact Nat.le_of_add_le_add_left early

end Leftmost

/-! ## Keys -/

theorem ByteSpan.shift_zero (span : ByteSpan) : span.shift 0 = span := by
  simp [ByteSpan.shift]

namespace Keys

variable {key text digits : List Char} {written : Written} {location : Location}

/-- The key, with a digit behind it. -/
def Starts (key text : List Char) : Prop :=
  ∃ digits after, IsRun digits ∧ text = key ++ (digits ++ after)

theorem Starts.append {more : List Char} (starts : Starts key text) :
    Starts key (text ++ more) := by
  obtain ⟨digits, after, run, rfl⟩ := starts
  exact ⟨digits, after ++ more, run, by simp only [List.append_assoc]⟩

/-- The digits behind a key, with what stands in front of the key and behind
them. -/
structure Place where
  before : List Char
  digits : List Char
  after : List Char

/-- The bytes of a key with its digits. -/
def Place.span (key : List Char) (place : Place) : ByteSpan :=
  ⟨utf8Length place.before, utf8Length (place.before ++ (key ++ place.digits))⟩

/-- The first place of a key in a text, with all the digits that are there. -/
structure Mention (key text : List Char) (place : Place) : Prop where
  leftmost : Leftmost (Starts key) text place.before
    (key ++ (place.digits ++ place.after))
  run : IsRun place.digits
  stops : ∀ c, place.after.head? = some c → isDecimal c = false

theorem readHere_eq_some_iff :
    readHere key text = some digits ↔
      IsRun digits ∧ ∃ after, text = key ++ (digits ++ after) ∧
        ∀ c, after.head? = some c → isDecimal c = false := by
  constructor
  · intro read
    unfold readHere at read
    split at read
    · rename_i behind found
      split at read
      · cases read
      · rename_i digit more taken
        cases read
        rw [← taken]
        refine ⟨isRun_takeWhile taken, behind.dropWhile isDecimal, ?_,
          stops_dropWhile behind⟩
        rw [List.takeWhile_append_dropWhile]
        exact after?_eq_some_iff.mp found
    · cases read
  · rintro ⟨run, after, rfl, stops⟩
    obtain ⟨taken, _⟩ := run.takeWhile stops
    obtain ⟨digit, digits, rfl⟩ := List.exists_cons_of_ne_nil run.1
    rw [readHere, after?_append]
    simp only [taken]

theorem isSome_readHere_iff : (readHere key text).isSome = true ↔ Starts key text := by
  constructor
  · intro read
    obtain ⟨digits, found⟩ := Option.isSome_iff_exists.mp read
    obtain ⟨run, after, split, _⟩ := readHere_eq_some_iff.mp found
    exact ⟨digits, after, run, split⟩
  · rintro ⟨digits, after, run, rfl⟩
    -- All digits are read, also those behind the ones that were given.
    have longer : readHere key (key ++ (digits ++ after)) =
        some (digits ++ after.takeWhile isDecimal) := by
      refine readHere_eq_some_iff.mpr ⟨run.append after, after.dropWhile isDecimal,
        ?_, stops_dropWhile after⟩
      rw [List.append_assoc, List.takeWhile_append_dropWhile]
    rw [longer]
    rfl

theorem not_starts_of_readHere (missing : readHere key text = none) :
    ¬ Starts key text := by
  intro starts
  rw [← isSome_readHere_iff, missing] at starts
  cases starts

theorem find_eq_some_iff {offset : Nat} :
    find key offset text = some written ↔
      ∃ place, Mention key text place ∧
        written = ⟨place.digits, (place.span key).shift offset⟩ := by
  induction text generalizing offset with
  | nil =>
      constructor
      · intro found
        cases found
      · rintro ⟨place, mention, _⟩
        have nothing := mention.leftmost.split
        simp [mention.run.1] at nothing
  | cons c text ih =>
      rw [find]
      split
      · rename_i digits read
        obtain ⟨run, after, split, stops⟩ := readHere_eq_some_iff.mp read
        have starts : Starts key (c :: text) := ⟨digits, after, run, split⟩
        constructor
        · intro found
          cases found
          refine ⟨⟨[], digits, after⟩, ⟨?_, run, stops⟩, rfl⟩
          rw [← split]
          exact Leftmost.head starts
        · rintro ⟨⟨before, others, behind⟩, mention, rfl⟩
          obtain rfl := mention.leftmost.eq_nil starts
          have again := readHere_eq_some_iff.mpr
            ⟨mention.run, behind, mention.leftmost.split, mention.stops⟩
          rw [read, Option.some.injEq] at again
          subst again
          rfl
      · rename_i missing
        have elsewhere := not_starts_of_readHere missing
        have moved (place : Place) :
            (place.span key).shift (offset + c.utf8Size) =
              (Place.span key { place with before := c :: place.before }).shift
                offset := by
          simp [Place.span, ByteSpan.shift, utf8Length, Nat.add_assoc]
        rw [ih]
        constructor
        · rintro ⟨place, mention, rfl⟩
          refine ⟨{ place with before := c :: place.before },
            ⟨mention.leftmost.cons elsewhere, mention.run, mention.stops⟩, ?_⟩
          rw [moved]
        · rintro ⟨⟨before, digits, after⟩, mention, rfl⟩
          obtain ⟨front, rfl, leftmost⟩ := mention.leftmost.tail elsewhere
          refine ⟨⟨front, digits, after⟩,
            ⟨leftmost, mention.run, mention.stops⟩, ?_⟩
          rw [moved]

/-- What the first mentions of both keys tell, if both have a value: the location
goes from the start of the one to the end of the other. -/
structure Tells (text : List Char) (line column : Place) (location : Location) :
    Prop where
  lineMention : Mention lineKey text line
  columnMention : Mention columnKey text column
  lineNumber : Denotes line.digits location.line
  columnNumber : Denotes column.digits location.column
  file : location.file = none
  grammar : location.grammar = .keyValue
  span : location.span =
    ⟨min (line.span lineKey).start (column.span columnKey).start,
      max (line.span lineKey).stop (column.span columnKey).stop⟩

theorem locate_eq_some_iff :
    locate text = some location ↔ ∃ line column, Tells text line column location := by
  constructor
  · intro found
    unfold locate at found
    split at found
    · rename_i lineFound columnFound
      obtain ⟨line, lineMention, rfl⟩ := find_eq_some_iff.mp lineFound
      obtain ⟨column, columnMention, rfl⟩ := find_eq_some_iff.mp columnFound
      rw [ByteSpan.shift_zero, ByteSpan.shift_zero] at found
      split at found
      · rename_i lineRead columnRead
        cases found
        exact ⟨line, column, lineMention, columnMention,
          (readNumber?_eq_some_iff lineMention.run.1).mp lineRead,
          (readNumber?_eq_some_iff columnMention.run.1).mp columnRead, rfl, rfl, rfl⟩
      · cases found
    · cases found
  · rintro ⟨line, column, tells⟩
    have found {key : List Char} {place : Place} (mention : Mention key text place) :
        find key 0 text = some ⟨place.digits, place.span key⟩ :=
      find_eq_some_iff.mpr ⟨place, mention, by rw [ByteSpan.shift_zero]⟩
    have lineRead :=
      (readNumber?_eq_some_iff tells.lineMention.run.1).mpr tells.lineNumber
    have columnRead :=
      (readNumber?_eq_some_iff tells.columnMention.run.1).mpr tells.columnNumber
    simp only [locate, found tells.lineMention, found tells.columnMention, lineRead,
      columnRead, ← tells.span, ← tells.file, ← tells.grammar]

end Keys

/-! ## Terse locations -/

namespace Terse

variable {text digits : List Char} {written : Written} {location : Location}

/-- The parts of a terse location are of the right kinds, whatever value its
numbers have. -/
structure Written.WellFormed (written : Written) : Prop where
  word : ∀ c ∈ written.word, isWordChar c = true
  line : IsRun written.line
  column : IsRun written.column

/-- A terse location at the head of the text. -/
def Starts (text : List Char) : Prop :=
  ∃ written : Written, written.WellFormed ∧ ∃ after, text = written.text ++ after

theorem Starts.append {more : List Char} (starts : Starts text) :
    Starts (text ++ more) := by
  obtain ⟨written, wellFormed, after, rfl⟩ := starts
  exact ⟨written, wellFormed, after ++ more, List.append_assoc _ _ _⟩

theorem readDigits_eq_some_iff {rest : List Char} :
    readDigits text = some (digits, rest) ↔
      IsRun digits ∧ text = digits ++ ':' :: rest := by
  constructor
  · intro read
    unfold readDigits at read
    split at read
    · rename_i digit more behind taken left
      cases read
      rw [← taken, ← left, List.takeWhile_append_dropWhile]
      exact ⟨isRun_takeWhile taken, rfl⟩
    · cases read
  · rintro ⟨run, rfl⟩
    have colon : ∀ c, (':' :: rest).head? = some c → isDecimal c = false := by
      intro c head
      cases head
      decide
    obtain ⟨taken, left⟩ := run.takeWhile colon
    obtain ⟨digit, digits, rfl⟩ := List.exists_cons_of_ne_nil run.1
    simp only [readDigits, taken, left]

theorem readNumbers_eq_some_iff :
    readNumbers text = some written ↔
      written.WellFormed ∧ written.word = [] ∧ ∃ after, text = written.text ++ after := by
  constructor
  · intro read
    unfold readNumbers at read
    split at read
    · rename_i behind
      split at read
      · rename_i line afterLine lineRead
        obtain ⟨lineRun, rfl⟩ := readDigits_eq_some_iff.mp lineRead
        split at read
        · rename_i column afterColumn columnRead
          obtain ⟨columnRun, rfl⟩ := readDigits_eq_some_iff.mp columnRead
          cases read
          refine ⟨⟨by simp, lineRun, columnRun⟩, rfl, afterColumn, ?_⟩
          simp [Written.text]
        · cases read
      · cases read
    · cases read
  · rintro ⟨wellFormed, wordless, after, rfl⟩
    obtain ⟨word, line, column⟩ := written
    obtain rfl : word = [] := wordless
    have lineRead := readDigits_eq_some_iff.mpr
      ⟨wellFormed.line, Eq.refl (line ++ ':' :: (column ++ ':' :: after))⟩
    have columnRead := readDigits_eq_some_iff.mpr
      ⟨wellFormed.column, Eq.refl (column ++ ':' :: after)⟩
    have opened : Written.text ⟨[], line, column⟩ ++ after =
        ':' :: (line ++ ':' :: (column ++ ':' :: after)) := by
      simp [Written.text]
    rw [opened, readNumbers, lineRead]
    simp only [columnRead]

theorem readHere_eq_some_iff :
    readHere text = some written ↔
      written.WellFormed ∧ ∃ after, text = written.text ++ after := by
  induction text generalizing written with
  | nil =>
      constructor
      · intro read
        cases read
      · rintro ⟨_, after, split⟩
        simp [Written.text] at split
  | cons c text ih =>
      rw [readHere]
      split
      · rename_i inWord
        constructor
        · intro read
          obtain ⟨shorter, found, rfl⟩ := Option.map_eq_some_iff.mp read
          obtain ⟨wellFormed, after, split⟩ := ih.mp found
          refine ⟨⟨?_, wellFormed.line, wellFormed.column⟩, after,
            congrArg (c :: ·) split⟩
          exact List.forall_mem_cons.mpr ⟨inWord, wellFormed.word⟩
        · rintro ⟨wellFormed, after, split⟩
          obtain ⟨word, line, column⟩ := written
          cases word with
          | nil =>
              -- The location would start with its colon.
              have colon : c = ':' := (List.cons.inj split).1
              rw [colon] at inWord
              cases inWord
          | cons d word =>
              obtain ⟨rfl, split⟩ := List.cons.inj split
              have shorter : readHere text = some ⟨word, line, column⟩ :=
                ih.mpr ⟨⟨(List.forall_mem_cons.mp wellFormed.word).2, wellFormed.line,
                  wellFormed.column⟩, after, split⟩
              rw [shorter]
              rfl
      · rename_i outside
        rw [readNumbers_eq_some_iff]
        constructor
        · rintro ⟨wellFormed, _, split⟩
          exact ⟨wellFormed, split⟩
        · rintro ⟨wellFormed, after, split⟩
          refine ⟨wellFormed, ?_, after, split⟩
          obtain ⟨word, line, column⟩ := written
          cases word with
          | nil => rfl
          | cons d word =>
              obtain ⟨rfl, _⟩ := List.cons.inj split
              exact absurd (wellFormed.word c List.mem_cons_self) outside

theorem not_starts_of_readHere (missing : readHere text = none) : ¬ Starts text := by
  rintro ⟨written, here⟩
  cases missing.symm.trans (readHere_eq_some_iff.mpr here)

theorem find_eq_some_iff {offset : Nat} :
    find text = some (offset, written) ↔
      written.WellFormed ∧ ∃ before after,
        Leftmost Starts text before (written.text ++ after) ∧
          offset = utf8Length before := by
  induction text generalizing offset with
  | nil =>
      constructor
      · intro found
        cases found
      · rintro ⟨_, before, after, leftmost, _⟩
        have nothing := leftmost.split
        simp [Written.text] at nothing
  | cons c text ih =>
      rw [find]
      split
      · rename_i here read
        obtain ⟨wellFormed, after, split⟩ := readHere_eq_some_iff.mp read
        have starts : Starts (c :: text) := ⟨here, wellFormed, after, split⟩
        constructor
        · intro found
          cases found
          refine ⟨wellFormed, [], after, ?_, rfl⟩
          rw [← split]
          exact Leftmost.head starts
        · rintro ⟨again, before, behind, leftmost, rfl⟩
          obtain rfl := leftmost.eq_nil starts
          have same := readHere_eq_some_iff.mpr ⟨again, behind, leftmost.split⟩
          rw [read, Option.some.injEq] at same
          subst same
          rfl
      · rename_i missing
        have elsewhere := not_starts_of_readHere missing
        rw [Option.map_eq_some_iff]
        constructor
        · rintro ⟨⟨inner, _⟩, found, same⟩
          cases same
          obtain ⟨wellFormed, before, after, leftmost, rfl⟩ := ih.mp found
          exact ⟨wellFormed, c :: before, after, leftmost.cons elsewhere, rfl⟩
        · rintro ⟨wellFormed, before, after, leftmost, rfl⟩
          obtain ⟨front, rfl, behind⟩ := leftmost.tail elsewhere
          exact ⟨_, ih.mpr ⟨wellFormed, front, after, behind, rfl⟩, rfl⟩

/-- What the first terse location of a text tells, if its numbers have a
value. -/
structure Tells (text before : List Char) (written : Written) (after : List Char)
    (location : Location) : Prop where
  leftmost : Leftmost Starts text before (written.text ++ after)
  wellFormed : written.WellFormed
  line : Denotes written.line location.line
  column : Denotes written.column location.column
  file : location.file = none
  grammar : location.grammar = .terse
  span : location.span = ⟨utf8Length before, utf8Length (before ++ written.text)⟩

theorem locate_eq_some_iff :
    locate text = some location ↔
      ∃ before written after, Tells text before written after location := by
  rw [locate, survey_eq]
  constructor
  · intro found
    dsimp only at found
    split at found
    · rename_i offset written first
      obtain ⟨wellFormed, before, after, leftmost, rfl⟩ := find_eq_some_iff.mp first
      split at found
      · rename_i lineRead columnRead
        cases found
        refine ⟨before, written, after, leftmost, wellFormed,
          (readNumber?_eq_some_iff wellFormed.line.1).mp lineRead,
          (readNumber?_eq_some_iff wellFormed.column.1).mp columnRead, rfl, rfl, ?_⟩
        rw [utf8Length_append]
      · cases found
    · cases found
  · rintro ⟨before, written, after, tells⟩
    have first := find_eq_some_iff.mpr
      ⟨tells.wellFormed, before, after, tells.leftmost, rfl⟩
    have line := (readNumber?_eq_some_iff tells.wellFormed.line.1).mpr tells.line
    have column := (readNumber?_eq_some_iff tells.wellFormed.column.1).mpr tells.column
    simp only [first, line, column, ← utf8Length_append, ← tells.span, ← tells.file,
      ← tells.grammar]

end Terse

end ToolBridge
