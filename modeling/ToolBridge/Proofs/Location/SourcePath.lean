import ToolBridge.Location.SourcePath
import ToolBridge.Proofs.Text.Lines

/-!
# What the reader of source paths accepts

A locator is a run of separators, a name, the extension and two runs of
digits.  The reader finds a locator in a text exactly if there is one, and what
it reads is a locator that stands where it was found.

The characters that no name can hold are walls: nothing is read across them, so
a directory that is free of locators is passed over.
-/

namespace ToolBridge.SourcePath

open ToolBridge.Text

variable {extension text : List Char} {written : Written}

/-- Digits of any script, at least one. -/
def IsRun (digits : List Char) : Prop :=
  digits ≠ [] ∧ ∀ c ∈ digits, isDecimal c = true

/-- The parts of a locator are of the right kinds, whatever value its numbers
have. -/
structure Written.WellFormed (written : Written) : Prop where
  separators : ∀ c ∈ written.separators, isSeparator c = true
  name : ∀ c ∈ written.name, isNameChar c = true
  line : IsRun written.line
  column : IsRun written.column

/-- There is no locator in the text. -/
def Free (extension text : List Char) : Prop :=
  ∀ before written after, Written.WellFormed written →
    text ≠ before ++ written.text extension ++ after

theorem Free.part {part : List Char} (free : Free extension text)
    (inside : part <:+: text) : Free extension part := by
  obtain ⟨left, right, rfl⟩ := inside
  rintro before written after wellFormed rfl
  apply free (left ++ before) written (after ++ right) wellFormed
  simp only [List.append_assoc]

theorem Free.tail {c : Char} {cs : List Char} (free : Free extension (c :: cs)) :
    Free extension cs :=
  free.part (List.suffix_cons c cs).isInfix

theorem isSeparator_of_isNameChar {c : Char} (named : isNameChar c = true) :
    isSeparator c = false := by
  simp only [isNameChar, Bool.and_eq_true, Bool.not_eq_true'] at named
  exact named.1

/-! ## Positions -/

theorem isRun_takeWhile {c : Char} {cs : List Char}
    (taken : text.takeWhile isDecimal = c :: cs) :
    IsRun (text.takeWhile isDecimal) := by
  refine ⟨by simp [taken], ?_⟩
  exact List.all_eq_true.mp List.all_takeWhile

theorem takeWhile_run {test : Char → Bool} {run rest : List Char}
    (passes : ∀ c ∈ run, test c = true)
    (stops : ∀ c, rest.head? = some c → test c = false) :
    (run ++ rest).takeWhile test = run ∧ (run ++ rest).dropWhile test = rest := by
  rw [List.takeWhile_append_of_pos passes, List.dropWhile_append_of_pos passes]
  cases rest with
  | nil => simp
  | cons c rest => simp [stops c rfl]

/-- Nothing is taken across such a symbol. -/
theorem takeWhile_append_cons {test : Char → Bool} {c : Char} (stops : test c = false)
    (text rest : List Char) :
    (text ++ c :: rest).takeWhile test = text.takeWhile test ∧
      (text ++ c :: rest).dropWhile test = text.dropWhile test ++ c :: rest := by
  induction text with
  | nil => simp [stops]
  | cons d text ih =>
      cases passes : test d with
      | false => simp [passes]
      | true => simp [passes, ih]

theorem IsRun.takeWhile {digits rest : List Char} (run : IsRun digits)
    (stops : ∀ c, rest.head? = some c → isDecimal c = false) :
    (digits ++ rest).takeWhile isDecimal = digits ∧
      (digits ++ rest).dropWhile isDecimal = rest :=
  takeWhile_run run.2 stops

theorem IsRun.append {digits : List Char} (run : IsRun digits) (rest : List Char) :
    IsRun (digits ++ rest.takeWhile isDecimal) := by
  refine ⟨by simp [run.1], ?_⟩
  intro c member
  rcases List.mem_append.mp member with inside | behind
  · exact run.2 c inside
  · exact List.all_eq_true.mp List.all_takeWhile c behind

theorem stops_dropWhile (text : List Char) :
    ∀ c, (text.dropWhile isDecimal).head? = some c → isDecimal c = false := by
  intro c head
  have stopped := List.head?_dropWhile_not isDecimal text
  rw [head] at stopped
  simpa using stopped

theorem readPosition_of_ne {c : Char} (different : c ≠ ':') (rest : List Char) :
    readPosition (c :: rest) = none := by
  unfold readPosition
  split
  · rename_i equal
    cases equal
    exact absurd rfl different
  · rfl

theorem readPosition_append {line column rest : List Char} (lineRun : IsRun line)
    (columnRun : IsRun column)
    (stops : ∀ c, rest.head? = some c → isDecimal c = false) :
    readPosition (':' :: line ++ ':' :: column ++ rest) =
      some (line, column, rest.head? == some ':') := by
  have colon : ∀ c, (':' :: (column ++ rest)).head? = some c →
      isDecimal c = false := by
    intro c head
    cases head
    decide
  obtain ⟨lineTaken, lineLeft⟩ := lineRun.takeWhile colon
  obtain ⟨columnTaken, columnLeft⟩ := columnRun.takeWhile stops
  simp only [List.cons_append, List.append_assoc, readPosition, lineTaken, lineLeft]
  obtain ⟨d, line, rfl⟩ := List.exists_cons_of_ne_nil lineRun.1
  obtain ⟨e, column, rfl⟩ := List.exists_cons_of_ne_nil columnRun.1
  simp only [columnTaken, columnLeft]

theorem eq_append_of_readPosition {line column : List Char} {colon : Bool}
    (read : readPosition text = some (line, column, colon)) :
    IsRun line ∧ IsRun column ∧ ∃ rest,
      text = ':' :: line ++ ':' :: column ++ rest ∧
        (rest.head? == some ':') = colon := by
  unfold readPosition at read
  split at read
  · rename_i rest
    dsimp only at read
    split at read
    · rename_i c cs behind lineTaken lineLeft
      split at read
      · cases read
      · rename_i d ds columnTaken
        cases read
        refine ⟨isRun_takeWhile lineTaken, isRun_takeWhile columnTaken,
          behind.dropWhile isDecimal, ?_, rfl⟩
        have whole := List.takeWhile_append_dropWhile (p := isDecimal) (l := rest)
        rw [lineLeft] at whole
        simp [whole]
    · cases read
  · cases read

/-! ## What is read is there -/

/-- The text starts with the locator. -/
def Heads (extension : List Char) (written : Written) (text : List Char) : Prop :=
  written.WellFormed ∧ ∃ after, text = written.text extension ++ after

theorem heads_of_readExtension (read : readExtension extension text = some written) :
    written.separators = [] ∧ Heads extension written text := by
  unfold readExtension at read
  split at read
  · rename_i rest extended
    split at read
    · rename_i line column colon position
      cases read
      obtain ⟨lineRun, columnRun, behind, rfl, closed⟩ :=
        eq_append_of_readPosition position
      refine ⟨rfl, ⟨by simp, by simp, lineRun, columnRun⟩, ?_⟩
      rw [after?_eq_some_iff.mp extended]
      cases colon with
      | false => exact ⟨behind, by simp [Written.text, Written.file]⟩
      | true =>
          obtain ⟨after, rfl⟩ := List.head?_eq_some_iff.mp (beq_iff_eq.mp closed)
          exact ⟨after, by simp [Written.text, Written.file]⟩
    · cases read
  · cases read

theorem heads_of_readName (read : readName extension text = some written) :
    written.separators = [] ∧ Heads extension written text := by
  induction text generalizing written with
  | nil => cases read
  | cons c cs ih =>
      simp only [readName] at read
      split at read
      · rename_i longer taken
        cases read
        split at taken
        · rename_i named
          obtain ⟨shorter, found, rfl⟩ := Option.map_eq_some_iff.mp taken
          obtain ⟨bare, wellFormed, after, rfl⟩ := ih found
          refine ⟨bare, ⟨wellFormed.separators, ?_, wellFormed.line,
            wellFormed.column⟩, after, by simp [Written.text, Written.file, bare]⟩
          exact List.forall_mem_cons.mpr ⟨named, wellFormed.name⟩
        · cases taken
      · exact heads_of_readExtension read

theorem heads_of_readHere (read : readHere extension text = some written) :
    Heads extension written text := by
  induction text generalizing written with
  | nil => cases read
  | cons c cs ih =>
      rw [readHere] at read
      split at read
      · rename_i separates
        obtain ⟨behind, found, rfl⟩ := Option.map_eq_some_iff.mp read
        obtain ⟨wellFormed, after, rfl⟩ := ih found
        refine ⟨⟨?_, wellFormed.name, wellFormed.line, wellFormed.column⟩, after,
          by simp [Written.text, Written.file]⟩
        exact List.forall_mem_cons.mpr ⟨separates, wellFormed.separators⟩
      · exact (heads_of_readName read).2

theorem heads_of_find {offset : Nat}
    (found : find extension text = some (offset, written)) :
    ∃ before behind, text = before ++ behind ∧ Heads extension written behind := by
  induction text generalizing offset with
  | nil => cases found
  | cons c cs ih =>
      rw [find] at found
      split at found
      · rename_i here read
        cases found
        exact ⟨[], c :: cs, rfl, heads_of_readHere read⟩
      · obtain ⟨later, foundLater, same⟩ := Option.map_eq_some_iff.mp found
        cases same
        obtain ⟨before, behind, rfl, heads⟩ := ih foundLater
        exact ⟨c :: before, behind, rfl, heads⟩

/-! ## What is there is read -/

theorem readPosition_run {line column : List Char} (lineRun : IsRun line)
    (columnRun : IsRun column) (rest : List Char) :
    readPosition (':' :: line ++ ':' :: column ++ rest) =
      some (line, column ++ rest.takeWhile isDecimal,
        (rest.dropWhile isDecimal).head? == some ':') := by
  have read :=
    readPosition_append lineRun (columnRun.append rest) (stops_dropWhile rest)
  simpa using read

theorem isSome_readExtension {rest : List Char}
    (read : (readPosition rest).isSome = true) :
    (readExtension extension ('.' :: extension ++ rest)).isSome = true := by
  obtain ⟨⟨line, column, colon⟩, found⟩ := Option.isSome_iff_exists.mp read
  have extended : after? ('.' :: extension) ('.' :: extension ++ rest) = some rest :=
    after?_eq_some_iff.mpr rfl
  rw [readExtension, extended]
  simp [found]

theorem isSome_readName {name rest : List Char}
    (named : ∀ c ∈ name, isNameChar c = true) (telling : rest ≠ [])
    (read : (readExtension extension rest).isSome = true) :
    (readName extension (name ++ rest)).isSome = true := by
  induction name with
  | nil =>
      obtain ⟨c, cs, rfl⟩ := List.exists_cons_of_ne_nil telling
      rw [List.nil_append, readName]
      split
      · rfl
      · exact read
  | cons c name ih =>
      have longer := ih fun d member => named d (List.mem_cons_of_mem c member)
      obtain ⟨written, found⟩ := Option.isSome_iff_exists.mp longer
      simp [readName, named c List.mem_cons_self, found]

/-- A text that starts with no separator is read from its name on. -/
theorem readHere_eq_readName
    (opens : ∀ c, text.head? = some c → isSeparator c = false) :
    readHere extension text = readName extension text := by
  cases text with
  | nil => rfl
  | cons c cs => rw [readHere, opens c rfl, if_neg (by simp)]

theorem find_of_readHere (read : readHere extension text = some written) :
    find extension text = some (0, written) := by
  cases text with
  | nil => cases read
  | cons c cs => rw [find, read]

theorem isSome_readHere {separators rest : List Char}
    (separate : ∀ c ∈ separators, isSeparator c = true)
    (opens : ∀ c, rest.head? = some c → isSeparator c = false)
    (read : (readName extension rest).isSome = true) :
    (readHere extension (separators ++ rest)).isSome = true := by
  induction separators with
  | nil =>
      rw [List.nil_append, readHere_eq_readName opens]
      exact read
  | cons c separators ih =>
      have behind := ih fun d member => separate d (List.mem_cons_of_mem c member)
      simpa [readHere, separate c List.mem_cons_self] using behind

theorem isSome_find {rest : List Char} (before : List Char) (telling : rest ≠ [])
    (read : (readHere extension rest).isSome = true) :
    (find extension (before ++ rest)).isSome = true := by
  induction before with
  | nil =>
      obtain ⟨c, cs, rfl⟩ := List.exists_cons_of_ne_nil telling
      obtain ⟨written, found⟩ := Option.isSome_iff_exists.mp read
      simp [find, found]
  | cons c before ih =>
      rw [List.cons_append, find]
      split
      · rfl
      · simpa using ih

theorem opens_name {name : List Char} (named : ∀ c ∈ name, isNameChar c = true)
    (rest : List Char) :
    ∀ c, (name ++ '.' :: rest).head? = some c → isSeparator c = false := by
  intro c head
  cases name with
  | nil =>
      cases head
      rfl
  | cons d name =>
      cases head
      exact isSeparator_of_isNameChar (named c List.mem_cons_self)

theorem isSome_readHere_locator {separators name line column : List Char}
    (separate : ∀ c ∈ separators, isSeparator c = true)
    (named : ∀ c ∈ name, isNameChar c = true) (lineRun : IsRun line)
    (columnRun : IsRun column) (rest : List Char) :
    (readHere extension (separators ++ (name ++ '.' :: (extension ++
      (':' :: line ++ ':' :: column ++ rest))))).isSome = true := by
  have position : (readPosition
      (':' :: line ++ ':' :: column ++ rest)).isSome = true := by
    rw [readPosition_run lineRun columnRun rest]
    rfl
  have extended := @isSome_readExtension extension _ position
  have read := isSome_readName named (by simp) extended
  exact isSome_readHere separate (opens_name named _) read

theorem find_eq_none_iff : find extension text = none ↔ Free extension text := by
  constructor
  · rintro missing before written after wellFormed rfl
    have here := @isSome_readHere_locator extension _ _ _ _ wellFormed.separators
      wellFormed.name wellFormed.line wellFormed.column
      ((if written.colon then [':'] else []) ++ after)
    have found := isSome_find before (by simp) here
    rw [← Option.not_isSome_iff_eq_none] at missing
    apply missing
    simpa [Written.text, Written.file] using found
  · intro free
    cases found : find extension text with
    | none => rfl
    | some result =>
        obtain ⟨before, behind, rfl, wellFormed, after, rfl⟩ := heads_of_find found
        exact absurd (by simp) (free before result.2 after wellFormed)

/-! ## Walls -/

theorem after?_append_cons {literal : List Char} {c : Char} (apart : c ∉ literal)
    (text rest : List Char) :
    after? literal (text ++ c :: rest) =
      (after? literal text).map (· ++ c :: rest) := by
  induction literal generalizing text with
  | nil => rfl
  | cons d literal ih =>
      rw [List.mem_cons, not_or] at apart
      obtain ⟨different, apart⟩ := apart
      cases text with
      | nil => simp [after?, Ne.symm different]
      | cons e text =>
          rw [List.cons_append, after?, after?]
          split
          · exact ih apart text
          · rfl

/-- Two tables without a common code point have no common character. -/
theorem inRanges_of_apart {ranges others : List (Nat × Nat)} {c : Char}
    (apart : ∀ range ∈ ranges, ∀ other ∈ others,
      range.2 < other.1 ∨ other.2 < range.1)
    (inside : inRanges ranges c = true) : inRanges others c = false := by
  simp only [inRanges, List.any_eq_true, Bool.and_eq_true, decide_eq_true_eq]
    at inside
  obtain ⟨range, listed, low, high⟩ := inside
  simp only [inRanges, List.any_eq_false, Bool.and_eq_true, decide_eq_true_eq]
  rintro other listedToo ⟨lower, higher⟩
  have disjoint := apart range listed other listedToo
  omega

/-- The digits of all scripts can stand in a name. -/
theorem isDecimal_of_isNameChar {c : Char} (noName : isNameChar c = false) :
    isDecimal c = false := by
  simp only [isNameChar, Bool.and_eq_false_iff, Bool.not_eq_false'] at noName
  rcases noName with separates | blank
  · simp only [isSeparator, Bool.or_eq_true, beq_iff_eq] at separates
    rcases separates with rfl | rfl <;> decide
  · exact inRanges_of_apart (by decide) blank

/-- A character that belongs to no part of a locator but its separators. -/
structure IsWall (extension : List Char) (c : Char) : Prop where
  noName : isNameChar c = false
  noDigit : isDecimal c = false
  noLetter : c ∉ extension

namespace IsWall

variable {c : Char} {rest : List Char}

/-- What no name can hold is a wall, if the extension could stand in a name. -/
theorem of_isNameChar (plain : ∀ d ∈ extension, isNameChar d = true)
    (noName : isNameChar c = false) : IsWall extension c := by
  refine ⟨noName, isDecimal_of_isNameChar noName, ?_⟩
  intro letter
  cases (plain c letter).symm.trans noName

theorem ne_of_isNameChar (wall : IsWall extension c) {d : Char}
    (named : isNameChar d = true) : d ≠ c := by
  rintro rfl
  cases named.symm.trans wall.noName

theorem readPosition_append (wall : IsWall extension c) (text rest : List Char) :
    readPosition (text ++ c :: rest) = readPosition text := by
  have noColon : c ≠ ':' := (wall.ne_of_isNameChar (by decide)).symm
  cases text with
  | nil => exact readPosition_of_ne noColon rest
  | cons d text =>
      by_cases colon : d = ':'
      · subst colon
        obtain ⟨lineTaken, lineLeft⟩ := takeWhile_append_cons wall.noDigit text rest
        rw [List.cons_append, readPosition, readPosition, lineTaken, lineLeft]
        cases text.takeWhile isDecimal with
        | nil => rfl
        | cons digit line =>
            cases text.dropWhile isDecimal with
            | nil => simp [noColon]
            | cons e behind =>
                obtain ⟨columnTaken, columnLeft⟩ :=
                  takeWhile_append_cons wall.noDigit behind rest
                by_cases colon : e = ':'
                · subst colon
                  simp only [List.cons_append, columnTaken, columnLeft]
                  cases behind.dropWhile isDecimal with
                  | nil => simp [beq_eq_false_iff_ne.mpr noColon]
                  | cons f behind => rfl
                · simp [colon]
      · rw [List.cons_append, readPosition_of_ne colon, readPosition_of_ne colon]

theorem readExtension_append (wall : IsWall extension c) (text rest : List Char) :
    readExtension extension (text ++ c :: rest) = readExtension extension text := by
  have apart : c ∉ '.' :: extension := by
    rw [List.mem_cons, not_or]
    exact ⟨(wall.ne_of_isNameChar (by decide)).symm, wall.noLetter⟩
  rw [readExtension, readExtension, after?_append_cons apart]
  cases after? ('.' :: extension) text with
  | none => rfl
  | some behind =>
      simp only [Option.map_some, wall.readPosition_append]

/-- A name is read as if the text ended at the wall. -/
theorem readName_append (wall : IsWall extension c) (text rest : List Char) :
    readName extension (text ++ c :: rest) = readName extension text := by
  induction text with
  | nil =>
      have nothing := wall.readExtension_append [] rest
      rw [List.nil_append] at nothing ⊢
      simp only [readName, wall.noName, nothing]
      rfl
  | cons d text ih =>
      have extended := wall.readExtension_append (d :: text) rest
      rw [List.cons_append] at extended ⊢
      rw [readName, readName, ih, extended]

end IsWall

/-! ## The longest name -/

/-- No position starts anywhere in the text. -/
def Placeless (text : List Char) : Prop :=
  ∀ part, part <:+ text → readPosition part = none

theorem Placeless.cons {c : Char} (placeless : Placeless text)
    (here : readPosition (c :: text) = none) : Placeless (c :: text) := by
  intro part inside
  rcases List.suffix_cons_iff.mp inside with rfl | behind
  · exact here
  · exact placeless part behind

theorem Placeless.digits {digits : List Char} (run : IsRun digits)
    (placeless : Placeless text) : Placeless (digits ++ text) := by
  have decimal := run.2
  clear run
  induction digits with
  | nil => exact placeless
  | cons c digits ih =>
      obtain ⟨digit, decimal⟩ := List.forall_mem_cons.mp decimal
      apply (ih decimal).cons
      apply readPosition_of_ne
      rintro rfl
      exact absurd digit (by decide)

theorem stops_of_spent {rest : List Char} (spent : rest = [] ∨ rest = [':']) :
    ∀ c, rest.head? = some c → isDecimal c = false := by
  intro c head
  rcases spent with rfl | rfl
  · cases head
  · cases head
    decide

/-- Behind its first colon a position holds no other one, since a position is
not followed by a third number. -/
theorem placeless_behind {line column rest : List Char} (lineRun : IsRun line)
    (columnRun : IsRun column) (spent : rest = [] ∨ rest = [':']) :
    Placeless (line ++ ':' :: column ++ rest) := by
  have placeless : Placeless rest := by
    intro part inside
    rcases spent with rfl | rfl
    · rw [List.suffix_nil.mp inside]
      rfl
    · rcases List.suffix_cons_iff.mp inside with rfl | nothing
      · rfl
      · rw [List.suffix_nil.mp nothing]
        rfl
  have columnOnly : readPosition (':' :: (column ++ rest)) = none := by
    obtain ⟨taken, left⟩ := columnRun.takeWhile (stops_of_spent spent)
    obtain ⟨c, column, rfl⟩ := List.exists_cons_of_ne_nil columnRun.1
    rw [readPosition, taken, left]
    rcases spent with rfl | rfl <;> rfl
  rw [List.append_assoc, List.cons_append]
  exact ((placeless.digits columnRun).cons columnOnly).digits lineRun

/-- The extension is too long to stand once more in front of a position that
starts later. -/
theorem readName_behind {inner : List Char} (placeless : Placeless inner) :
    readName extension (extension ++ ':' :: inner) = none := by
  cases found : readName extension (extension ++ ':' :: inner) with
  | none => rfl
  | some written =>
      obtain ⟨bare, wellFormed, after, split⟩ := heads_of_readName found
      let rest := (if written.colon then [':'] else []) ++ after
      let part := ':' :: written.line ++ ':' :: written.column ++ rest
      have cut : extension ++ ':' :: inner =
          (written.name ++ '.' :: extension) ++ part := by
        rw [split]
        simp [Written.text, Written.file, bare, part, rest]
      have shorter : part.length < (':' :: inner).length := by
        have same := congrArg List.length cut
        simp only [List.length_append, List.length_cons] at same ⊢
        omega
      have inside : part <:+ ':' :: inner :=
        List.suffix_of_suffix_length_le ⟨_, cut.symm⟩ ⟨_, rfl⟩
          (Nat.le_of_lt shorter)
      have read := readPosition_run wellFormed.line wellFormed.column rest
      rcases List.suffix_cons_iff.mp inside with whole | behind
      · exact absurd (congrArg List.length whole) (Nat.ne_of_lt shorter)
      · cases (placeless part behind).symm.trans read

/-- If no name can be read behind the dot of an extension, the name ends there. -/
theorem readName_dot {name rest line column : List Char} {colon : Bool}
    (named : ∀ c ∈ name, isNameChar c = true)
    (behind : readName extension (extension ++ rest) = none)
    (placed : readPosition rest = some (line, column, colon)) :
    readName extension (name ++ '.' :: (extension ++ rest)) =
      some ⟨[], name, line, column, colon⟩ := by
  induction name with
  | nil =>
      have extended := after?_eq_some_iff.mpr (Eq.refl ('.' :: extension ++ rest))
      rw [List.cons_append] at extended
      rw [List.nil_append, readName, behind, readExtension, extended]
      simp [placed]
  | cons c name ih =>
      obtain ⟨letter, named⟩ := List.forall_mem_cons.mp named
      rw [List.cons_append, readName, ih named, if_pos letter]
      rfl

/-- A name goes up to the last extension with a position behind it. -/
theorem readName_position {name line column rest : List Char}
    (named : ∀ c ∈ name ++ '.' :: extension, isNameChar c = true)
    (lineRun : IsRun line) (columnRun : IsRun column)
    (spent : rest = [] ∨ rest = [':']) :
    readName extension
        (name ++ '.' :: extension ++ (':' :: line ++ ':' :: column ++ rest)) =
      some ⟨[], name, line, column, rest.head? == some ':'⟩ := by
  have behind := @readName_behind extension _
    (placeless_behind lineRun columnRun spent)
  have placed := readPosition_append lineRun columnRun (stops_of_spent spent)
  have letters : ∀ c ∈ name, isNameChar c = true :=
    fun c member => named c (List.mem_append_left _ member)
  rw [List.append_assoc, List.cons_append]
  exact readName_dot letters behind placed

/-! ## What stands in front -/

/-- Nothing, or a text whose last character is a separator. -/
def IsFolder (front : List Char) : Prop :=
  ∀ mark, front.getLast? = some mark → isSeparator mark = true

/-- Nothing, or a text whose last character is in no name. -/
def IsWalled (front : List Char) : Prop :=
  ∀ mark, front.getLast? = some mark → isNameChar mark = false

theorem IsFolder.walled {front : List Char} (folder : IsFolder front) :
    IsWalled front := by
  intro mark last
  simp [isNameChar, folder mark last]

theorem IsWalled.of_append {left right : List Char}
    (walled : IsWalled (left ++ right)) : IsWalled right := by
  intro mark last
  apply walled mark
  rw [List.getLast?_append, last]
  rfl

theorem IsWalled.tail {c : Char} {cs : List Char} (walled : IsWalled (c :: cs)) :
    IsWalled cs :=
  @IsWalled.of_append [c] cs walled

section Front

variable {front behind : List Char}

/-- In front of its last wall, nothing is read in a text without locators. -/
theorem readName_walled (plain : ∀ c ∈ extension, isNameChar c = true)
    (free : Free extension front) (walled : IsWalled front) (telling : front ≠ [])
    (behind : List Char) : readName extension (front ++ behind) = none := by
  obtain ⟨mark, last⟩ := Option.ne_none_iff_exists'.mp
    (mt List.getLast?_eq_none_iff.mp telling)
  obtain ⟨before, rfl⟩ := List.getLast?_eq_some_iff.mp last
  have wall : IsWall extension mark := .of_isNameChar plain (walled mark last)
  rw [List.append_assoc, List.singleton_append, wall.readName_append]
  cases found : readName extension before with
  | none => rfl
  | some written =>
      obtain ⟨bare, wellFormed, after, split⟩ := heads_of_readName found
      exact absurd (by simp [split]) (free [] written (after ++ [mark]) wellFormed)

/-- The locator behind a wall is read with the separators in front of it, or
from there on nothing is read. -/
theorem readHere_walled (plain : ∀ c ∈ extension, isNameChar c = true)
    (free : Free extension front) (walled : IsWalled front)
    (opens : ∀ c, behind.head? = some c → isSeparator c = false)
    (read : readName extension behind = some written) :
    readHere extension (front ++ behind) = none ∨
      readHere extension (front ++ behind) =
        some { written with separators := front } := by
  induction front with
  | nil =>
      have bare := (heads_of_readName read).1
      refine Or.inr ?_
      rw [List.nil_append, readHere_eq_readName opens, read, ← bare]
  | cons c front ih =>
      have nothing := readName_walled plain free walled (by simp) behind
      rw [List.cons_append] at nothing ⊢
      rw [readHere]
      split
      · rcases ih free.tail walled.tail with missing | found
        · exact Or.inl (by rw [missing]; rfl)
        · exact Or.inr (by rw [found]; rfl)
      · exact Or.inl nothing

theorem find_walled (plain : ∀ c ∈ extension, isNameChar c = true)
    (free : Free extension front) (walled : IsWalled front)
    (opens : ∀ c, behind.head? = some c → isSeparator c = false)
    (read : readName extension behind = some written) :
    ∃ before separators, front = before ++ separators ∧
      find extension (front ++ behind) =
        some (utf8Length before, { written with separators }) := by
  induction front with
  | nil =>
      have bare := (heads_of_readName read).1
      have here : readHere extension behind = some { written with separators := [] } := by
        rw [readHere_eq_readName opens, read, ← bare]
      exact ⟨[], [], rfl, find_of_readHere here⟩
  | cons c front ih =>
      have here := readHere_walled plain free walled opens read
      rw [List.cons_append] at here ⊢
      rw [find]
      rcases here with missing | found
      · obtain ⟨before, separators, rfl, found⟩ := ih free.tail walled.tail
        exact ⟨c :: before, separators, rfl, by rw [missing, found]; rfl⟩
      · exact ⟨[], c :: front, rfl, by rw [found]; rfl⟩

/-- The place that a location tells. -/
def Tells (line column : Nat) (file : List Char) (location : Location) : Prop :=
  location.line = line ∧ location.column = column ∧
    location.file = some (String.ofList file)

/-- The place is told with all that was written up to its end. -/
theorem ofPiece_walled {line column : Nat}
    (plain : ∀ c ∈ extension, isNameChar c = true)
    (free : Free extension front) (walled : IsWalled front)
    (opens : ∀ c, behind.head? = some c → isSeparator c = false)
    (read : readName extension behind = some written)
    (lineRead : readNumber? written.line = some line)
    (columnRead : readNumber? written.column = some column) :
    ∃ location, ofPiece extension (front ++ behind) = some location ∧
      Tells line column (written.file extension) location ∧
      location.grammar = .sourcePath ∧
      location.span.stop = utf8Length (front ++ written.text extension) := by
  obtain ⟨before, separators, rfl, found⟩ := find_walled plain free walled opens read
  have bare := (heads_of_readName read).1
  rw [ofPiece, survey_eq]
  simp only [found, Written.location?, lineRead, columnRead]
  refine ⟨_, rfl, ⟨rfl, rfl, rfl⟩, rfl, ?_⟩
  simp only [Written.text, Written.file, bare, utf8Length_append, List.nil_append,
    Nat.add_assoc]

theorem ofPiece_of_free (free : Free extension text) :
    ofPiece extension text = none := by
  rw [ofPiece, survey_eq]
  simp only [find_eq_none_iff.mpr free]

/-- Behind a wall with no locators in front of it, the name that can be read in
the rest of the line is the one that is located, however many lines stand in
front. -/
theorem locate_walled {line column : Nat}
    (plain : ∀ c ∈ extension, isNameChar c = true)
    (free : Free extension front) (walled : IsWalled front)
    (opens : ∀ c, (beforeFirst isLineBreak behind).head? = some c →
      isSeparator c = false)
    (read : readName extension (beforeFirst isLineBreak behind) = some written)
    (lineRead : readNumber? written.line = some line)
    (columnRead : readNumber? written.column = some column) :
    ∃ location, locate extension (front ++ behind) = some location ∧
      Tells line column (written.file extension) location := by
  unfold locate
  generalize 0 = offset
  -- The lines in front are passed over one by one, up to the last one.
  induction front using segment_induction isLineBreak generalizing offset with
  | last front unbroken =>
      obtain ⟨others, cut⟩ := splitBy_eq_cons isLineBreak (front ++ behind)
      rw [beforeFirst_append unbroken] at cut
      obtain ⟨location, located, tells, _⟩ :=
        ofPiece_walled plain free walled opens read lineRead columnRead
      rw [pieces, cut, ofPieces, located]
      exact ⟨location.shift offset, rfl, tells⟩
  | more front mark rest unbroken breaks ih =>
      have first : ofPiece extension front = none :=
        ofPiece_of_free (free.part (List.prefix_append front _).isInfix)
      have behindMark : Free extension rest :=
        (free.part (List.suffix_append front _).isInfix).tail
      rw [List.append_assoc, List.cons_append, pieces, splitBy_append_cons breaks,
        splitBy_of_unbroken unbroken, List.singleton_append, ofPieces, first]
      exact ih behindMark walled.of_append.tail (offset + utf8Length front + 1)

end Front

end ToolBridge.SourcePath
