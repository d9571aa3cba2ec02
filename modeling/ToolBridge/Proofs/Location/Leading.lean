import ToolBridge.Proofs.Location.Preference
import ToolBridge.Proofs.Location.ReadBack

/-!
# The locator that comes first

Lines that tell nothing are passed over, and so is a start of a line that holds
no locator and ends outside of any name.  The locator that follows is heard
whatever comes after it, with one exception: a name may hold colons and digits,
so a second locator that is glued to the first one turns the first one into a
part of its name.
-/

namespace ToolBridge.SourcePath

open ToolBridge.Text

/-! ## Names that go on -/

section Names

variable {extension text : List Char} {written : Written}

theorem readName_named {front : List Char} (named : ∀ c ∈ front, isNameChar c = true)
    (read : readName extension text = some written) :
    readName extension (front ++ text) =
      some { written with name := front ++ written.name } := by
  induction front with
  | nil => exact read
  | cons c front ih =>
      obtain ⟨letter, named⟩ := List.forall_mem_cons.mp named
      rw [List.cons_append, readName, ih named, if_pos letter]
      rfl

/-- A mark that is not in the front of a text stands behind it. -/
theorem exists_append_of_not_mem {front rest left right : List Char} {mark : Char}
    (absent : mark ∉ front) (same : front ++ rest = left ++ mark :: right) :
    ∃ more, left = front ++ more ∧ rest = more ++ mark :: right := by
  rcases List.append_eq_append_iff.mp same with ⟨more, rfl, behind⟩ | ⟨part, rfl, behind⟩
  · exact ⟨more, rfl, behind⟩
  · cases part with
    | nil => exact ⟨[], by simp, behind.symm⟩
    | cons c part =>
        rw [List.cons_append, List.cons.injEq] at behind
        obtain ⟨rfl, _⟩ := behind
        exact absurd (by simp) absent

theorem not_mem_of_isRun {digits : List Char} {c : Char} (run : IsRun digits)
    (other : isDecimal c = false) : c ∉ digits := by
  intro member
  cases (run.2 c member).symm.trans other

/-- From the extension of a locator on, a name can only be read that holds all of
its position. -/
theorem readName_extension {line column rest : List Char}
    (colonless : ':' ∉ extension) (lineRun : IsRun line) (columnRun : IsRun column)
    (silent : readName extension rest = none) :
    readName extension (extension ++ (':' :: line ++ ':' :: column ++ rest)) =
      none := by
  cases found : readName extension
      (extension ++ (':' :: line ++ ':' :: column ++ rest)) with
  | none => rfl
  | some written =>
      obtain ⟨_, wellFormed, _⟩ := heads_of_readName found
      obtain ⟨position, cut, placed⟩ := eq_append_of_readName found
      obtain ⟨_, _, after, split, _⟩ := eq_append_of_readPosition placed
      -- The second colon keeps the name from ending within the extension.
      obtain ⟨part, holds, behind⟩ : ∃ part, written.name = extension ++ part ∧
          ':' :: line ++ ':' :: column ++ rest =
            part ++ '.' :: (extension ++ position) := by
        rcases List.append_eq_append_iff.mp cut with inside | ⟨part, within, behind⟩
        · exact inside
        · have apart : ':' ∉ '.' :: extension := by simp [colonless]
          rw [split] at behind
          obtain ⟨more, long, _⟩ := exists_append_of_not_mem apart behind
          have longer := congrArg List.length within
          rw [long] at longer
          simp only [List.length_append, List.length_cons] at longer
          omega
      -- There is no dot in the position, so the name goes on to the rest.
      have dotless : '.' ∉ ':' :: line ++ ':' :: column := by
        have inLine := not_mem_of_isRun lineRun (show isDecimal '.' = false by decide)
        have inColumn :=
          not_mem_of_isRun columnRun (show isDecimal '.' = false by decide)
        simp [inLine, inColumn]
      obtain ⟨more, rfl, again⟩ := exists_append_of_not_mem dotless behind
      have named : ∀ c ∈ more, isNameChar c = true := by
        intro c member
        apply wellFormed.name
        rw [holds]
        exact List.mem_append_right _ (List.mem_append_right _ member)
      have here : (readName extension rest).isSome = true := by
        rw [again]
        apply isSome_readName named (by simp)
        exact isSome_readExtension (by rw [placed]; rfl)
      rw [silent] at here
      cases here

/-- A second locator follows at once, without a separator. -/
structure Glued (extension rest : List Char) (reading : Reading) : Prop where
  best : Best extension rest reading
  atOnce : reading.before = []
  bare : reading.separators = []

/-- A name that can be read at the start of a text is that of the best reading. -/
theorem exists_glued {rest : List Char} (read : readName extension rest = some written) :
    ∃ reading, Glued extension rest reading ∧ written = reading.written := by
  obtain ⟨bare, wellFormed, _⟩ := heads_of_readName read
  have found : find extension rest = some (0, written) := by
    obtain ⟨position, rfl, _⟩ := eq_append_of_readName read
    apply find_of_readHere
    rw [readHere_eq_readName (opens_name wellFormed.name (extension ++ position)),
      read]
  obtain ⟨reading, best, measured, rfl⟩ := best_of_find found
  refine ⟨reading, ⟨best, ?_, bare⟩, rfl⟩
  cases empty : reading.before with
  | nil => rfl
  | cons c before =>
      rw [empty, utf8Length] at measured
      have size := c.utf8Size_pos
      omega

theorem Glued.readName_eq {rest : List Char} {reading : Reading}
    (glued : Glued extension rest reading) :
    readName extension rest = some reading.written := by
  have reads := glued.best.reads
  have placed : (readPosition reading.position).isSome = true := by
    rw [reads.readPosition_eq]
    rfl
  have read := isSome_readName reads.named (by simp)
    (@isSome_readExtension extension _ placed)
  have whole := reads.split
  rw [glued.atOnce, glued.bare, List.nil_append, List.nil_append] at whole
  obtain ⟨written, found⟩ := Option.isSome_iff_exists.mp read
  rw [List.cons_append, ← whole] at found
  obtain ⟨other, again, rfl⟩ := exists_glued found
  rw [found, glued.best.unique again.best]

end Names

/-! ## Lines in front -/

section Lines

variable {extension before text : List Char} {location : Location}

/-- Complete lines that tell nothing only move what follows them. -/
theorem ofPieces_append {offset : Nat}
    (complete : ∀ mark, before.getLast? = some mark → isLineBreak mark = true)
    (silent : ofPieces extension offset (pieces before) = none) (text : List Char) :
    ofPieces extension offset (pieces (before ++ text)) =
      ofPieces extension (offset + utf8Length before) (pieces text) := by
  induction before using segment_induction isLineBreak generalizing offset with
  | last line unbroken =>
      cases last : line.getLast? with
      | none =>
          rw [List.getLast?_eq_none_iff.mp last]
          rfl
      | some mark =>
          have breaks := complete mark last
          rw [unbroken mark (List.mem_of_getLast? last)] at breaks
          cases breaks
  | more line mark rest unbroken breaks ih =>
      rw [pieces, splitBy_append_cons breaks, splitBy_of_unbroken unbroken,
        List.singleton_append, ofPieces] at silent
      split at silent
      · cases silent
      · rename_i nothing
        have later : ∀ last, rest.getLast? = some last → isLineBreak last = true := by
          intro last ends
          apply complete
          rw [List.getLast?_append, List.getLast?_cons, ends]
          rfl
        have moved : offset + utf8Length line + 1 + utf8Length rest =
            offset + utf8Length (line ++ mark :: rest) := by
          rw [utf8Length_append, utf8Length, utf8Size_of_isLineBreak breaks]
          omega
        rw [List.append_assoc, List.cons_append, pieces, splitBy_append_cons breaks,
          splitBy_of_unbroken unbroken, List.singleton_append, ofPieces, nothing,
          ← moved]
        exact ih later silent

theorem le_start_of_ofPieces {offset : Nat} {lines : List (List Char)}
    (found : ofPieces extension offset lines = some location) :
    offset ≤ location.span.start := by
  induction lines generalizing offset with
  | nil => cases found
  | cons line lines ih =>
      rw [ofPieces] at found
      split at found
      · cases found
        exact Nat.le_add_right _ _
      · have later := ih found
        omega

/-- The line behind them is heard, if it tells something. -/
theorem locate_append
    (complete : ∀ mark, before.getLast? = some mark → isLineBreak mark = true)
    (silent : locate extension before = none)
    (told : ofPiece extension (beforeFirst isLineBreak text) = some location) :
    locate extension (before ++ text) =
      some (location.shift (utf8Length before)) := by
  obtain ⟨others, cut⟩ := splitBy_eq_cons isLineBreak text
  rw [locate, ofPieces_append complete silent, pieces, cut, ofPieces, told,
    Nat.zero_add]

/-- Otherwise only a later line can be heard. -/
theorem lt_start_of_locate
    (complete : ∀ mark, before.getLast? = some mark → isLineBreak mark = true)
    (silent : locate extension before = none)
    (nothing : ofPiece extension (beforeFirst isLineBreak text) = none)
    (located : locate extension (before ++ text) = some location) :
    utf8Length (before ++ beforeFirst isLineBreak text) < location.span.start := by
  obtain ⟨others, cut⟩ := splitBy_eq_cons isLineBreak text
  rw [locate, ofPieces_append complete silent, pieces, cut, ofPieces, nothing,
    Nat.zero_add] at located
  rw [utf8Length_append]
  exact le_start_of_ofPieces located

end Lines

/-! ## Texts with a locator -/

/-- The location has the place and the name, and ends behind the locator or with
the colon that follows it. -/
structure Stands (line column : Nat) (file front : String) (after : List Char)
    (location : Location) : Prop where
  grammar : location.grammar = .sourcePath
  line : location.line = line
  column : location.column = column
  file : location.file = some file
  stop : location.span.stop =
    utf8Length front.toList + if after.head? = some ':' then 1 else 0

/-- A text with a locator in it. -/
structure Leading where
  extension : String
  before : String
  folder : String
  stem : String
  line : Nat
  column : Nat
  rest : String

namespace Leading

/-- The locator as it is printed. -/
def mention (leading : Leading) : String :=
  leading.stem ++ "." ++ leading.extension ++ ":" ++ numeral leading.line ++ ":" ++
    numeral leading.column

def text (leading : Leading) : String :=
  leading.before ++ leading.folder ++ leading.mention ++ leading.rest

/-- What follows the locator in its line. -/
def lineRest (leading : Leading) : List Char :=
  beforeFirst isLineBreak leading.rest.toList

/-- The locator with what stands in front of it left out. -/
def reading (leading : Leading) : Reading :=
  ⟨[], [], leading.stem.toList, Nat.toDigits 10 leading.line,
    Nat.toDigits 10 leading.column, leading.lineRest⟩

/-- The locator is the first one of the text: complete lines in front of it tell
nothing, and the start of its own line holds no locator and does not end within
a name. -/
structure WellFormed (leading : Leading) : Prop where
  plain : ∀ c ∈ leading.extension.toList, isNameChar c = true
  colonless : ':' ∉ leading.extension.toList
  complete : ∀ mark, leading.before.toList.getLast? = some mark →
    isLineBreak mark = true
  silent : locateSourcePath leading.extension leading.before = none
  unbroken : Unbroken isLineBreak leading.folder.toList
  walled : IsWalled leading.folder.toList
  free : Free leading.extension.toList leading.folder.toList
  named : ∀ c ∈ leading.stem.toList, isNameChar c = true
  lineFits : leading.line < numberBound
  columnFits : leading.column < numberBound
  stops : ∀ c, leading.rest.toList.head? = some c → isDecimal c = false

variable {leading : Leading} {reading : Reading}

theorem toList_mention (leading : Leading) :
    leading.mention.toList = leading.stem.toList ++
      '.' :: (leading.extension.toList ++
        Link.position leading.line leading.column) := by
  simp [mention, Link.position, numeral]

theorem toList_text (leading : Leading) :
    leading.text.toList = leading.before.toList ++
      (leading.folder.toList ++
        (leading.mention.toList ++ leading.rest.toList)) := by
  simp [text]

theorem ofList_file (leading : Leading) :
    String.ofList (leading.reading.file leading.extension.toList) =
      leading.stem ++ "." ++ leading.extension := by
  apply String.toList_inj.mp
  simp [Reading.file, reading]

theorem ofList_text (leading : Leading) :
    String.ofList (leading.reading.text leading.extension.toList) =
      leading.mention := by
  apply String.toList_inj.mp
  rw [toList_mention]
  simp [Reading.text, Reading.file, reading, Link.position]

theorem named_position (line column : Nat) :
    ∀ c ∈ Link.position line column, isNameChar c = true := by
  have colon : isNameChar ':' = true := by decide
  have digits (n : Nat) : ∀ c ∈ Nat.toDigits 10 n, isNameChar c = true :=
    forall_mem_toDigits (by decide) n
  intro c member
  simp only [Link.position, List.cons_append, List.mem_cons, List.mem_append] at member
  rcases member with rfl | inLine | rfl | inColumn
  · exact colon
  · exact digits _ c inLine
  · exact colon
  · exact digits _ c inColumn

namespace WellFormed

theorem named_mention (wellFormed : leading.WellFormed) :
    ∀ c ∈ leading.mention.toList, isNameChar c = true := by
  intro c member
  simp only [toList_mention, List.mem_append, List.mem_cons] at member
  rcases member with inStem | rfl | inExtension | inPosition
  · exact wellFormed.named c inStem
  · decide
  · exact wellFormed.plain c inExtension
  · exact named_position _ _ c inPosition

theorem stops_lineRest (wellFormed : leading.WellFormed) :
    ∀ c, leading.lineRest.head? = some c → isDecimal c = false := by
  intro c head
  apply wellFormed.stops
  obtain ⟨behind, split⟩ :=
    List.takeWhile_prefix (fun c => !isLineBreak c) (l := leading.rest.toList)
  rw [← split, List.head?_append]
  exact Option.or_eq_some_iff.mpr (Or.inl head)

theorem beforeFirst_text (wellFormed : leading.WellFormed) :
    beforeFirst isLineBreak (leading.folder.toList ++
        (leading.mention.toList ++ leading.rest.toList)) =
      leading.folder.toList ++ (leading.mention.toList ++ leading.lineRest) := by
  have unbroken : Unbroken isLineBreak leading.mention.toList := by
    intro c member
    have named := isNameChar_iff.mp (wellFormed.named_mention c member)
    exact Link.isLineBreak_of_isBlank named.2
  rw [beforeFirst_append wellFormed.unbroken, beforeFirst_append unbroken, lineRest]

theorem opens (wellFormed : leading.WellFormed) :
    ∀ c, (leading.mention.toList ++ leading.lineRest).head? = some c →
      isSeparator c = false := by
  intro c head
  rw [toList_mention, List.append_assoc] at head
  exact opens_name wellFormed.named _ c head

theorem readName_alone (wellFormed : leading.WellFormed)
    (silent : readName leading.extension.toList leading.lineRest = none) :
    readName leading.extension.toList (leading.mention.toList ++ leading.lineRest) =
      some leading.reading.written := by
  have lineRun := Link.isRun_toDigits leading.line
  have columnRun := Link.isRun_toDigits leading.column
  have behind := readName_extension wellFormed.colonless lineRun columnRun silent
  have placed := readPosition_append lineRun columnRun wellFormed.stops_lineRest
  rw [toList_mention, List.append_assoc, List.cons_append, List.append_assoc]
  exact readName_dot wellFormed.named behind placed

/-- If one can, it goes on the name of the locator. -/
theorem readName_glued (wellFormed : leading.WellFormed)
    (glued : Glued leading.extension.toList leading.lineRest reading) :
    readName leading.extension.toList (leading.mention.toList ++ leading.lineRest) =
      some (Reading.written
        { reading with name := leading.mention.toList ++ reading.name }) :=
  readName_named wellFormed.named_mention glued.readName_eq

/-- The name that is read at the locator is heard, with its place. -/
theorem stands (wellFormed : leading.WellFormed) {line column : Nat}
    (read : readName leading.extension.toList
      (leading.mention.toList ++ leading.lineRest) = some reading.written)
    (lineDenotes : readNumber? reading.line = some line)
    (columnDenotes : readNumber? reading.column = some column) :
    ∃ location, ToolBridge.locate leading.extension leading.text = some location ∧
      Stands line column (String.ofList (reading.file leading.extension.toList))
        (leading.before ++ leading.folder ++
          String.ofList (reading.text leading.extension.toList))
        reading.after location := by
  obtain ⟨location, told, tells, grammar, stop⟩ := ofPiece_walled wellFormed.plain
    wellFormed.free wellFormed.walled wellFormed.opens read lineDenotes columnDenotes
  rw [← wellFormed.beforeFirst_text] at told
  have located := locate_append wellFormed.complete wellFormed.silent told
  obtain ⟨sameLine, sameColumn, sameFile⟩ := tells
  refine ⟨location.shift (utf8Length leading.before.toList), ?_,
    grammar, sameLine, sameColumn, sameFile, ?_⟩
  · simp only [ToolBridge.locate, toList_text, located]
  · have moved : (location.shift (utf8Length leading.before.toList)).span.stop =
        utf8Length leading.before.toList + location.span.stop := rfl
    rw [moved, stop, utf8Length_append, utf8Length_written]
    simp only [String.toList_append, String.toList_ofList, utf8Length_append,
      Nat.add_assoc]

/-- If its numbers have no value, only a later line can be heard. -/
theorem lt_start (wellFormed : leading.WellFormed) {location : Location}
    (read : readName leading.extension.toList
      (leading.mention.toList ++ leading.lineRest) = some reading.written)
    (valueless : ∀ line column, readNumber? reading.line = some line →
      readNumber? reading.column ≠ some column)
    (located : locateSourcePath leading.extension leading.text = some location) :
    utf8Length (leading.before ++ leading.folder ++ leading.mention).toList +
      utf8Length leading.lineRest < location.span.start := by
  obtain ⟨_, _, _, found⟩ := find_walled wellFormed.plain wellFormed.free
    wellFormed.walled wellFormed.opens read
  have nothing : ofPiece leading.extension.toList (leading.folder.toList ++
      (leading.mention.toList ++ leading.lineRest)) = none := by
    rw [ofPiece, survey_eq]
    simp only [found, Written.location?]
    split
    · rename_i line column lineRead columnRead
      exact absurd columnRead (valueless line column lineRead)
    · rfl
  rw [← wellFormed.beforeFirst_text] at nothing
  rw [locateSourcePath, toList_text] at located
  have later :=
    lt_start_of_locate wellFormed.complete wellFormed.silent nothing located
  rw [wellFormed.beforeFirst_text] at later
  simpa only [String.toList_append, utf8Length_append, Nat.add_assoc] using later

end WellFormed

/-- What is heard of a text with a locator. -/
structure LocatorPrecedence (leading : Leading) : Prop where
  /-- The locator is, if no other one is glued to it. -/
  first : (∀ reading,
      ¬ Glued leading.extension.toList leading.lineRest reading) →
    ∃ location, ToolBridge.locate leading.extension leading.text = some location ∧
      Stands leading.line leading.column (leading.stem ++ "." ++ leading.extension)
        (leading.before ++ leading.folder ++ leading.mention) leading.lineRest
        location
  /-- A locator that is glued to it takes it into its name. -/
  overtaken : ∀ {reading : Reading} {line column : Nat},
    Glued leading.extension.toList leading.lineRest reading →
    Denotes reading.line line → Denotes reading.column column →
    ∃ location, ToolBridge.locate leading.extension leading.text = some location ∧
      Stands line column
        (leading.mention ++ String.ofList (reading.file leading.extension.toList))
        (leading.before ++ leading.folder ++ leading.mention ++
          String.ofList (reading.text leading.extension.toList))
        reading.after location
  /-- One whose numbers have no value makes the whole line silent. -/
  silenced : ∀ {reading : Reading},
    Glued leading.extension.toList leading.lineRest reading →
    (∀ line column, Denotes reading.line line → ¬ Denotes reading.column column) →
    ∀ location, locateSourcePath leading.extension leading.text = some location →
      utf8Length (leading.before ++ leading.folder ++ leading.mention).toList +
        utf8Length leading.lineRest < location.span.start

/-- The first locator of a text is heard whatever follows it, as long as no other
locator is glued to it. -/
theorem locatorPrecedence_of_wellFormed (leading : Leading)
    (wellFormed : leading.WellFormed) :
    leading.LocatorPrecedence := by
  constructor
  · intro alone
    have silent : readName leading.extension.toList leading.lineRest = none := by
      cases read : readName leading.extension.toList leading.lineRest with
      | none => rfl
      | some written =>
          obtain ⟨reading, glued, _⟩ := exists_glued read
          exact absurd glued (alone reading)
    obtain ⟨location, located, stands⟩ :=
      wellFormed.stands (wellFormed.readName_alone silent)
        (readNumber?_toDigits wellFormed.lineFits)
        (readNumber?_toDigits wellFormed.columnFits)
    rw [ofList_file, ofList_text] at stands
    exact ⟨location, located, stands⟩
  · intro reading line column glued lineDenotes columnDenotes
    have reads := glued.best.reads
    obtain ⟨location, located, stands⟩ := wellFormed.stands
      (wellFormed.readName_glued glued)
      ((readNumber?_eq_some_iff reads.line.1).mpr lineDenotes)
      ((readNumber?_eq_some_iff reads.column.1).mpr columnDenotes)
    refine ⟨location, located, ?_⟩
    simpa [Reading.file, Reading.text, glued.bare, String.append_assoc] using stands
  · intro reading glued valueless location located
    have reads := glued.best.reads
    refine wellFormed.lt_start (wellFormed.readName_glued glued) ?_ located
    intro line column lineRead columnRead
    exact valueless line column ((readNumber?_eq_some_iff reads.line.1).mp lineRead)
      ((readNumber?_eq_some_iff reads.column.1).mp columnRead)

/-- In front of the locator stands one whose column is too large, and behind it
stand two others and a key. -/
theorem locatorPrecedence_amongOthers :
    let leading : Leading :=
      ⟨"frg", "x.frg:1:4294967296\nok\r\n", "error: /hw/", "model-1", 12, 3,
        ":9 b.frg:3:4 line=5\nc.frg:1:1"⟩
    leading.WellFormed ∧
      ∃ location, ToolBridge.locate "frg" leading.text = some location ∧
        location.grammar = .sourcePath ∧ location.line = 12 ∧
        location.column = 3 ∧ location.file = some "model-1.frg" := by
  intro leading
  have wellFormed : leading.WellFormed := by
    have plain : leading.extension.toList.all isNameChar = true := by decide
    have named : leading.stem.toList.all isNameChar = true := by decide
    have unbroken : leading.folder.toList.all (fun c => !isLineBreak c) = true := by
      decide
    refine ⟨List.all_eq_true.mp plain, by decide, ?_, by decide, ?_, ?_,
      find_eq_none_iff.mp (by decide), List.all_eq_true.mp named, by decide,
      by decide, ?_⟩
    · intro mark last
      have ends : leading.before.toList.getLast? = some '\n' := by decide
      cases ends.symm.trans last
      decide
    · intro c member
      simpa using List.all_eq_true.mp unbroken c member
    · intro mark last
      have ends : leading.folder.toList.getLast? = some '/' := by decide
      cases ends.symm.trans last
      decide
    · intro c head
      have starts : leading.rest.toList.head? = some ':' := by decide
      cases starts.symm.trans head
      decide
  have alone : ∀ reading,
      ¬ Glued leading.extension.toList leading.lineRest reading := by
    intro reading glued
    have nothing : readName leading.extension.toList leading.lineRest = none := by
      decide
    cases nothing.symm.trans glued.readName_eq
  obtain ⟨location, located, stands⟩ :=
    (locatorPrecedence_of_wellFormed leading wellFormed).first alone
  exact ⟨wellFormed, location, located, stands.grammar, stands.line, stands.column,
    stands.file⟩

/-- Glued by a colon, two locators are read as one with a long name. -/
theorem overtaken_gluedLocator :
    let leading : Leading := ⟨"frg", "", "", "a", 1, 2, ":b.frg:3:4"⟩
    leading.WellFormed ∧ leading.text = "a.frg:1:2:b.frg:3:4" ∧
      ToolBridge.locate "frg" leading.text =
        some ⟨3, 4, some "a.frg:1:2:b.frg", .sourcePath, ⟨0, 19⟩⟩ := by
  intro leading
  have plain : leading.extension.toList.all isNameChar = true := by decide
  have named : leading.stem.toList.all isNameChar = true := by decide
  refine ⟨⟨List.all_eq_true.mp plain, by decide, by simp [leading], by decide,
    by simp [leading, Unbroken], by simp [leading, IsWalled],
    find_eq_none_iff.mp (by decide), List.all_eq_true.mp named, by decide,
    by decide, ?_⟩, by decide, by decide⟩
  intro c head
  have starts : leading.rest.toList.head? = some ':' := by decide
  cases starts.symm.trans head
  decide

end Leading

end ToolBridge.SourcePath
