import Mathlib.Data.List.Induction
import ToolBridge.Location.Chain
import ToolBridge.Proofs.Location.Mentions

/-!
# Where a location stands

The span of a location is a part of the text, cut between characters.  Line
breaks at the end of a text belong to no location: with them or without them
the same location is found, with the same span.
-/

namespace ToolBridge

open ToolBridge.Text

/-! ## Parts of a text -/

/-- The part of a text that takes up these bytes. -/
def ByteSpan.Covers (span : ByteSpan) (text part : List Char) : Prop :=
  ∃ before after, text = before ++ (part ++ after) ∧
    span = ⟨utf8Length before, utf8Length (before ++ part)⟩

namespace ByteSpan

variable {text before behind front back part other : List Char}
  {first second : ByteSpan}

/-- Of two starts of a text, the one with fewer bytes is the shorter one. -/
theorem exists_append_of_le (same : before ++ behind = front ++ back)
    (ordered : utf8Length before ≤ utf8Length front) :
    ∃ part, front = before ++ part ∧ behind = part ++ back := by
  rcases List.append_eq_append_iff.mp same with ⟨part, rfl, rest⟩ | ⟨part, rfl, rest⟩
  · exact ⟨part, rfl, rest⟩
  · cases part with
    | nil => exact ⟨[], by simp, rest.symm⟩
    | cons c part =>
        rw [utf8Length_append, utf8Length] at ordered
        have size := c.utf8Size_pos
        omega

/-- A start and an end between characters have a part between them. -/
theorem exists_covers (opens : text = before ++ behind) (closes : text = front ++ back)
    (ordered : utf8Length before ≤ utf8Length front) :
    ∃ part, Covers ⟨utf8Length before, utf8Length front⟩ text part := by
  obtain ⟨part, rfl, rfl⟩ := exists_append_of_le (opens.symm.trans closes) ordered
  exact ⟨part, before, back, opens, rfl⟩

theorem Covers.start_eq (covers : first.Covers text part) :
    ∃ before behind, text = before ++ behind ∧ first.start = utf8Length before := by
  obtain ⟨before, after, rfl, rfl⟩ := covers
  exact ⟨before, _, rfl, rfl⟩

theorem Covers.stop_eq (covers : first.Covers text part) :
    ∃ front back, text = front ++ back ∧ first.stop = utf8Length front := by
  obtain ⟨before, after, rfl, rfl⟩ := covers
  exact ⟨before ++ part, after, (List.append_assoc before part after).symm, rfl⟩

theorem Covers.start_le (covers : first.Covers text part) :
    first.start ≤ first.stop := by
  obtain ⟨before, after, rfl, rfl⟩ := covers
  rw [utf8Length_append]
  exact Nat.le_add_right _ _

/-- From the start of one part or another to the end of one or another is a
part. -/
theorem Covers.join (left : first.Covers text part) (right : second.Covers text other) :
    ∃ whole, Covers ⟨min first.start second.start, max first.stop second.stop⟩ text
      whole := by
  have ordered : min first.start second.start ≤ max first.stop second.stop :=
    Nat.le_trans (Nat.min_le_left _ _)
      (Nat.le_trans left.start_le (Nat.le_max_left _ _))
  obtain ⟨before, behind, opens, start⟩ : ∃ before behind, text = before ++ behind ∧
      min first.start second.start = utf8Length before := by
    rcases Nat.le_total first.start second.start with earlier | earlier
    · rw [Nat.min_eq_left earlier]
      exact left.start_eq
    · rw [Nat.min_eq_right earlier]
      exact right.start_eq
  obtain ⟨front, back, closes, stop⟩ : ∃ front back, text = front ++ back ∧
      max first.stop second.stop = utf8Length front := by
    rcases Nat.le_total first.stop second.stop with earlier | earlier
    · rw [Nat.max_eq_right earlier]
      exact right.stop_eq
    · rw [Nat.max_eq_left earlier]
      exact left.stop_eq
  rw [start, stop] at ordered ⊢
  exact exists_covers opens closes ordered

end ByteSpan

/-! ## Line breaks at the end -/

namespace Text

theorem isBlank_of_isLineBreak {mark : Char} (breaks : isLineBreak mark = true) :
    isBlank mark = true := by
  simp only [isLineBreak, Bool.or_eq_true, beq_iff_eq] at breaks
  rcases breaks with rfl | rfl
  · decide
  · decide

theorem isDecimal_of_isLineBreak {mark : Char} (breaks : isLineBreak mark = true) :
    isDecimal mark = false := by
  simp only [isLineBreak, Bool.or_eq_true, beq_iff_eq] at breaks
  rcases breaks with rfl | rfl
  · decide
  · decide

/-- What one line break at the end does not change, all of them do not. -/
theorem eq_trimLineBreaks {α : Type} {read : List Char → α}
    (ignored : ∀ text mark, isLineBreak mark = true →
      read (text ++ [mark]) = read text) (text : List Char) :
    read (trimLineBreaks text) = read text := by
  induction text using List.reverseRecOn with
  | nil => rfl
  | append_singleton text mark ih =>
      cases breaks : isLineBreak mark with
      | true =>
          have same : trimLineBreaks (text ++ [mark]) = trimLineBreaks text := by
            simp [trimLineBreaks, dropEndWhile, breaks]
          rw [same, ih, ignored text mark breaks]
      | false =>
          have whole : trimLineBreaks (text ++ [mark]) = text ++ [mark] := by
            simp [trimLineBreaks, dropEndWhile, breaks]
          rw [whole]

end Text

/-! ## Source paths -/

namespace SourcePath

variable {extension text : List Char} {location : Location} {mark : Char}

/-- What is read of a locator stands in the piece, the colon behind it
included. -/
theorem Reads.split_written {piece : List Char} {reading : Reading}
    (reads : Reads extension piece reading) :
    ∃ after, piece =
      reading.before ++ (reading.written.text extension ++ after) := by
  rw [reads.split]
  by_cases closed : reading.after.head? = some ':'
  · obtain ⟨after, same⟩ := List.head?_eq_some_iff.mp closed
    refine ⟨after, ?_⟩
    simp [Reading.position, Reading.written, Written.text, Written.file, same]
  · refine ⟨reading.after, ?_⟩
    simp [Reading.position, Reading.written, Written.text, Written.file,
      beq_eq_false_iff_ne.mpr closed]

theorem Yields.covers {front piece back : List Char} {reading : Reading}
    (place : PieceAt text front piece back)
    (yields : Yields extension piece reading location) :
    (location.shift (utf8Length front)).span.Covers text
      (reading.written.text extension) := by
  obtain ⟨after, split⟩ := yields.best.reads.split_written
  refine ⟨front ++ reading.before, after ++ back, ?_, ?_⟩
  · rw [place.split, split]
    simp only [List.append_assoc]
  · have start := yields.start
    have stop := yields.stop
    rw [utf8Length_append, Nat.add_assoc, ← utf8Length_written] at stop
    simp only [Location.shift, ByteSpan.shift, start, stop, utf8Length_append,
      Nat.add_assoc]

theorem ofPieces_append_nil (offset : Nat) (pieces : List (List Char)) :
    ofPieces extension offset (pieces ++ [[]]) = ofPieces extension offset pieces := by
  induction pieces generalizing offset with
  | nil => rfl
  | cons piece pieces ih => rw [List.cons_append, ofPieces, ofPieces, ih]

theorem locate_append_break (text : List Char) (breaks : isLineBreak mark = true) :
    locate extension (text ++ [mark]) = locate extension text := by
  rw [locate, locate, pieces, splitBy_append_cons breaks]
  exact ofPieces_append_nil 0 (pieces text)

end SourcePath

/-! ## Keys -/

namespace Keys

variable {key text : List Char} {location : Location} {mark : Char}

theorem Mention.covers {place : Place} (mention : Mention key text place) :
    (place.span key).Covers text (key ++ place.digits) := by
  refine ⟨place.before, place.after, ?_, rfl⟩
  rw [List.append_assoc]
  exact mention.leftmost.split

theorem Tells.covers {line column : Place} (tells : Tells text line column location) :
    ∃ part, location.span.Covers text part := by
  rw [tells.span]
  exact tells.lineMention.covers.join tells.columnMention.covers

theorem readHere_append_break (apart : mark ∉ key) (text : List Char)
    (breaks : isLineBreak mark = true) :
    readHere key (text ++ [mark]) = readHere key text := by
  rw [readHere, readHere, SourcePath.after?_append_cons apart]
  cases after? key text with
  | none => rfl
  | some rest =>
      have taken :=
        (SourcePath.takeWhile_append_cons (isDecimal_of_isLineBreak breaks) rest []).1
      simp only [Option.map_some, taken]

theorem readHere_nil : readHere key [] = none := by
  cases key with
  | nil => rfl
  | cons c key => rfl

theorem find_append_break (apart : mark ∉ key) {offset : Nat} (text : List Char)
    (breaks : isLineBreak mark = true) :
    find key offset (text ++ [mark]) = find key offset text := by
  induction text generalizing offset with
  | nil =>
      have nothing : readHere key [mark] = none :=
        (readHere_append_break apart [] breaks).trans readHere_nil
      rw [List.nil_append]
      simp only [find, nothing]
  | cons c text ih =>
      have here := readHere_append_break apart (c :: text) breaks
      rw [List.cons_append] at here ⊢
      rw [find, find, here, ih]

theorem locate_append_break (text : List Char) (breaks : isLineBreak mark = true) :
    locate (text ++ [mark]) = locate text := by
  have outside {key : List Char} (plain : (key.all fun c => !isLineBreak c) = true) :
      mark ∉ key := by
    intro member
    have solid := List.all_eq_true.mp plain mark member
    simp [breaks] at solid
  have line : mark ∉ lineKey := outside (by decide)
  have column : mark ∉ columnKey := outside (by decide)
  rw [locate, locate, find_append_break line text breaks,
    find_append_break column text breaks]

end Keys

/-! ## Terse locations -/

namespace Terse

variable {text : List Char} {written : Written} {location : Location} {mark : Char}

theorem Tells.covers {before after : List Char}
    (tells : Tells text before written after location) :
    location.span.Covers text written.text :=
  ⟨before, after, tells.leftmost.split, tells.span⟩

theorem readDigits_append_break (text : List Char) (breaks : isLineBreak mark = true) :
    readDigits (text ++ [mark]) =
      (readDigits text).map fun read => (read.1, read.2 ++ [mark]) := by
  obtain ⟨taken, left⟩ :=
    SourcePath.takeWhile_append_cons (isDecimal_of_isLineBreak breaks) text []
  have noColon : mark ≠ ':' := by
    rintro rfl
    cases breaks
  rw [readDigits, readDigits, taken, left]
  cases text.takeWhile isDecimal with
  | nil => rfl
  | cons digit digits =>
      cases text.dropWhile isDecimal with
      | nil => simp [noColon]
      | cons c rest =>
          by_cases colon : c = ':'
          · subst colon
            rfl
          · simp [colon]

theorem readNumbers_append_break (text : List Char) (breaks : isLineBreak mark = true) :
    readNumbers (text ++ [mark]) = readNumbers text := by
  have noColon : mark ≠ ':' := by
    rintro rfl
    cases breaks
  cases text with
  | nil => simp [readNumbers, noColon]
  | cons c text =>
      by_cases colon : c = ':'
      · subst colon
        rw [List.cons_append, readNumbers, readNumbers, readDigits_append_break text breaks]
        cases readDigits text with
        | none => rfl
        | some line =>
            simp only [Option.map_some, readDigits_append_break line.2 breaks]
            cases readDigits line.2 with
            | none => rfl
            | some column => rfl
      · simp [readNumbers, colon]

theorem readHere_append_break (text : List Char) (breaks : isLineBreak mark = true) :
    readHere (text ++ [mark]) = readHere text := by
  induction text with
  | nil =>
      have noWord : isWordChar mark = false := by
        simp [isWordChar, isBlank_of_isLineBreak breaks]
      have nothing : readNumbers [mark] = none := readNumbers_append_break [] breaks
      rw [List.nil_append]
      simp [readHere, noWord, nothing]
  | cons c text ih =>
      have numbers := readNumbers_append_break (c :: text) breaks
      rw [List.cons_append] at numbers ⊢
      rw [readHere, readHere, ih, numbers]

theorem find_append_break (text : List Char) (breaks : isLineBreak mark = true) :
    find (text ++ [mark]) = find text := by
  induction text with
  | nil =>
      have nothing : readHere [mark] = none := readHere_append_break [] breaks
      rw [List.nil_append]
      simp [find, nothing]
  | cons c text ih =>
      have here := readHere_append_break (c :: text) breaks
      rw [List.cons_append] at here ⊢
      rw [find, find, here, ih]

theorem locate_append_break (text : List Char) (breaks : isLineBreak mark = true) :
    locate (text ++ [mark]) = locate text := by
  rw [locate, locate, survey_eq, survey_eq, find_append_break text breaks]

end Terse

/-! ## The chain -/

variable {extension text : String} {location : Location}

theorem locate_trimLineBreaks (extension text : String) :
    locate extension (String.ofList (trimLineBreaks text.toList)) =
      locate extension text := by
  unfold locate
  rw [String.toList_ofList,
    eq_trimLineBreaks fun text _ => SourcePath.locate_append_break text,
    eq_trimLineBreaks fun text _ => Keys.locate_append_break text,
    eq_trimLineBreaks fun text _ => Terse.locate_append_break text]

theorem grammar_locateSourcePath
    (found : locateSourcePath extension text = some location) :
    location.grammar = .sourcePath := by
  obtain ⟨_, _, _, _, _, _, yields, rfl, _⟩ := SourcePath.locate_eq_some_iff.mp found
  exact yields.grammar

/-- The source path that is located is what the whole chain finds, if that is a
source path. -/
theorem locateSourcePath_eq_some_iff :
    locateSourcePath extension text = some location ↔
      locate extension text = some location ∧ location.grammar = .sourcePath := by
  constructor
  · intro found
    refine ⟨?_, grammar_locateSourcePath found⟩
    unfold locateSourcePath at found
    rw [locate, found]
  · rintro ⟨found, path⟩
    unfold locate at found
    split at found
    · rename_i first
      rw [← found]
      exact first
    · split at found
      · rename_i keys
        cases found
        obtain ⟨_, _, tells⟩ := Keys.locate_eq_some_iff.mp keys
        cases path.symm.trans tells.grammar
      · obtain ⟨_, _, _, tells⟩ := Terse.locate_eq_some_iff.mp found
        cases path.symm.trans tells.grammar

theorem covers_of_locate (found : locate extension text = some location) :
    ∃ part, location.span.Covers text.toList part := by
  unfold locate at found
  split at found
  · rename_i path
    cases found
    obtain ⟨_, _, _, _, _, place, yields, rfl, _⟩ :=
      SourcePath.locate_eq_some_iff.mp path
    exact ⟨_, yields.covers place⟩
  · split at found
    · rename_i keys
      cases found
      obtain ⟨_, _, tells⟩ := Keys.locate_eq_some_iff.mp keys
      exact tells.covers
    · obtain ⟨_, _, _, tells⟩ := Terse.locate_eq_some_iff.mp found
      exact ⟨_, tells.covers⟩

end ToolBridge
