import ToolBridge.Proofs.Location.Spans

/-!
# Excerpts

The part of a text that a location spans is enough to find the location: given
that part alone, a grammar finds in it what it found in the whole text.  In front
of the part nothing started that could have been taken instead, and nothing
behind it was needed, although names and numbers are read as far as they go.
-/

namespace ToolBridge

open ToolBridge.Text

/-- The same location in a text that it takes up. -/
def Location.alone (part : List Char) (location : Location) : Location :=
  { location with span := ⟨0, utf8Length part⟩ }

namespace ByteSpan

variable {text front part back before word after : List Char}

/-- What stands between the ends of a part stands in the part. -/
theorem exists_within (whole : text = front ++ (part ++ back))
    (split : text = before ++ (word ++ after))
    (opens : utf8Length front ≤ utf8Length before)
    (closes : utf8Length (before ++ word) ≤ utf8Length (front ++ part)) :
    ∃ left right, before = front ++ left ∧ after = right ++ back ∧
      part = left ++ (word ++ right) := by
  obtain ⟨left, rfl, _⟩ := exists_append_of_le (whole.symm.trans split) opens
  rw [← List.append_assoc] at whole split
  obtain ⟨right, ends, rfl⟩ := exists_append_of_le (split.symm.trans whole) closes
  refine ⟨left, right, rfl, rfl, ?_⟩
  rw [List.append_assoc, List.append_assoc] at ends
  exact List.append_cancel_left ends

end ByteSpan

/-! ## Source paths -/

namespace SourcePath

variable {extension piece part : List Char} {reading : Reading} {location : Location}

namespace Reading

/-- The reading without what stands around it. -/
def alone (reading : Reading) : Reading :=
  { reading with
    before := []
    after := if reading.after.head? = some ':' then [':'] else [] }

theorem written_alone (reading : Reading) : reading.alone.written = reading.written := by
  by_cases closed : reading.after.head? = some ':'
  · simp [alone, written, closed]
  · simp [alone, written, closed]

end Reading

theorem Reads.widen (reads : Reads extension part reading) (front back : List Char) :
    Reads extension (front ++ (part ++ back))
      { reading with
        before := front ++ reading.before
        after := reading.after ++ back } where
  split := by
    rw [reads.split]
    simp [Reading.position]
  separators := reads.separators
  name := reads.name
  line := reads.line
  column := reads.column

theorem Reads.alone (reads : Reads extension piece reading) :
    Reads extension (reading.written.text extension) reading.alone where
  split := by
    by_cases closed : reading.after.head? = some ':'
    · simp [Reading.alone, Reading.position, Reading.written, Written.text,
        Written.file, closed]
    · simp [Reading.alone, Reading.position, Reading.written, Written.text,
        Written.file, closed]
  separators := reads.separators
  name := reads.name
  line := reads.line
  column := reads.column

theorem Best.alone (best : Best extension piece reading) :
    Best extension (reading.written.text extension) reading.alone where
  reads := best.reads.alone
  ahead other again := by
    -- A better reading of the text alone would be one of the piece.
    obtain ⟨after, split⟩ := best.reads.split_written
    have wider := again.widen reading.before after
    rw [← split] at wider
    have ahead := best.ahead _ wider
    simp only [Reading.Ahead, Reading.alone, List.length_append,
      List.length_nil] at ahead ⊢
    omega

theorem Yields.alone (yields : Yields extension piece reading location) :
    Yields extension (reading.written.text extension) reading.alone
      (location.alone (reading.written.text extension)) where
  best := yields.best.alone
  line := yields.line
  column := yields.column
  file := yields.file
  grammar := yields.grammar
  start := rfl
  stop := by
    rw [← reading.written_alone]
    exact utf8Length_written reading.alone

theorem First.excerpt {text : List Char} (first : First extension text location) :
    ∃ part, part ≠ [] ∧ location.span.Covers text part ∧
      First extension part (location.alone part) := by
  obtain ⟨front, piece, back, reading, inner, place, yields, rfl, _⟩ := first
  obtain ⟨after, split⟩ := yields.best.reads.split_written
  have unbroken : Unbroken isLineBreak (reading.written.text extension) := by
    intro c member
    apply place.unbroken c
    rw [split]
    exact List.mem_append_right _ (List.mem_append_left _ member)
  refine ⟨_, ?_, yields.covers place, (first_line unbroken).mpr ⟨_, yields.alone⟩⟩
  simp [Written.text, Written.file]

end SourcePath

/-! ## Keys -/

namespace Keys

variable {key text : List Char} {location : Location}

theorem Mention.excerpt {place : Place} {front left right back : List Char}
    (mention : Mention key text place) (opens : place.before = front ++ left)
    (closes : place.after = right ++ back) :
    Mention key (left ++ (key ++ (place.digits ++ right)))
      ⟨left, place.digits, right⟩ where
  leftmost := by
    have leftmost := mention.leftmost
    rw [opens, closes, ← List.append_assoc place.digits, ← List.append_assoc key]
      at leftmost
    exact leftmost.excerpt ⟨place.digits, right, mention.run, rfl⟩
      fun rest more => Starts.append
  run := mention.run
  stops c head := by
    apply mention.stops c
    rw [closes, List.head?_append, head]
    rfl

theorem Tells.excerpt {line column : Place} (tells : Tells text line column location) :
    ∃ part, part ≠ [] ∧ location.span.Covers text part ∧
      ∃ line column, Tells part line column (location.alone part) := by
  obtain ⟨part, covers⟩ := tells.covers
  obtain ⟨front, back, whole, measured⟩ := covers
  have span := tells.span.symm.trans measured
  simp only [ByteSpan.mk.injEq, Place.span] at span
  obtain ⟨start, stop⟩ := span
  -- Both mentions stand in the part, at places that are counted from its start.
  have inside {key : List Char} {place : Place} (mention : Mention key text place)
      (opens : utf8Length front ≤ utf8Length place.before)
      (closes : utf8Length (place.before ++ (key ++ place.digits)) ≤
        utf8Length (front ++ part)) :
      ∃ other : Place, Mention key part other ∧ other.digits = place.digits ∧
        place.before = front ++ other.before := by
    have split := mention.leftmost.split
    rw [← List.append_assoc key] at split
    obtain ⟨left, right, before, after, rfl⟩ :=
      ByteSpan.exists_within whole split opens closes
    have excerpt := mention.excerpt before after
    rw [← List.append_assoc key] at excerpt
    exact ⟨_, excerpt, rfl, before⟩
  obtain ⟨lineInside, lineMention, lineDigits, lineBefore⟩ :=
    inside tells.lineMention (by omega) (by omega)
  obtain ⟨columnInside, columnMention, columnDigits, columnBefore⟩ :=
    inside tells.columnMention (by omega) (by omega)
  refine ⟨part, ?_, ⟨front, back, whole, measured⟩, lineInside, columnInside,
    lineMention, columnMention, ?_, ?_, tells.file, tells.grammar, ?_⟩
  · rintro rfl
    have nothing := lineMention.leftmost.split
    simp [lineKey] at nothing
  · rw [lineDigits]
    exact tells.lineNumber
  · rw [columnDigits]
    exact tells.columnNumber
  · simp only [Location.alone, Place.span, ByteSpan.mk.injEq, lineDigits, columnDigits]
    simp only [lineBefore, columnBefore, List.append_assoc, utf8Length_append]
      at start stop ⊢
    omega

end Keys

/-! ## Terse locations -/

namespace Terse

variable {text before after : List Char} {written : Written} {location : Location}

theorem Tells.excerpt (tells : Tells text before written after location) :
    Tells written.text [] written [] (location.alone written.text) where
  leftmost := by
    have leftmost := tells.leftmost
    rw [← List.append_nil before] at leftmost
    have alone := leftmost.excerpt
      ⟨written, tells.wellFormed, [], (List.append_nil _).symm⟩
      fun rest more => Starts.append
    rw [List.nil_append] at alone
    rw [List.append_nil]
    exact alone
  wellFormed := tells.wellFormed
  line := tells.line
  column := tells.column
  file := tells.file
  grammar := tells.grammar
  span := rfl

end Terse

/-! ## The grammars -/

namespace Grammar

variable {extension text : List Char} {grammar : Grammar} {location : Location}

/-- What the reader of a grammar finds. -/
def locate (extension text : List Char) : Grammar → Option Location
  | sourcePath => SourcePath.locate extension text
  | keyValue => Keys.locate text
  | terse => Terse.locate text

/-- What a grammar tells of a text, said without its reader. -/
def Tells (extension text : List Char) : Grammar → Location → Prop
  | sourcePath, location => SourcePath.First extension text location
  | keyValue, location => ∃ line column, Keys.Tells text line column location
  | terse, location =>
      ∃ before written after, Terse.Tells text before written after location

theorem locate_eq_some_iff :
    grammar.locate extension text = some location ↔
      grammar.Tells extension text location := by
  cases grammar with
  | sourcePath => exact SourcePath.locate_eq_some_iff
  | keyValue => exact Keys.locate_eq_some_iff
  | terse => exact Terse.locate_eq_some_iff

theorem locate_eq_none (silent : ∀ location, ¬ grammar.Tells extension text location) :
    grammar.locate extension text = none := by
  cases found : grammar.locate extension text with
  | none => rfl
  | some location => exact absurd (locate_eq_some_iff.mp found) (silent location)

theorem Tells.grammar_eq (tells : grammar.Tells extension text location) :
    location.grammar = grammar := by
  cases grammar with
  | sourcePath =>
      obtain ⟨_, _, _, _, _, _, yields, rfl, _⟩ := tells
      exact yields.grammar
  | keyValue =>
      obtain ⟨_, _, tells⟩ := tells
      exact tells.grammar
  | terse =>
      obtain ⟨_, _, _, tells⟩ := tells
      exact tells.grammar

theorem Tells.excerpt (tells : grammar.Tells extension text location) :
    ∃ part, part ≠ [] ∧ location.span.Covers text part ∧
      grammar.Tells extension part (location.alone part) := by
  cases grammar with
  | sourcePath => exact SourcePath.First.excerpt tells
  | keyValue =>
      obtain ⟨_, _, tells⟩ := tells
      exact tells.excerpt
  | terse =>
      obtain ⟨_, written, _, tells⟩ := tells
      exact ⟨written.text, by simp [Terse.Written.text], tells.covers, _, _, _,
        tells.excerpt⟩

end Grammar

theorem locate_eq_findSome? (extension text : String) :
    locate extension text =
      [Grammar.sourcePath, Grammar.keyValue, Grammar.terse].findSome?
        fun grammar => grammar.locate extension.toList text.toList := by
  simp only [locate, List.findSome?, Grammar.locate]
  cases SourcePath.locate extension.toList text.toList with
  | some location => rfl
  | none =>
      cases Keys.locate text.toList with
      | some location => rfl
      | none =>
          cases Terse.locate text.toList with
          | some location => rfl
          | none => rfl

/-- What the grammars find in a text, and which of them is heard. -/
structure SpansSelfLocating (extension text : String) : Prop where
  told : ∀ {grammar : Grammar} {location : Location},
    grammar.locate extension.toList text.toList = some location ↔
      grammar.Tells extension.toList text.toList location
  /-- What is found takes up a part of the text, and is found in that part. -/
  excerpt : ∀ {grammar : Grammar} {location : Location},
    grammar.locate extension.toList text.toList = some location →
      location.grammar = grammar ∧ ∃ part, part ≠ [] ∧
        location.span.Covers text.toList part ∧
        grammar.locate extension.toList part = some (location.alone part)
  path : ∀ {location},
    Grammar.sourcePath.Tells extension.toList text.toList location →
      ToolBridge.locate extension text = some location
  keys : (∀ other, ¬ Grammar.sourcePath.Tells extension.toList text.toList other) →
    ∀ {location}, Grammar.keyValue.Tells extension.toList text.toList location →
      ToolBridge.locate extension text = some location
  terse : (∀ other, ¬ Grammar.sourcePath.Tells extension.toList text.toList other) →
    (∀ other, ¬ Grammar.keyValue.Tells extension.toList text.toList other) →
    ∀ {location}, Grammar.terse.Tells extension.toList text.toList location →
      ToolBridge.locate extension text = some location
  silent : (∀ (grammar : Grammar) location,
      ¬ grammar.Tells extension.toList text.toList location) →
    ToolBridge.locate extension text = none

/-- Every location is found again in the part of the text that it spans, and the
chain gives the location of the first grammar that has one. -/
theorem spansSelfLocating_text (extension text : String) :
    SpansSelfLocating extension text where
  told := Grammar.locate_eq_some_iff
  excerpt found := by
    have tells := Grammar.locate_eq_some_iff.mp found
    obtain ⟨part, telling, covers, again⟩ := tells.excerpt
    exact ⟨tells.grammar_eq, part, telling, covers,
      Grammar.locate_eq_some_iff.mpr again⟩
  path tells := by
    have found := Grammar.locate_eq_some_iff.mpr tells
    simp [locate_eq_findSome?, found]
  keys pathless location tells := by
    have path := Grammar.locate_eq_none pathless
    have found := Grammar.locate_eq_some_iff.mpr tells
    simp [locate_eq_findSome?, path, found]
  terse pathless keyless location tells := by
    have path := Grammar.locate_eq_none pathless
    have keys := Grammar.locate_eq_none keyless
    have found := Grammar.locate_eq_some_iff.mpr tells
    simp [locate_eq_findSome?, path, keys, found]
  silent nothing := by
    have missing (grammar : Grammar) := Grammar.locate_eq_none (nothing grammar)
    simp [locate_eq_findSome?, missing]

/-- The keys may come in either order, and digits of other keys stay outside. -/
example : Keys.locate "λ column=20 of line=7, column=9".toList =
    some ⟨7, 20, none, .keyValue, ⟨3, 22⟩⟩ := by
  decide

end ToolBridge
