import ToolBridge.Toml.Printer

/-!
# Strings are read as they were written

A string is written in one of four forms, and reading gives it back whichever
form was chosen: the characters of a form are spelt so that its reader takes
each of them for itself, and no run of quotes in the text is taken for the
closing one.
-/

namespace ToolBridge.Toml

open ToolBridge.Text

/-! ## Spellings -/

theorem hexValue?_upperHexDigit {digit : Nat} (small : digit < 16) :
    hexValue? (upperHexDigit digit) = some digit := by
  revert digit
  decide

theorem codePoint?_small {c : Char} (small : c.toNat < 256) :
    codePoint? ['0', '0', upperHexDigit (c.toNat / 16),
      upperHexDigit (c.toNat % 16)] = some c := by
  have zero : hexValue? '0' = some 0 := rfl
  have high := hexValue?_upperHexDigit (show c.toNat / 16 < 16 by omega)
  have low := hexValue?_upperHexDigit (show c.toNat % 16 < 16 by omega)
  have value : c.toNat / 16 * 16 + c.toNat % 16 = c.toNat := by omega
  have point : c.toNat < 0xD800 := by omega
  simp [codePoint?, zero, high, low, value, point]

theorem isPlain_of_allowed {c : Char} (allowed : isForbidden c = false) :
    isPlain c = true ∨ c = '\n' := by
  by_cases tab : c = '\t'
  · exact Or.inl (by simp [isPlain, tab])
  · by_cases lineBreak : c = '\n'
    · exact Or.inr lineBreak
    · simp [isForbidden, tab, lineBreak] at allowed
      exact Or.inl (by simp [isPlain, allowed])

/-- The ways to write a character between double quotes. -/
inductive Spelling (c : Char) : List Char → Prop where
  | letter {letter : Char} (means : escapeLetter? letter = some c) :
      Spelling c ['\\', letter]
  | number {first second third fourth : Char}
      (means : codePoint? [first, second, third, fourth] = some c) :
      Spelling c ['\\', 'u', first, second, third, fourth]
  | plain (isPlain : isPlain c = true) (noQuote : c ≠ '"') (noEscape : c ≠ '\\') :
      Spelling c [c]

theorem spelling_escapeChar {c : Char} (noQuote : c ≠ '"') (noBreak : c ≠ '\n') :
    Spelling c (escapeChar c) := by
  fun_cases escapeChar c with
  | case1 backspace =>
      have same : c = Char.ofNat 8 := by rw [← backspace, Char.ofNat_toNat]
      rw [same]
      exact .letter rfl
  | case2 _ tab =>
      rw [tab]
      exact .letter rfl
  | case3 _ _ feed =>
      have same : c = Char.ofNat 12 := by rw [← feed, Char.ofNat_toNat]
      rw [same]
      exact .letter rfl
  | case4 _ _ _ carriage =>
      rw [carriage]
      exact .letter rfl
  | case5 _ _ _ _ backslash =>
      rw [backslash]
      exact .letter rfl
  | case6 _ _ _ _ _ forbidden =>
      apply Spelling.number
      apply codePoint?_small
      simp only [isForbidden, Bool.or_eq_true, Bool.and_eq_true, decide_eq_true_eq,
        beq_iff_eq] at forbidden
      omega
  | case7 _ _ _ _ noEscape allowed =>
      have plain := isPlain_of_allowed (eq_false_of_ne_true allowed)
      exact .plain (plain.resolve_right noBreak) noQuote noEscape

theorem spelling_onOneLine (c : Char) :
    Spelling c
      (if c = '"' then ['\\', '"'] else if c = '\n' then ['\\', 'n']
        else escapeChar c) := by
  split
  · rename_i quote
    rw [quote]
    exact .letter rfl
  · split
    · rename_i lineBreak
      rw [lineBreak]
      exact .letter rfl
    · rename_i noQuote noBreak
      exact spelling_escapeChar noQuote noBreak

/-- An escape by a letter is no escape by a number and breaks no line. -/
theorem telling_of_escapeLetter? {letter c : Char}
    (means : escapeLetter? letter = some c) (rest : List Char) :
    letter ≠ 'u' ∧ letter ≠ 'U' ∧ breaksLine (letter :: rest) = false := by
  have blank : isSpace letter = false := by
    cases space : isSpace letter with
    | false => rfl
    | true =>
        simp only [isSpace, Bool.or_eq_true, beq_iff_eq] at space
        rcases space with rfl | rfl <;> cases means
  refine ⟨?_, ?_, ?_⟩
  · rintro rfl
    cases means
  · rintro rfl
    cases means
  · unfold breaksLine
    rw [List.dropWhile_cons_of_neg (by simp [blank])]
    split
    · rename_i opens
      cases opens
      cases means
    · rename_i opens
      cases opens
      cases means
    · rfl

/-! ## On one line -/

variable {text rest behind : List Char}

theorem Spelling.readBasic {c : Char} {piece : List Char} (spelling : Spelling c piece)
    (read : readBasic rest = some (text, behind)) :
    Toml.readBasic (piece ++ rest) = some (c :: text, behind) := by
  cases spelling with
  | letter means =>
      obtain ⟨noNumber, noLongNumber, _⟩ := telling_of_escapeLetter? means []
      simp [Toml.readBasic, noNumber, noLongNumber, means, read]
  | number means => simp [Toml.readBasic, means, read]
  | plain isPlain noQuote noEscape =>
      simp [Toml.readBasic, noEscape, isPlain, read]

theorem readBasic_writeBasic (text rest : List Char) :
    readBasic (writeBasic text ++ '"' :: rest) = some (text, rest) := by
  induction text with
  | nil => rfl
  | cons c text ih =>
      rw [writeBasic, List.append_assoc]
      exact (spelling_onOneLine c).readBasic ih

theorem readLiteral_append (plain : ∀ c ∈ text, isPlain c = true ∧ c ≠ apostrophe)
    (rest : List Char) :
    readLiteral (text ++ apostrophe :: rest) = some (text, rest) := by
  induction text with
  | nil => rfl
  | cons c text ih =>
      obtain ⟨⟨isPlain, noQuote⟩, plain⟩ := List.forall_mem_cons.mp plain
      have number : c.toNat ≠ 0x27 := by
        intro same
        apply noQuote
        rw [apostrophe, ← same, Char.ofNat_toNat]
      rw [List.cons_append, readLiteral, if_neg number, if_pos isPlain, ih plain]
      rfl

/-! ## On several lines, in double quotes -/

/-- A character that stands for itself, which a quote does as long as there are
not three of them. -/
theorem readLongBasic_cons {c : Char} (plain : (isPlain c = true ∧ c ≠ '\\') ∨ c = '\n')
    (single : c = '"' → after? ['"', '"'] rest = none)
    (read : readLongBasic false rest = some (text, behind)) :
    readLongBasic false (c :: rest) = some (c :: text, behind) := by
  have noEscape : c ≠ '\\' := by
    rintro rfl
    simp at plain
  have noReturn : c ≠ '\r' := by
    rintro rfl
    simp [isPlain] at plain
  -- Only the case of a character without a meaning of its own is left.
  rw [readLongBasic.eq_def]
  split <;> simp_all [after?]

theorem Spelling.readLongBasic {c : Char} {piece : List Char}
    (spelling : Spelling c piece)
    (read : readLongBasic false rest = some (text, behind)) :
    Toml.readLongBasic false (piece ++ rest) = some (c :: text, behind) := by
  cases spelling with
  | letter means =>
      obtain ⟨noNumber, noLongNumber, unbroken⟩ := telling_of_escapeLetter? means rest
      simp [Toml.readLongBasic, noNumber, noLongNumber, unbroken, means, read]
  | number means => simp [Toml.readLongBasic, means, read]
  | plain isPlain noQuote noEscape =>
      apply readLongBasic_cons (Or.inl ⟨isPlain, noEscape⟩) _ read
      intro quote
      exact absurd quote noQuote

theorem few_cases {quotes : Nat} (few : quotes ≤ 2) :
    quotes = 0 ∨ quotes = 1 ∨ quotes = 2 := by
  omega

/-- One or two quotes in front of anything else stand for themselves. -/
theorem readLongBasic_quotes {quotes : Nat} (few : quotes ≤ 2)
    (opens : rest.head? ≠ some '"')
    (read : readLongBasic false rest = some (text, behind)) :
    readLongBasic false (List.replicate quotes '"' ++ rest) =
      some (List.replicate quotes '"' ++ text, behind) := by
  have plain : (isPlain '"' = true ∧ '"' ≠ '\\') ∨ '"' = '\n' := by decide
  cases rest with
  | nil => simp [readLongBasic] at read
  | cons c rest =>
      have noQuote : '"' ≠ c := by
        rintro rfl
        exact opens rfl
      have once := readLongBasic_cons plain (by simp [after?, noQuote]) read
      rcases few_cases few with rfl | rfl | rfl
      · exact read
      · exact once
      · exact readLongBasic_cons plain (by simp [after?, noQuote]) once

/-- One or two quotes in front of the closing ones belong to the text. -/
theorem readLongBasic_closing {quotes : Nat} (few : quotes ≤ 2)
    (ends : rest.head? ≠ some '"') :
    readLongBasic false (List.replicate quotes '"' ++ ("\"\"\"".toList ++ rest)) =
      some (List.replicate quotes '"', rest) := by
  cases rest with
  | nil =>
      rcases few_cases few with rfl | rfl | rfl
      · rfl
      · rfl
      · rfl
  | cons c rest =>
      have noQuote : c ≠ '"' := by
        rintro rfl
        exact ends rfl
      rcases few_cases few with rfl | rfl | rfl
      · simp [readLongBasic, noQuote]
      · simp [readLongBasic, noQuote]
      · simp [readLongBasic]

theorem Spelling.head? {c : Char} {piece : List Char} (spelling : Spelling c piece)
    (rest : List Char) : (piece ++ rest).head? ≠ some '"' := by
  cases spelling with
  | letter => simp
  | number => simp
  | plain _ noQuote => simpa using noQuote

theorem readLongBasic_writeLongBasic (text : List Char) {quotes : Nat}
    (few : quotes ≤ 2) (ends : rest.head? ≠ some '"') :
    readLongBasic false
        (List.replicate quotes '"' ++
          (writeLongBasic quotes text ++ ("\"\"\"".toList ++ rest))) =
      some (List.replicate quotes '"' ++ text, rest) := by
  -- The quotes in front were written as they are, and it depends on what comes
  -- next whether they are a part of the text or of the closing quotes.
  induction text generalizing quotes with
  | nil =>
      rw [List.append_nil]
      exact readLongBasic_closing few ends
  | cons c text ih =>
      have next := ih (Nat.zero_le 2)
      rw [List.replicate_zero, List.nil_append, List.nil_append] at next
      rw [writeLongBasic]
      split
      · subst c
        split
        · apply readLongBasic_quotes few (by simp)
          have escaped : Spelling '"' ['\\', '"'] := .letter rfl
          exact escaped.readLongBasic next
        · have more := ih (show quotes + 1 ≤ 2 by omega)
          simpa [List.replicate_succ'] using more
      · split
        · subst c
          apply readLongBasic_quotes few (by simp)
          exact readLongBasic_cons (Or.inr rfl) (by simp) next
        · rename_i noQuote noBreak
          have spelling := spelling_escapeChar noQuote noBreak
          rw [List.append_assoc]
          apply readLongBasic_quotes few (spelling.head? _)
          exact spelling.readLongBasic next

/-! ## On several lines, in single quotes -/

theorem startsWith_replicate_append {mark : Char} (opens : rest.head? ≠ some mark)
    (wanted given : Nat) :
    startsWith (List.replicate wanted mark) (List.replicate given mark ++ rest) =
      decide (wanted ≤ given) := by
  induction wanted generalizing given with
  | zero => simp [startsWith, after?]
  | succ wanted ih =>
      cases given with
      | zero =>
          cases rest with
          | nil => simp [startsWith, after?, List.replicate_succ]
          | cons c rest =>
              have different : mark ≠ c := by
                rintro rfl
                exact opens rfl
              simp [startsWith, after?, List.replicate_succ, different]
      | succ given =>
          have inner := ih given
          simp only [startsWith] at inner ⊢
          simp [List.replicate_succ, after?, inner]

/-- One or two quotes in front of the closing ones belong to the text. -/
theorem readLongLiteral_closing {quotes : Nat} (few : quotes ≤ 2)
    (ends : rest.head? ≠ some apostrophe) :
    readLongLiteral (List.replicate (quotes + 3) apostrophe ++ rest) =
      some (List.replicate quotes apostrophe, rest) := by
  have starts (wanted : Nat) :
      startsWith (List.replicate wanted apostrophe)
        (apostrophe :: (List.replicate (quotes + 2) apostrophe ++ rest)) =
      decide (wanted ≤ quotes + 3) :=
    startsWith_replicate_append ends wanted (quotes + 3)
  rw [List.replicate_succ, List.cons_append, readLongLiteral.eq_def]
  dsimp only
  rw [starts, starts, starts]
  rcases few_cases few with rfl | rfl | rfl
  · rfl
  · rfl
  · rfl

theorem readLongLiteral_cons {c : Char} (plain : isPlain c = true ∨ c = '\n')
    (few : startsWith (List.replicate 3 apostrophe) (c :: rest) = false)
    (read : readLongLiteral rest = some (text, behind)) :
    readLongLiteral (c :: rest) = some (c :: text, behind) := by
  have noReturn : c ≠ '\r' := by
    rintro rfl
    simp [isPlain] at plain
  rw [readLongLiteral.eq_def]
  dsimp only
  rw [if_neg (ne_true_of_eq_false few), if_neg noReturn, if_pos plain, read]
  rfl

/-- One or two quotes in front of anything else stand for themselves. -/
theorem readLongLiteral_quotes {quotes : Nat} (few : quotes ≤ 2)
    (opens : rest.head? ≠ some apostrophe)
    (read : readLongLiteral rest = some (text, behind)) :
    readLongLiteral (List.replicate quotes apostrophe ++ rest) =
      some (List.replicate quotes apostrophe ++ text, behind) := by
  induction quotes with
  | zero => exact read
  | succ quotes ih =>
      apply readLongLiteral_cons (by decide) _ (ih (by omega))
      have starts := startsWith_replicate_append opens 3 (quotes + 1)
      rw [decide_eq_false (by omega)] at starts
      exact starts

theorem length_takeWhile_le_longestRun (mark : Char) (text : List Char) :
    (text.takeWhile (· == mark)).length ≤ longestRun mark text := by
  cases text with
  | nil => exact Nat.le_refl 0
  | cons c text => exact Nat.le_max_left _ _

theorem longestRun_tail_le (mark c : Char) (text : List Char) :
    longestRun mark text ≤ longestRun mark (c :: text) :=
  Nat.le_max_right _ _

theorem readLongLiteral_append (plain : ∀ c ∈ text, isPlain c = true ∨ c = '\n')
    {quotes : Nat}
    (few : quotes + (text.takeWhile (· == apostrophe)).length ≤ 2)
    (runs : longestRun apostrophe text ≤ 2)
    (ends : rest.head? ≠ some apostrophe) :
    readLongLiteral
        (List.replicate quotes apostrophe ++
          (text ++ (List.replicate 3 apostrophe ++ rest))) =
      some (List.replicate quotes apostrophe ++ text, rest) := by
  -- The quotes in front are those of a run that goes on in the text.
  induction text generalizing quotes with
  | nil =>
      rw [List.nil_append, ← List.append_assoc, List.replicate_append_replicate,
        List.append_nil]
      exact readLongLiteral_closing few ends
  | cons c text ih =>
      obtain ⟨here, behind⟩ := List.forall_mem_cons.mp plain
      have shorter := Nat.le_trans (longestRun_tail_le apostrophe c text) runs
      by_cases quote : c = apostrophe
      · subst quote
        rw [List.takeWhile_cons_of_pos (by simp), List.length_cons] at few
        have more := ih behind (show quotes + 1 + _ ≤ 2 by omega) shorter
        simpa [List.replicate_succ'] using more
      · have few : quotes ≤ 2 := by omega
        have inner : 0 + (text.takeWhile (· == apostrophe)).length ≤ 2 := by
          have bound := length_takeWhile_le_longestRun apostrophe text
          omega
        have next := ih behind inner shorter
        rw [List.replicate_zero, List.nil_append, List.nil_append] at next
        have opens : (c :: (text ++ (List.replicate 3 apostrophe ++ rest))).head? ≠
            some apostrophe := by
          simpa using quote
        apply readLongLiteral_quotes few opens
        apply readLongLiteral_cons here _ next
        exact startsWith_replicate_append opens 3 0

/-! ## The form of a string -/

/-- What a form asks of a text.  Between double quotes, where characters can be
escaped, there is room for any. -/
def StringForm.Holds : StringForm → List Char → Prop
  | .basic, _ => True
  | .literal, text => text ≠ [] ∧ ∀ c ∈ text, isPlain c = true ∧ c ≠ apostrophe
  | .longBasic, _ => True
  | .longLiteral, text =>
      longestRun apostrophe text ≤ 2 ∧ ∀ c ∈ text, isPlain c = true ∨ c = '\n'

theorem holds_chooseForm (text : List Char) : (chooseForm text).Holds text := by
  fun_cases chooseForm text with
  | case1 => trivial
  | case2 forbidden newline noBasic literal =>
      simp [forbidden, newline] at literal noBasic
      obtain ⟨⟨allowed, noQuote⟩, unbroken⟩ := literal
      constructor
      · rintro rfl
        simp at noBasic
      · intro c member
        constructor
        · apply (isPlain_of_allowed (allowed c member)).resolve_right
          rintro rfl
          exact unbroken member
        · rintro rfl
          exact noQuote member
  | case3 => trivial
  | case4 forbidden newline _ _ _ literal =>
      simp [forbidden] at literal
      obtain ⟨allowed, runs⟩ := literal
      exact ⟨runs, fun c member => isPlain_of_allowed (allowed c member)⟩
  | case5 => trivial
  | case6 => trivial

theorem after?_cons_of_head (mark : Char) (opens : text.head? ≠ some mark)
    (literal : List Char) : after? (mark :: literal) text = none := by
  cases text with
  | nil => rfl
  | cons c text =>
      rw [after?, if_neg]
      rintro rfl
      exact opens rfl

theorem skipFirstBreak_of_head (noFeed : text.head? ≠ some '\n')
    (noReturn : text.head? ≠ some '\r') : skipFirstBreak text = text := by
  unfold skipFirstBreak
  split
  · exact absurd rfl noFeed
  · exact absurd rfl noReturn
  · rfl

/-- The line break that opens a string of several lines is skipped, and nothing
else. -/
theorem skipFirstBreak_opening {body : List Char}
    (starts : '\n' ∉ text → body.head? ≠ some '\n' ∧ body.head? ≠ some '\r') :
    skipFirstBreak ((if text.contains '\n' then ['\n'] else []) ++ body) = body := by
  split
  · rfl
  · rename_i unbroken
    obtain ⟨noFeed, noReturn⟩ := starts (by simpa using unbroken)
    exact skipFirstBreak_of_head noFeed noReturn

theorem ne_break_of_isPlain {c : Char} (plain : isPlain c = true) :
    c ≠ '\n' ∧ c ≠ '\r' := by
  constructor
  · rintro rfl
    cases plain
  · rintro rfl
    cases plain

theorem Spelling.head?_ne_break {c : Char} {piece : List Char}
    (spelling : Spelling c piece) (rest : List Char) :
    (piece ++ rest).head? ≠ some '\n' ∧ (piece ++ rest).head? ≠ some '\r' := by
  cases spelling with
  | letter => simp
  | number => simp
  | plain isPlain => simpa using ne_break_of_isPlain isPlain

theorem head?_writeLongBasic (unbroken : '\n' ∉ text)
    (closes : rest.head? = some '"') :
    (writeLongBasic 0 text ++ rest).head? ≠ some '\n' ∧
      (writeLongBasic 0 text ++ rest).head? ≠ some '\r' := by
  cases text with
  | nil => simp [writeLongBasic, closes]
  | cons c text =>
      rw [List.mem_cons, not_or] at unbroken
      rw [writeLongBasic]
      split
      · simp
      · rename_i noQuote
        rw [if_neg (Ne.symm unbroken.1), List.append_assoc]
        exact (spelling_escapeChar noQuote (Ne.symm unbroken.1)).head?_ne_break _

/-- Behind a string there may be anything but another quote. -/
structure Ends (rest : List Char) : Prop where
  noQuote : rest.head? ≠ some '"'
  noApostrophe : rest.head? ≠ some apostrophe

theorem apostrophe_ne_quote : apostrophe ≠ '"' := by
  decide

theorem readString_basic (ends : Ends rest) (text : List Char) :
    readString ('"' :: (writeBasic text ++ '"' :: rest)) = some (text, rest) := by
  have short : after? "\"\"\"".toList ('"' :: (writeBasic text ++ '"' :: rest)) =
      none := by
    cases text with
    | nil => exact after?_cons_of_head '"' ends.noQuote []
    | cons c text =>
        rw [writeBasic, List.append_assoc]
        exact after?_cons_of_head '"' ((spelling_onOneLine c).head? _) ['"']
  have other : after? (List.replicate 3 apostrophe)
      ('"' :: (writeBasic text ++ '"' :: rest)) = none :=
    after?_cons_of_head apostrophe (by simpa using apostrophe_ne_quote.symm) _
  rw [readString, short]
  dsimp only
  rw [other]
  dsimp only
  rw [if_pos rfl]
  exact readBasic_writeBasic text rest

theorem readString_literal (holds : StringForm.literal.Holds text) (rest : List Char) :
    readString (apostrophe :: (text ++ apostrophe :: rest)) = some (text, rest) := by
  obtain ⟨telling, plain⟩ := holds
  have other : after? "\"\"\"".toList (apostrophe :: (text ++ apostrophe :: rest)) =
      none :=
    after?_cons_of_head '"' (by simpa using apostrophe_ne_quote) _
  have short : after? (List.replicate 3 apostrophe)
      (apostrophe :: (text ++ apostrophe :: rest)) = none := by
    obtain ⟨c, cs, rfl⟩ := List.exists_cons_of_ne_nil telling
    have noQuote := (plain c List.mem_cons_self).2
    exact after?_cons_of_head apostrophe (by simpa using noQuote) [apostrophe]
  rw [readString.eq_def, other]
  dsimp only
  rw [short]
  dsimp only
  rw [if_neg (by decide), if_pos rfl]
  exact readLiteral_append plain rest

theorem readString_longBasic (ends : Ends rest) (text : List Char) :
    readString
        ("\"\"\"".toList ++ ((if text.contains '\n' then ['\n'] else []) ++
          (writeLongBasic 0 text ++ ("\"\"\"".toList ++ rest)))) =
      some (text, rest) := by
  rw [readString.eq_def, after?_append]
  dsimp only
  rw [skipFirstBreak_opening fun unbroken => head?_writeLongBasic unbroken rfl]
  exact readLongBasic_writeLongBasic text (Nat.zero_le 2) ends.noQuote

theorem readString_longLiteral (ends : Ends rest)
    (holds : StringForm.longLiteral.Holds text) :
    readString
        (List.replicate 3 apostrophe ++ ((if text.contains '\n' then ['\n'] else []) ++
          (text ++ (List.replicate 3 apostrophe ++ rest)))) =
      some (text, rest) := by
  obtain ⟨runs, plain⟩ := holds
  have other (body : List Char) :
      after? "\"\"\"".toList (List.replicate 3 apostrophe ++ body) = none :=
    after?_cons_of_head '"' (by simpa using apostrophe_ne_quote) _
  have few : 0 + (text.takeWhile (· == apostrophe)).length ≤ 2 := by
    have bound := length_takeWhile_le_longestRun apostrophe text
    omega
  rw [readString.eq_def, other]
  dsimp only
  rw [after?_append]
  dsimp only
  rw [skipFirstBreak_opening]
  · exact readLongLiteral_append plain few runs ends.noApostrophe
  · intro unbroken
    cases text with
    | nil => simpa [List.replicate_succ] using @ne_break_of_isPlain apostrophe rfl
    | cons c text =>
        have here := (plain c List.mem_cons_self).resolve_right
          fun lineBreak => unbroken (lineBreak ▸ List.mem_cons_self)
        simpa using ne_break_of_isPlain here

theorem readString_writeString (ends : Ends rest) (text : List Char) :
    readString (writeString text ++ rest) = some (text, rest) := by
  have holds := holds_chooseForm text
  unfold writeString
  cases form : chooseForm text with
  | basic => simpa using readString_basic ends text
  | literal =>
      rw [form] at holds
      simpa using readString_literal holds rest
  | longBasic =>
      simp only [List.append_assoc]
      exact readString_longBasic ends text
  | longLiteral =>
      rw [form] at holds
      simp only [List.append_assoc]
      exact readString_longLiteral ends holds

end ToolBridge.Toml
