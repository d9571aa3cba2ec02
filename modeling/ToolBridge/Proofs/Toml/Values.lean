import ToolBridge.Proofs.Text.Number
import ToolBridge.Proofs.Toml.Strings
import ToolBridge.Toml.Reader

/-!
# Values are read as they were written

Strings, arrays of strings and integers, each followed by something that ends a
value.
-/

namespace ToolBridge.Toml

open ToolBridge.Text

variable {rest : List Char}

/-- What follows a value: the end of its line, or a comma or bracket of the array
around it. -/
inductive Stops : List Char → Prop where
  | line (rest : List Char) : Stops ('\n' :: rest)
  | comma (rest : List Char) : Stops (',' :: rest)
  | bracket (rest : List Char) : Stops (']' :: rest)

theorem Stops.ends (stops : Stops rest) : Ends rest := by
  cases stops with
  | line => exact ⟨by simp, by simp [apostrophe]⟩
  | comma => exact ⟨by simp, by simp [apostrophe]⟩
  | bracket => exact ⟨by simp, by simp [apostrophe]⟩

/-- A text that is read as a value, whatever follows, and does not start with a
blank. -/
structure ReadsAs (depth : Nat) (text : List Char) (item : Item) : Prop where
  opens : ∃ c body, text = c :: body ∧ isSpace c = false
  read : ∀ rest, Stops rest → readItem depth (text ++ rest) = some (item, rest)

/-! ## Strings -/

theorem opens_writeString (text : List Char) :
    ∃ c body, writeString text = c :: body ∧ (c = '"' ∨ c = apostrophe) := by
  unfold writeString
  cases chooseForm text with
  | basic => exact ⟨'"', _, rfl, Or.inl rfl⟩
  | literal => exact ⟨apostrophe, _, rfl, Or.inr rfl⟩
  | longBasic => exact ⟨'"', _, rfl, Or.inl rfl⟩
  | longLiteral => exact ⟨apostrophe, _, rfl, Or.inr rfl⟩

theorem isSpace_of_quote {c : Char} (quote : c = '"' ∨ c = apostrophe) :
    isSpace c = false := by
  rcases quote with rfl | rfl
  · rfl
  · rfl

theorem readsAs_string (depth : Nat) (text : String) :
    ReadsAs depth (writeString text.toList) (.string text) := by
  obtain ⟨c, body, written, quote⟩ := opens_writeString text.toList
  constructor
  · exact ⟨c, body, written, isSpace_of_quote quote⟩
  · intro rest stops
    have read := readString_writeString stops.ends text.toList
    rw [written, List.cons_append] at read ⊢
    rw [readItem.eq_def]
    dsimp only
    rw [if_pos quote, read, Option.map_some, String.ofList_toList]

/-! ## Arrays -/

section Items

variable {reader : ItemReader} {text body behind : List Char} {item : Item}
  {items : List Item} {fuel : Nat}

theorem readItems_comma (skipped : skipFiller false text = some body)
    (opens : body.head? ≠ some ']') (read : reader body = some (item, ',' :: behind))
    (others : readItems reader fuel behind = some (items, rest)) :
    readItems reader (fuel + 1) text = some (item :: items, rest) := by
  have comma : skipFiller false (',' :: behind) = some (',' :: behind) := rfl
  rw [readItems, skipped]
  split
  · rename_i closed
    cases closed
    exact absurd rfl opens
  · rename_i inner _ same
    cases same
    simp only [read, comma, others, Option.map_some]
  · rename_i missing
    cases missing

theorem readItems_last (skipped : skipFiller false text = some body)
    (opens : body.head? ≠ some ']') (read : reader body = some (item, ']' :: rest)) :
    readItems reader (fuel + 1) text = some ([item], rest) := by
  have bracket : skipFiller false (']' :: rest) = some (']' :: rest) := rfl
  rw [readItems, skipped]
  split
  · rename_i closed
    cases closed
    exact absurd rfl opens
  · rename_i inner _ same
    cases same
    simp only [read, bracket]
  · rename_i missing
    cases missing

end Items

theorem skipFiller_writeString (text rest : List Char) :
    skipFiller false (writeString text ++ rest) = some (writeString text ++ rest) ∧
      (writeString text ++ rest).head? ≠ some ']' := by
  obtain ⟨c, body, written, quote⟩ := opens_writeString text
  rw [written, List.cons_append]
  rcases quote with rfl | rfl
  · exact ⟨rfl, by simp⟩
  · exact ⟨rfl, by simp [apostrophe]⟩

/-- The lines of an array are read one by one, each from the line break in front
of it. -/
theorem readItems_lines (depth : Nat) (items : List String) {fuel : Nat}
    (enough : items.length < fuel) (rest : List Char) :
    readItems (readItem depth) fuel
        ('\n' :: ((items.flatMap fun item =>
          "    ".toList ++ writeString item.toList ++ ",\n".toList) ++
            ']' :: rest)) =
      some (items.map Item.string, rest) := by
  induction items generalizing fuel with
  | nil =>
      cases fuel with
      | zero => cases enough
      | succ fuel => rfl
  | cons item items ih =>
      cases fuel with
      | zero => cases enough
      | succ fuel =>
          have others := ih (Nat.lt_of_succ_lt_succ enough)
          generalize behind : '\n' :: ((items.flatMap fun item =>
            "    ".toList ++ writeString item.toList ++ ",\n".toList) ++
              ']' :: rest) = more at others
          have shape : '\n' :: (((item :: items).flatMap fun item =>
              "    ".toList ++ writeString item.toList ++ ",\n".toList) ++
                ']' :: rest) =
              '\n' :: ' ' :: ' ' :: ' ' :: ' ' ::
                (writeString item.toList ++ ',' :: more) := by
            simp [← behind]
          have string := (readsAs_string depth item).read _ (.comma more)
          obtain ⟨skipped, opens⟩ :=
            skipFiller_writeString item.toList (',' :: more)
          rw [shape]
          exact readItems_comma skipped opens string others

theorem readItem_array {depth : Nat} {inner : List Char} {items : List Item}
    (read : readItems (readItem depth) (inner.length + 1) inner = some (items, rest)) :
    readItem (depth + 1) ('[' :: inner) = some (.array items, rest) := by
  rw [readItem.eq_def]
  dsimp only
  rw [if_neg (by decide), if_pos rfl, List.length_cons, read]
  rfl

theorem length_le_length_flatMap {α β : Type} (write : α → List β) (items : List α)
    (telling : ∀ item, 0 < (write item).length) :
    items.length ≤ (items.flatMap write).length := by
  induction items with
  | nil => exact Nat.le_refl 0
  | cons item items ih =>
      have here := telling item
      rw [List.flatMap_cons, List.length_append, List.length_cons]
      omega

theorem readsAs_strings (depth : Nat) (items : List String) :
    ReadsAs (depth + 1) (writeStrings items) (.array (items.map Item.string)) := by
  match items with
  | [] =>
      refine ⟨⟨'[', _, rfl, rfl⟩, ?_⟩
      intro rest stops
      exact readItem_array rfl
  | [item] =>
      refine ⟨⟨'[', _, rfl, rfl⟩, ?_⟩
      intro rest stops
      have string := (readsAs_string depth item).read _ (.bracket rest)
      obtain ⟨skipped, opens⟩ := skipFiller_writeString item.toList (']' :: rest)
      have shape : writeStrings [item] ++ rest =
          '[' :: (writeString item.toList ++ ']' :: rest) := by
        simp [writeStrings]
      rw [shape]
      exact readItem_array (readItems_last skipped opens string)
  | first :: second :: others =>
      refine ⟨⟨'[', _, rfl, rfl⟩, ?_⟩
      intro rest stops
      have shape : writeStrings (first :: second :: others) ++ rest =
          '[' :: '\n' :: (((first :: second :: others).flatMap fun item =>
            "    ".toList ++ writeString item.toList ++ ",\n".toList) ++
              ']' :: rest) := by
        simp [writeStrings]
      rw [shape]
      apply readItem_array
      apply readItems_lines
      have enough := length_le_length_flatMap
        (fun item : String =>
          "    ".toList ++ writeString item.toList ++ ",\n".toList)
        (first :: second :: others) (fun item => by simp)
      simp only [List.length_cons, List.length_append] at enough ⊢
      omega

/-! ## Integers -/

theorem isDigit_digitChar {digit : Nat} (small : digit < 10) :
    isDigit digit.digitChar = true ∧ hexValue? digit.digitChar = some digit := by
  revert digit
  decide

theorem valueIn_toDigits (n : Nat) : valueIn 10 (Nat.toDigits 10 n) = n := by
  induction n using Nat.strongRecOn with
  | ind n ih =>
      rw [Nat.toDigits_eq_if (by decide)]
      split
      · rename_i small
        simp [valueIn, (isDigit_digitChar small).2]
      · have last := (isDigit_digitChar (show n % 10 < 10 by omega)).2
        have earlier := ih (n / 10) (by omega)
        rw [valueIn] at earlier ⊢
        rw [List.foldl_append, earlier, List.foldl_cons, List.foldl_nil, last,
          Option.getD_some]
        omega

theorem eq_nil_of_toDigits_eq {n : Nat} {others : List Char}
    (opens : Nat.toDigits 10 n = '0' :: others) : others = [] := by
  induction n using Nat.strongRecOn generalizing others with
  | ind n ih =>
      rw [Nat.toDigits_eq_if (by decide)] at opens
      split at opens
      · exact (List.cons.inj opens).2.symm
      · rename_i large
        obtain ⟨c, cs, earlier⟩ := List.exists_cons_of_ne_nil
          (@Nat.toDigits_ne_nil (n / 10) 10)
        rw [earlier, List.cons_append] at opens
        obtain ⟨rfl, _⟩ := List.cons.inj opens
        -- The digits in front would be those of zero, but there is more than one.
        have zero := ih (n / 10) (by omega) earlier
        have value := valueIn_toDigits (n / 10)
        rw [earlier, zero] at value
        have small : n / 10 = 0 := value.symm
        omega

theorem grouped?_of_digits {digits : List Char} (telling : digits ≠ [])
    (decimal : ∀ c ∈ digits, isDigit c = true) :
    grouped? isDigit digits = some digits := by
  induction digits with
  | nil => exact absurd rfl telling
  | cons c digits ih =>
      obtain ⟨here, decimal⟩ := List.forall_mem_cons.mp decimal
      cases digits with
      | nil => simp [grouped?, here]
      | cons d digits =>
          have noGroup : d ≠ '_' := by
            rintro rfl
            cases decimal '_' List.mem_cons_self
          have inner := ih (by simp) decimal
          simp [grouped?, noGroup, here, inner]

theorem isDigit_of_mem_toDigits (n : Nat) : ∀ c ∈ Nat.toDigits 10 n, isDigit c = true :=
  forall_mem_toDigits (fun _ small => (isDigit_digitChar small).1) n

theorem decimalDigits?_toDigits (n : Nat) :
    decimalDigits? (Nat.toDigits 10 n) = some (Nat.toDigits 10 n) := by
  rw [decimalDigits?,
    grouped?_of_digits Nat.toDigits_ne_nil (isDigit_of_mem_toDigits n)]
  split
  · rename_i zero
    exact zero.symm
  · rename_i others longer opens
    exact absurd (eq_nil_of_toDigits_eq (Option.some.inj opens)) longer
  · rfl

theorem splitSign_toDigits (n : Nat) :
    splitSign (Nat.toDigits 10 n) = (false, Nat.toDigits 10 n) := by
  have decimal := isDigit_of_mem_toDigits n
  obtain ⟨c, others, shape⟩ := List.exists_cons_of_ne_nil (@Nat.toDigits_ne_nil n 10)
  rw [shape] at decimal ⊢
  have digit := decimal c List.mem_cons_self
  unfold splitSign
  split
  · rename_i opens
    cases opens
    cases digit
  · rename_i opens
    cases opens
    cases digit
  · rfl

theorem integer?_of_splitSign {token : List Char} {negative : Bool} {n : Nat}
    {value : Int} (unmarked : ∀ mark others, token ≠ '0' :: mark :: others)
    (signed : splitSign token = (negative, Nat.toDigits 10 n))
    (meant : (if negative then -(n : Int) else n) = value)
    (lower : -(Nat.pow 2 63 : Int) ≤ value) (upper : value < Nat.pow 2 63) :
    integer? token = some value := by
  unfold integer?
  split
  · exact absurd rfl (unmarked _ _)
  · exact absurd rfl (unmarked _ _)
  · exact absurd rfl (unmarked _ _)
  · rw [signed]
    dsimp only
    rw [decimalDigits?_toDigits]
    dsimp only
    rw [valueIn_toDigits, meant, if_pos ⟨lower, upper⟩]

theorem integer?_signedNumeral {value : Int} (lower : -(Nat.pow 2 63 : Int) ≤ value)
    (upper : value < Nat.pow 2 63) :
    integer? (signedNumeral value).toList = some value := by
  cases value with
  | ofNat n =>
      have shape : (signedNumeral (.ofNat n)).toList = Nat.toDigits 10 n := by
        simp [signedNumeral, numeral]
      rw [shape]
      apply integer?_of_splitSign _ (splitSign_toDigits n) rfl lower upper
      intro mark others opens
      cases eq_nil_of_toDigits_eq opens
  | negSucc n =>
      have shape : (signedNumeral (.negSucc n)).toList =
          '-' :: Nat.toDigits 10 (n + 1) := by
        simp [signedNumeral, numeral]
      have signed : splitSign ('-' :: Nat.toDigits 10 (n + 1)) =
          (true, Nat.toDigits 10 (n + 1)) := rfl
      rw [shape]
      apply integer?_of_splitSign _ signed rfl lower upper
      intro mark others opens
      cases opens

/-- The characters of a numeral. -/
def isNumeralChar (c : Char) : Bool :=
  isDigit c || c == '-'

theorem isNumeralChar_signedNumeral (value : Int) :
    (signedNumeral value).toList ≠ [] ∧
      ∀ c ∈ (signedNumeral value).toList, isNumeralChar c = true := by
  cases value with
  | ofNat n =>
      refine ⟨by simp [signedNumeral, numeral, Nat.toDigits_ne_nil], ?_⟩
      intro c member
      have digit := isDigit_of_mem_toDigits n c (by
        simpa [signedNumeral, numeral] using member)
      simp [isNumeralChar, digit]
  | negSucc n =>
      refine ⟨by simp [signedNumeral], ?_⟩
      intro c member
      have sign : c = '-' ∨ c ∈ Nat.toDigits 10 (n + 1) := by
        simpa [signedNumeral, numeral] using member
      rcases sign with rfl | inDigits
      · rfl
      · simp [isNumeralChar, isDigit_of_mem_toDigits (n + 1) c inDigits]

theorem ne_of_isNumeralChar {c : Char} (numeral : isNumeralChar c = true)
    (other : Char) (different : isNumeralChar other = false) : c ≠ other := by
  rintro rfl
  cases numeral.symm.trans different

theorem endsToken_of_isNumeralChar {c : Char} (numeral : isNumeralChar c = true) :
    endsToken c = false := by
  cases ends : endsToken c with
  | false => rfl
  | true =>
      simp only [endsToken, isSpace, Bool.or_eq_true, beq_iff_eq] at ends
      rcases ends with ((((((rfl | rfl) | rfl) | rfl) | rfl) | rfl) | rfl) | rfl <;>
        cases numeral

theorem scalar?_of_integer? {token : List Char} {value : Int}
    (read : integer? token = some value) : scalar? token = some (.integer value) := by
  have noTrue : token ≠ "true".toList := by
    rintro rfl
    cases read
  have noFalse : token ≠ "false".toList := by
    rintro rfl
    cases read
  rw [scalar?, if_neg noTrue, if_neg noFalse, read]

theorem readScalar_token {token : List Char} {item : Item}
    (inside : ∀ c ∈ token, endsToken c = false) (meant : scalar? token = some item)
    (stops : Stops rest) : readScalar (token ++ rest) = some (item, rest) := by
  have inner : ∀ c ∈ token, (!endsToken c) = true := by
    intro c member
    rw [inside c member, Bool.not_false]
  have taken : (token ++ rest).takeWhile (!endsToken ·) = token ∧
      (token ++ rest).dropWhile (!endsToken ·) = rest := by
    rw [List.takeWhile_append_of_pos inner, List.dropWhile_append_of_pos inner]
    cases stops with
    | line => exact ⟨List.append_nil token, rfl⟩
    | comma => exact ⟨List.append_nil token, rfl⟩
    | bracket => exact ⟨List.append_nil token, rfl⟩
  rw [readScalar, taken.1, taken.2]
  cases stops with
  | line => simp [meant]
  | comma => simp [meant]
  | bracket => simp [meant]

theorem readsAs_integer (depth : Nat) {value : Int}
    (lower : -(Nat.pow 2 63 : Int) ≤ value) (upper : value < Nat.pow 2 63) :
    ReadsAs depth (signedNumeral value).toList (.integer value) := by
  obtain ⟨telling, numeral⟩ := isNumeralChar_signedNumeral value
  have meant := scalar?_of_integer? (integer?_signedNumeral lower upper)
  obtain ⟨c, body, shape⟩ := List.exists_cons_of_ne_nil telling
  rw [shape] at numeral meant ⊢
  have first := numeral c List.mem_cons_self
  constructor
  · refine ⟨c, body, rfl, ?_⟩
    simp [isSpace, ne_of_isNumeralChar first ' ' rfl,
      ne_of_isNumeralChar first '\t' rfl]
  · intro rest stops
    have inside : ∀ d ∈ c :: body, endsToken d = false := by
      intro d member
      exact endsToken_of_isNumeralChar (numeral d member)
    have read := readScalar_token inside meant stops
    rw [List.cons_append] at read ⊢
    rw [readItem.eq_def]
    dsimp only
    rw [if_neg, if_neg, if_neg, read]
    · exact ne_of_isNumeralChar first '\x7b' rfl
    · exact ne_of_isNumeralChar first '[' rfl
    · rintro (rfl | rfl) <;> cases first

end ToolBridge.Toml
