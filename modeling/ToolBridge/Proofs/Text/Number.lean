import ToolBridge.Text.Lines
import ToolBridge.Text.Number

/-!
# Numerals

A numeral is a run of decimal digits, and reading it gives the number back, as
long as that fits into 32 bits.  What is read always fits.
-/

namespace ToolBridge.Text

theorem digitsValue?_append (value : Nat) (left right : List Char) :
    digitsValue? value (left ++ right) =
      (digitsValue? value left).bind fun value => digitsValue? value right := by
  induction left generalizing value with
  | nil => rfl
  | cons c left ih =>
      rw [List.cons_append, digitsValue?, digitsValue?]
      cases digitValue? c with
      | none => rfl
      | some digit => exact ih (value * 10 + digit)

theorem digitValue?_digitChar {digit : Nat} (small : digit < 10) :
    digitValue? digit.digitChar = some digit := by
  revert digit
  decide

/-- Digits are read in the order in which they are written, the last one
last. -/
theorem digitsValue?_toDigits (n : Nat) :
    digitsValue? 0 (Nat.toDigits 10 n) = some n := by
  induction n using Nat.strongRecOn with
  | ind n ih =>
      rw [Nat.toDigits_eq_if (by decide)]
      split
      · rename_i small
        simp [digitsValue?, digitValue?_digitChar small]
      · rename_i large
        have last : digitValue? (n % 10).digitChar = some (n % 10) :=
          digitValue?_digitChar (by omega)
        rw [digitsValue?_append, ih (n / 10) (by omega)]
        simp only [Option.bind_some, digitsValue?, last]
        congr 1
        omega

theorem readNumber?_toDigits {n : Nat} (fits : n < numberBound) :
    readNumber? (Nat.toDigits 10 n) = some n := by
  have telling : (Nat.toDigits 10 n).isEmpty = false := by
    simp [Nat.toDigits_ne_nil]
  simp [readNumber?, telling, digitsValue?_toDigits, fits]

theorem lt_numberBound_of_readNumber? {digits : List Char} {n : Nat}
    (read : readNumber? digits = some n) : n < numberBound := by
  unfold readNumber? at read
  split at read
  · cases read
  · split at read
    · split at read
      · cases read
        assumption
      · cases read
    · cases read

theorem forall_mem_toDigits {motive : Char → Prop}
    (digits : ∀ digit < 10, motive digit.digitChar) (n : Nat) :
    ∀ c ∈ Nat.toDigits 10 n, motive c := by
  induction n using Nat.strongRecOn with
  | ind n ih =>
      intro c member
      rw [Nat.toDigits_eq_if (by decide)] at member
      split at member
      · rename_i small
        rw [List.mem_singleton.mp member]
        exact digits n small
      · rcases List.mem_append.mp member with earlier | last
        · exact ih (n / 10) (by omega) c earlier
        · rw [List.mem_singleton.mp last]
          exact digits (n % 10) (by omega)

theorem isDecimal_of_mem_toDigits {n : Nat} {c : Char}
    (member : c ∈ Nat.toDigits 10 n) :
    isDecimal c = true ∧ isLineBreak c = false := by
  apply forall_mem_toDigits _ n c member
  decide

end ToolBridge.Text
