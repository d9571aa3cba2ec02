import ToolBridge.Text.CharClass

/-!
# Numbers in text

Line and column numbers are 32-bit naturals written in ASCII digits.  A run
of digits in another script is a number to the reader's eye but has no value
here, and neither has one that does not fit.
-/

namespace ToolBridge.Text

/-- The first number that does not fit into 32 bits. -/
def numberBound : Nat := Nat.pow 2 32

def digitValue? (c : Char) : Option Nat :=
  if '0' ≤ c && c ≤ '9' then some (c.toNat - '0'.toNat) else none

/-- The value of a run of ASCII digits, read after the digits of `value`. -/
def digitsValue? (value : Nat) : List Char → Option Nat
  | [] => some value
  | c :: cs =>
      match digitValue? c with
      | some digit => digitsValue? (value * 10 + digit) cs
      | none => none

/-- The number a nonempty run of ASCII digits stands for, when it fits. -/
def readNumber? (digits : List Char) : Option Nat :=
  if digits.isEmpty then none
  else
    match digitsValue? 0 digits with
    | some value => if value < numberBound then some value else none
    | none => none

/-- A number counted from one instead of zero.  It has 32 bits, and after the
largest comes zero. -/
def countedFromOne (n : Nat) : Nat :=
  (n + 1) % numberBound

def numeral (n : Nat) : String :=
  String.ofList (Nat.toDigits 10 n)

/-- The decimal numeral of an integer, with a sign only when negative. -/
def signedNumeral : Int → String
  | .ofNat n => numeral n
  | .negSucc n => "-" ++ numeral (n + 1)

end ToolBridge.Text
