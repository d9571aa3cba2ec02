import ToolBridge.Text.Lines
import ToolBridge.Text.Hex
import ToolBridge.Text.Literal
import ToolBridge.Text.Number

/-!
# Numbers, dates and times

The values that are written without quotes and brackets, each as a run of
characters without blanks.
-/

namespace ToolBridge.Toml

open ToolBridge.Text

def isDigit (c : Char) : Bool :=
  '0' ≤ c && c ≤ '9'

/-- Digits with single underscores between them, without the underscores. -/
def grouped? (test : Char → Bool) : List Char → Option (List Char)
  | [] => none
  | [c] => if test c then some [c] else none
  | c :: '_' :: rest =>
      if test c then (grouped? test rest).map (c :: ·) else none
  | c :: rest => if test c then (grouped? test rest).map (c :: ·) else none

def splitSign (token : List Char) : Bool × List Char :=
  match token with
  | '-' :: rest => (true, rest)
  | '+' :: rest => (false, rest)
  | _ => (false, token)

/-- The digits of a decimal integer.  Only zero itself starts with a zero. -/
def decimalDigits? (token : List Char) : Option (List Char) :=
  match grouped? isDigit token with
  | some ['0'] => some ['0']
  | some ('0' :: _) => none
  | digits => digits

def valueIn (base : Nat) (digits : List Char) : Nat :=
  digits.foldl (fun value c => value * base + (hexValue? c).getD 0) 0

/-- A number in a base other than ten. -/
def basedInteger? (base : Nat) (digits : List Char) : Option Int :=
  let isDigitOfBase := fun c => (hexValue? c).any (· < base)
  match grouped? isDigitOfBase digits with
  | some digits =>
      let value := valueIn base digits
      if value < Nat.pow 2 63 then some value else none
  | none => none

/-- An integer of 64 bits. -/
def integer? (token : List Char) : Option Int :=
  match token with
  | '0' :: 'x' :: digits => basedInteger? 16 digits
  | '0' :: 'o' :: digits => basedInteger? 8 digits
  | '0' :: 'b' :: digits => basedInteger? 2 digits
  | _ =>
      let (negative, rest) := splitSign token
      match decimalDigits? rest with
      | some digits =>
          let value : Int := valueIn 10 digits
          let value := if negative then -value else value
          if -(Nat.pow 2 63 : Int) ≤ value ∧ value < Nat.pow 2 63 then some value
          else none
      | none => none

/-- The first decimal that is too large for a float: half a step above the
largest one. -/
def floatBound : Nat := Nat.pow 2 1024 - Nat.pow 2 970

/-- Is the number too large for a float, given its digits and the power of
ten by which they are scaled? -/
def exceedsFloat (digits : List Char) (exponent : Int) : Bool :=
  let digits := digits.dropWhile (· == '0')
  let magnitude := digits.length + exponent
  if digits.isEmpty || magnitude ≤ 300 then false
  else if 400 ≤ magnitude then true
  else if 0 ≤ exponent then
    floatBound ≤ valueIn 10 digits * Nat.pow 10 exponent.toNat
  else floatBound * Nat.pow 10 exponent.natAbs ≤ valueIn 10 digits

/-- The exponent of a float, which may be left out. -/
def exponent? (text : List Char) : Option Int :=
  match text with
  | [] => some 0
  | mark :: rest =>
      if mark = 'e' ∨ mark = 'E' then
        let (negative, digits) := splitSign rest
        (grouped? isDigit digits).map fun digits =>
          let value : Int := valueIn 10 digits
          if negative then -value else value
      else none

/-- A float.  One that is too large is no value unless it is negative. -/
def isFloat (token : List Char) : Bool :=
  let (negative, rest) := splitSign token
  if rest = "inf".toList ∨ rest = "nan".toList then true
  else
    let isMark := fun c => c == '.' || c == 'e' || c == 'E'
    let whole := rest.takeWhile (!isMark ·)
    let behind := rest.dropWhile (!isMark ·)
    let isExponentMark := fun c => c == 'e' || c == 'E'
    let fraction :=
      match behind with
      | '.' :: behind => grouped? isDigit (behind.takeWhile (!isExponentMark ·))
      | _ => some []
    match behind, decimalDigits? whole, fraction,
        exponent? (behind.dropWhile (!isExponentMark ·)) with
    | _ :: _, some whole, some fraction, some exponent =>
        negative || !exceedsFloat (whole ++ fraction) (exponent - fraction.length)
    | _, _, _, _ => false

/-- A number of exactly so many digits. -/
def digits? (count : Nat) (text : List Char) : Option (Nat × List Char) :=
  let digits := text.take count
  if digits.length = count ∧ digits.all isDigit then
    some (valueIn 10 digits, text.drop count)
  else none

def daysIn (year month : Nat) : Nat :=
  if month = 2 then
    if year % 4 = 0 ∧ (year % 100 ≠ 0 ∨ year % 400 = 0) then 29 else 28
  else if month = 4 ∨ month = 6 ∨ month = 9 ∨ month = 11 then 30
  else 31

def readDate (text : List Char) : Option (List Char) := do
  let (year, text) ← digits? 4 text
  let (month, text) ← digits? 2 (← after? ['-'] text)
  let (day, text) ← digits? 2 (← after? ['-'] text)
  if 1 ≤ month ∧ month ≤ 12 ∧ 1 ≤ day ∧ day ≤ daysIn year month then
    return text
  else none

/-- A fraction of a second, which may be left out. -/
def readFraction (text : List Char) : Option (List Char) :=
  match text with
  | '.' :: rest =>
      if (rest.takeWhile isDigit).isEmpty then none
      else some (rest.dropWhile isDigit)
  | _ => some text

/-- A time of day at the head of a text, and the rest. -/
def readTime (text : List Char) : Option (List Char) := do
  let (hour, text) ← digits? 2 text
  let (minute, text) ← digits? 2 (← after? [':'] text)
  let (second, text) ← digits? 2 (← after? [':'] text)
  if hour ≤ 23 ∧ minute ≤ 59 ∧ second ≤ 60 then readFraction text else none

/-- The offset of a time, up to the end of the text. -/
def isOffset (text : List Char) : Bool :=
  match text with
  | [] => true
  | ['Z'] => true
  | ['z'] => true
  | sign :: rest =>
      if sign = '+' ∨ sign = '-' then
        ((do
          let (hour, text) ← digits? 2 rest
          let (minute, text) ← digits? 2 (← after? [':'] text)
          return decide (hour ≤ 23 ∧ minute ≤ 59) && text.isEmpty) :
            Option Bool).getD false
      else false

def isDate (token : List Char) : Bool :=
  readDate token = some []

/-- A date, a time, or both with an offset. -/
def isMoment (token : List Char) : Bool :=
  match readDate token with
  | some [] => true
  | some (delimiter :: rest) =>
      (delimiter = 'T' || delimiter = 't' || delimiter = ' ') &&
        ((readTime rest).any isOffset)
  | none => readTime token = some []

end ToolBridge.Toml
