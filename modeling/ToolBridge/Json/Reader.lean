import ToolBridge.Json.Basic
import ToolBridge.Text.Hex
import ToolBridge.Text.Literal
import ToolBridge.Text.Number

/-!
# Reading JSON texts

A number without point and exponent is an integer if 64 bits suffice for it,
and every other number is a double.  Of two fields with one name the last one
counts, and the fields of an object are sorted by name.
-/

namespace ToolBridge.Json

open ToolBridge.Text

/-! ## Numbers -/

/-- The first significand that does not fit. -/
def significandBound : Nat := Nat.pow 2 64

/-- Add digits to a significand as long as it fits.  The digits that are left
come with it. -/
def significandOf (value : Nat) : List Char → Nat × List Char
  | [] => (value, [])
  | c :: cs =>
      let next := value * 10 + (digitValue? c).getD 0
      if next < significandBound then significandOf next cs
      else (value, c :: cs)

def isDigit (c : Char) : Bool :=
  (digitValue? c).isSome

/-- The digits at the head of a text, of which there must be one. -/
def readDigits (text : List Char) : Option (List Char × List Char) :=
  match text.takeWhile isDigit with
  | [] => none
  | digits => some (digits, text.dropWhile isDigit)

/-- The digits in front of the point.  Only zero itself starts with a zero. -/
def readWhole (text : List Char) : Option (List Char × List Char) :=
  match readDigits text with
  | some ('0' :: _ :: _, _) => none
  | found => found

def readFraction (text : List Char) :
    Option (Option (List Char) × List Char) :=
  match text with
  | '.' :: rest =>
      (readDigits rest).map fun (digits, rest) => (some digits, rest)
  | _ => some (none, text)

/-- A sign in front of the digits of an exponent. -/
def splitExponentSign (text : List Char) : Bool × List Char :=
  match text with
  | '-' :: rest => (true, rest)
  | '+' :: rest => (false, rest)
  | _ => (false, text)

def readExponent (text : List Char) : Option (Option Int × List Char) :=
  match text with
  | [] => some (none, [])
  | mark :: rest =>
      if mark = 'e' ∨ mark = 'E' then
        let (negative, rest) := splitExponentSign rest
        (readDigits rest).map fun (digits, rest) =>
          let value : Int := (digitsValue? 0 digits).getD 0
          (some (if negative then -value else value), rest)
      else some (none, text)

/-- The value of a number by its parts. -/
def numberOf? (negative : Bool) (whole : List Char)
    (fraction : Option (List Char)) (exponent : Option Int) : Option Json :=
  let (significand, dropped) := significandOf 0 whole
  let asDouble := fun (_ : Unit) =>
    let digits := fraction.getD []
    let (significand, ignored) := significandOf significand digits
    let shift : Int := dropped.length - (digits.length - ignored.length : Nat)
    (Double.ofDecimal? negative significand (shift + exponent.getD 0)).map
      Json.double
  if fraction.isSome || exponent.isSome || !dropped.isEmpty then asDouble ()
  else if !negative then some (.int significand)
  else if 0 < significand ∧ significand ≤ Nat.pow 2 63 then
    some (.int (-(significand : Int)))
  else asDouble ()

/-- A number at the head of a text, and the rest. -/
def readNumber (text : List Char) : Option (Json × List Char) := do
  let (negative, text) :=
    match text with
    | '-' :: rest => (true, rest)
    | _ => (false, text)
  let (whole, text) ← readWhole text
  let (fraction, text) ← readFraction text
  let (exponent, text) ← readExponent text
  return (← numberOf? negative whole fraction exponent, text)

/-! ## Strings -/

/-- The number that four digits of base sixteen stand for. -/
def unit? (a b c d : Char) : Option Nat := do
  let a ← hexValue? a
  let b ← hexValue? b
  let c ← hexValue? c
  let d ← hexValue? d
  return ((a * 16 + b) * 16 + c) * 16 + d

/-- The character of an escape by one letter. -/
def escapeLetter? (c : Char) : Option Char :=
  if c = '"' ∨ c = '\\' ∨ c = '/' then some c
  else if c = 'b' then some (Char.ofNat 8)
  else if c = 'f' then some (Char.ofNat 12)
  else if c = 'n' then some '\n'
  else if c = 'r' then some '\r'
  else if c = 't' then some '\t'
  else none

/-- The character of two units, the first of which is the upper half of a
pair. -/
def pairChar? (high low : Nat) : Option Char :=
  if 0xDC00 ≤ low ∧ low ≤ 0xDFFF then
    some (Char.ofNat (0x10000 + (high - 0xD800) * 0x400 + (low - 0xDC00)))
  else none

/-- Does a unit stand for a character of its own? -/
def isWholeUnit (unit : Nat) : Bool :=
  unit < 0xD800 || 0xDFFF < unit

/-- A string after the opening quote, with the characters in front of it in
reverse. -/
def readStringFrom (before : List Char) :
    List Char → Option (String × List Char)
  | [] => none
  | '"' :: rest => some (String.ofList before.reverse, rest)
  | '\\' :: 'u' :: a :: b :: c :: d :: rest =>
      match unit? a b c d with
      | none => none
      | some unit =>
          if isWholeUnit unit then
            readStringFrom (Char.ofNat unit :: before) rest
          else if 0xDC00 ≤ unit then none
          else
            match rest with
            | '\\' :: 'u' :: a :: b :: c :: d :: rest =>
                match (unit? a b c d).bind (pairChar? unit) with
                | some c => readStringFrom (c :: before) rest
                | none => none
            | _ => none
  | '\\' :: letter :: rest =>
      match escapeLetter? letter with
      | some c => readStringFrom (c :: before) rest
      | none => none
  | c :: rest =>
      if c.toNat < 0x20 ∨ c = '\\' then none
      else readStringFrom (c :: before) rest

/-! ## Values -/

def skipBlanks (text : List Char) : List Char :=
  text.dropWhile fun c => c == ' ' || c == '\n' || c == '\r' || c == '\t'

/-- Fields sorted by name.  Of those with one name only the last is kept. -/
def sortFields (fields : List (String × Json)) : List (String × Json) :=
  let sorted := fields.mergeSort fun left right => decide (left.1 ≤ right.1)
  sorted.foldr
    (fun field kept =>
      match kept with
      | next :: _ => if field.1 = next.1 then kept else field :: kept
      | [] => [field])
    []

mutual

/-- A value at the head of a text, and the rest.  At most `fuel` steps are
taken, and each of them reads a character. -/
def readValue : (fuel : Nat) → List Char → Option (Json × List Char)
  | 0, _ => none
  | fuel + 1, text =>
      match skipBlanks text with
      | '"' :: rest =>
          (readStringFrom [] rest).map fun (text, rest) => (.string text, rest)
      | '[' :: rest =>
          match skipBlanks rest with
          | ']' :: rest => some (.array [], rest)
          | rest => readItems fuel [] rest
      | '\x7b' :: rest =>
          match skipBlanks rest with
          | '\x7d' :: rest => some (.object [], rest)
          | rest => readFields fuel [] rest
      | text =>
          match after? "null".toList text with
          | some rest => some (.null, rest)
          | none =>
              match after? "true".toList text with
              | some rest => some (.bool true, rest)
              | none =>
                  match after? "false".toList text with
                  | some rest => some (.bool false, rest)
                  | none => readNumber text

/-- The items of an array up to its end, after those in `before`, which are in
reverse. -/
def readItems : (fuel : Nat) → (before : List Json) → List Char →
    Option (Json × List Char)
  | 0, _, _ => none
  | fuel + 1, before, text =>
      match readValue fuel text with
      | none => none
      | some (item, rest) =>
          match skipBlanks rest with
          | ',' :: rest => readItems fuel (item :: before) rest
          | ']' :: rest => some (.array (item :: before).reverse, rest)
          | _ => none

/-- The fields of an object up to its end, after those in `before`, which are
in reverse. -/
def readFields : (fuel : Nat) → (before : List (String × Json)) →
    List Char → Option (Json × List Char)
  | 0, _, _ => none
  | fuel + 1, before, text =>
      match skipBlanks text with
      | '"' :: rest =>
          match readStringFrom [] rest with
          | none => none
          | some (name, rest) =>
              match skipBlanks rest with
              | ':' :: rest =>
                  match readValue fuel rest with
                  | none => none
                  | some (value, rest) =>
                      match skipBlanks rest with
                      | ',' :: rest =>
                          readFields fuel ((name, value) :: before) rest
                      | '\x7d' :: rest =>
                          some
                            (.object (sortFields ((name, value) :: before).reverse),
                              rest)
                      | _ => none
              | _ => none
      | _ => none

end

def parse? (text : String) : Option Json :=
  let text := text.toList
  match readValue (text.length + 1) text with
  | some (value, rest) => if (skipBlanks rest).isEmpty then some value else none
  | none => none

end ToolBridge.Json
