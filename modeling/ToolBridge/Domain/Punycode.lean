/-!
# Labels in ASCII

A label with characters beyond ASCII is written as its ASCII characters, a
hyphen, and the other characters in the order of their code points.  Each of
them is written as the number of steps from the one before, where a step goes
to the next place in the label or, at its end, to the next code point.  Small
numbers take few digits, and what counts as small depends on the numbers so
far.
-/

namespace ToolBridge.Domain.Punycode

/-- The number of digits. -/
def base : Nat := 36

/-- The value that ends a number at its place, if the digit is below it. -/
def threshold (bias place : Nat) : Nat :=
  if place ≤ bias then 1 else min 26 (place - bias)

theorem threshold_bounds (bias place : Nat) :
    1 ≤ threshold bias place ∧ threshold bias place ≤ 26 := by
  unfold threshold
  split <;> omega

/-- Divide a number until it is small, and count how often. -/
def adaptBy : (fuel : Nat) → Nat → Nat → Nat × Nat
  | 0, delta, count => (delta, count)
  | fuel + 1, delta, count =>
      if 455 < delta then adaptBy fuel (delta / 35) (count + 1)
      else (delta, count)

/-- The bias after a number, which was the one for the given count of
characters, and perhaps the first one. -/
def adapt (delta count : Nat) (isFirst : Bool) : Nat :=
  let delta := if isFirst then delta / 700 else delta / 2
  let delta := delta + delta / count
  let (delta, divisions) := adaptBy delta delta 0
  divisions * base + 36 * delta / (delta + 38)

def initialBias : Nat := 72

/-- The first code point beyond ASCII. -/
def firstWide : Nat := 0x80

/-! ## Writing -/

/-- A digit: the letters, then the figures. -/
def digit (value : Nat) : Char :=
  if value < 26 then Char.ofNat ('a'.toNat + value)
  else Char.ofNat ('0'.toNat + (value - 26))

/-- The digits of a number from a place on. -/
def digits (bias place value : Nat) : List Char :=
  let limit := threshold bias place
  if value < limit then [digit value]
  else
    digit (limit + (value - limit) % (base - limit)) ::
      digits bias (place + base) ((value - limit) / (base - limit))
termination_by value
decreasing_by
  have bounds := threshold_bounds bias place
  have small : (value - threshold bias place) / (base - threshold bias place) ≤
      value - threshold bias place := Nat.div_le_self _ _
  omega

/-- A label while it is written. -/
structure Writer where
  /-- The digits so far. -/
  output : List Char := []
  /-- The steps since the last character was written. -/
  delta : Nat := 0
  bias : Nat := initialBias
  /-- How many characters are written, those of ASCII included. -/
  written : Nat
  deriving DecidableEq, Repr

/-- Go past a character of the label while those of one code point are
written. -/
def Writer.pass (plain point : Nat) (writer : Writer) (c : Char) : Writer :=
  if c.toNat < point then { writer with delta := writer.delta + 1 }
  else if c.toNat = point then
    { output := writer.output ++ digits writer.bias base writer.delta
      delta := 0
      bias := adapt writer.delta (writer.written + 1) (writer.written == plain)
      written := writer.written + 1 }
  else writer

/-- Write the characters of the given code points, in their order, where
`next` is the first code point that was not gone through. -/
def writePoints (label : List Char) (plain : Nat) :
    (points : List Nat) → (next : Nat) → Writer → Writer
  | [], _, writer => writer
  | point :: points, next, writer =>
      let skipped := (point - next) * (writer.written + 1)
      let writer := { writer with delta := writer.delta + skipped }
      let writer := label.foldl (Writer.pass plain point) writer
      writePoints label plain points (point + 1)
        { writer with delta := writer.delta + 1 }

/-- A label in ASCII. -/
def encode (label : List Char) : List Char :=
  let plain := label.filter fun c => c.toNat < firstWide
  let points := ((label.map Char.toNat).filter (firstWide ≤ ·)).mergeSort
  let writer := writePoints label plain.length points.eraseDups firstWide
    { written := plain.length }
  plain ++ (if plain.isEmpty then [] else ['-']) ++ writer.output

/-! ## Reading -/

def digitValue? (c : Char) : Option Nat :=
  if 'a' ≤ c && c ≤ 'z' then some (c.toNat - 'a'.toNat)
  else if 'A' ≤ c && c ≤ 'Z' then some (c.toNat - 'A'.toNat)
  else if '0' ≤ c && c ≤ '9' then some (c.toNat - '0'.toNat + 26)
  else none

/-- A label while it is read. -/
structure Reader where
  label : List Char
  point : Nat := firstWide
  /-- The place behind the last character that was read. -/
  index : Nat := 0
  bias : Nat := initialBias
  deriving DecidableEq, Repr

def isCharacter (point : Nat) : Bool :=
  point < 0xD800 || (0xDFFF < point && point < 0x110000)

/-- Insert the character that is so many steps away. -/
def Reader.insert? (reader : Reader) (steps : Nat) : Option Reader :=
  let count := reader.label.length + 1
  let total := reader.index + steps
  let point := reader.point + total / count
  let place := total % count
  if isCharacter point then
    some
      { label := reader.label.take place ++ Char.ofNat point ::
          reader.label.drop place
        point
        index := place + 1
        bias := adapt steps count (reader.index == 0) }
  else none

/-- Read numbers and insert the characters that they stand for.  The digits of
a number in front of the text are counted in `value`, and the next digit has
the weight `weight`. -/
def readNumbers (place weight value : Nat) :
    Reader → List Char → Option Reader
  | reader, [] => if place = base then some reader else none
  | reader, c :: rest =>
      match digitValue? c with
      | none => none
      | some found =>
          let limit := threshold reader.bias place
          let value := value + found * weight
          if found < limit then
            match reader.insert? value with
            | some reader => readNumbers base 1 0 reader rest
            | none => none
          else
            readNumbers (place + base) (weight * (base - limit)) value reader
              rest

/-- The label that a text in ASCII stands for. -/
def decode? (text : List Char) : Option (List Char) :=
  let behind := (text.reverse.takeWhile (· != '-')).reverse
  let plain := text.take (text.length - behind.length - 1)
  let behind := if plain.isEmpty then text else behind
  if plain.any fun c => firstWide ≤ c.toNat then none
  else (readNumbers base 1 0 { label := plain } behind).map Reader.label

end ToolBridge.Domain.Punycode
