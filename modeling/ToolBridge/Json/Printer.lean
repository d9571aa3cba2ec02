import ToolBridge.Json.Basic
import ToolBridge.Number.Shortest
import ToolBridge.Text.Hex
import ToolBridge.Text.Number

/-!
# Writing JSON

Values over several lines, with two blanks for each level, or on one line.
-/

namespace ToolBridge.Json

open ToolBridge.Text

def quoteChar (c : Char) : List Char :=
  if c = '"' then ['\\', '"']
  else if c = '\\' then ['\\', '\\']
  else if c.toNat = 8 then ['\\', 'b']
  else if c = '\t' then ['\\', 't']
  else if c = '\n' then ['\\', 'n']
  else if c.toNat = 12 then ['\\', 'f']
  else if c = '\r' then ['\\', 'r']
  else if c.toNat < 0x20 then "\\u00".toList ++
      [lowerHexDigit (c.toNat / 16), lowerHexDigit (c.toNat % 16)]
  else [c]

def quote (text : String) : String :=
  String.ofList ('"' :: text.toList.flatMap quoteChar ++ ['"'])

/-- The most digits in front of the point of a double that is written without
an exponent. -/
def greatestWhole : Int := 16

/-- The most zeros between the point and the first other digit of a double
that is written without an exponent. -/
def greatestZeros : Int := 4

/-- A decimal.  A whole number keeps a zero after its point, and very large
and very small numbers have an exponent with its sign. -/
def decimalText (decimal : Double.Decimal) : String :=
  let digits := Nat.toDigits 10 decimal.digits
  let point : Int := digits.length + decimal.exponent
  let zeros := fun (count : Int) => List.replicate count.toNat '0'
  String.ofList <|
    if 0 < point ∧ point ≤ greatestWhole then
      if 0 ≤ decimal.exponent then digits ++ zeros decimal.exponent ++ ".0".toList
      else digits.take point.toNat ++ '.' :: digits.drop point.toNat
    else if -greatestZeros ≤ point ∧ point ≤ 0 then
      "0.".toList ++ zeros (-point) ++ digits
    else
      let mantissa :=
        match digits with
        | first :: second :: rest => first :: '.' :: second :: rest
        | digits => digits
      let power := point - 1
      mantissa ++ 'e' :: (if power < 0 then '-' else '+') ::
        Nat.toDigits 10 power.natAbs

/-- A double, by its shortest decimal. -/
def doubleText (double : Double) : String :=
  (if double.negative then "-" else "") ++
    (if double.isZero then "0.0" else decimalText double.shortest)

/-- A line break with the indentation of a level. -/
def lineBreak (level : Nat) : String :=
  String.ofList ('\n' :: List.replicate (2 * level) ' ')

mutual

/-- A value whose lines after the first are indented to a level. -/
def prettyAt (level : Nat) : Json → String
  | null => "null"
  | bool true => "true"
  | bool false => "false"
  | int value => signedNumeral value
  | double value => doubleText value
  | string text => quote text
  | array [] => "[]"
  | array (item :: items) =>
      "[" ++ prettyItems (level + 1) (item :: items) ++ lineBreak level ++ "]"
  | object [] => "\x7b\x7d"
  | object (field :: fields) =>
      "\x7b" ++ prettyFields (level + 1) (field :: fields) ++ lineBreak level ++
        "\x7d"

/-- The items of an array, each on a line of its own. -/
def prettyItems (level : Nat) : List Json → String
  | [] => ""
  | [item] => lineBreak level ++ prettyAt level item
  | item :: items =>
      lineBreak level ++ prettyAt level item ++ "," ++ prettyItems level items

/-- The fields of an object, each on a line of its own. -/
def prettyFields (level : Nat) : List (String × Json) → String
  | [] => ""
  | [(name, value)] =>
      lineBreak level ++ quote name ++ ": " ++ prettyAt level value
  | (name, value) :: fields =>
      lineBreak level ++ quote name ++ ": " ++ prettyAt level value ++ "," ++
        prettyFields level fields

end

/-- A value over several lines. -/
def pretty (value : Json) : String :=
  prettyAt 0 value

mutual

/-- A value on one line without blanks. -/
def compact : Json → String
  | null => "null"
  | bool true => "true"
  | bool false => "false"
  | int value => signedNumeral value
  | double value => doubleText value
  | string text => quote text
  | array items => "[" ++ compactItems items ++ "]"
  | object fields => "\x7b" ++ compactFields fields ++ "\x7d"

/-- The items of an array with commas between them. -/
def compactItems : List Json → String
  | [] => ""
  | [item] => compact item
  | item :: items => compact item ++ "," ++ compactItems items

/-- The fields of an object with commas between them. -/
def compactFields : List (String × Json) → String
  | [] => ""
  | [(name, value)] => quote name ++ ":" ++ compact value
  | (name, value) :: fields =>
      quote name ++ ":" ++ compact value ++ "," ++ compactFields fields

end

end ToolBridge.Json
