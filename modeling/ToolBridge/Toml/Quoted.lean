import ToolBridge.Text.Hex
import ToolBridge.Text.Literal

/-!
# Quoted strings

A string stands in double quotes, where a backslash starts an escape, or in
single quotes, where every character stands for itself.  Each kind has a form
with three quotes that may go over several lines.
-/

namespace ToolBridge.Toml

open ToolBridge.Text

/-- The characters that may stand for themselves in a string on one line:
all but control characters, of which the tab is allowed. -/
def isPlain (c : Char) : Bool :=
  c == '\t' || (0x20 ≤ c.toNat && c.toNat != 0x7F)

def isSpace (c : Char) : Bool :=
  c == ' ' || c == '\t'

/-- The character with a number given in base sixteen. -/
def codePoint? (digits : List Char) : Option Char :=
  let value? := digits.foldlM
    (fun value c => (hexValue? c).map fun digit => value * 16 + digit) 0
  match value? with
  | some value =>
      if value < 0xD800 ∨ (0xDFFF < value ∧ value < 0x110000) then
        some (Char.ofNat value)
      else none
  | none => none

/-- The character of an escape by one letter. -/
def escapeLetter? (c : Char) : Option Char :=
  if c = 'b' then some (Char.ofNat 8)
  else if c = 't' then some '\t'
  else if c = 'n' then some '\n'
  else if c = 'f' then some (Char.ofNat 12)
  else if c = 'r' then some '\r'
  else if c = '"' then some '"'
  else if c = '\\' then some '\\'
  else none

/-- A string in double quotes, after the opening quote: its text, and what
follows the closing quote. -/
def readBasic : List Char → Option (List Char × List Char)
  | [] => none
  | '"' :: rest => some ([], rest)
  | '\\' :: 'u' :: a :: b :: c :: d :: rest =>
      match codePoint? [a, b, c, d], readBasic rest with
      | some point, some (text, rest) => some (point :: text, rest)
      | _, _ => none
  | '\\' :: 'U' :: a :: b :: c :: d :: e :: f :: g :: h :: rest =>
      match codePoint? [a, b, c, d, e, f, g, h], readBasic rest with
      | some point, some (text, rest) => some (point :: text, rest)
      | _, _ => none
  | '\\' :: letter :: rest =>
      match escapeLetter? letter, readBasic rest with
      | some c, some (text, rest) => some (c :: text, rest)
      | _, _ => none
  | c :: rest =>
      if isPlain c ∧ c ≠ '\\' then
        (readBasic rest).map fun (text, rest) => (c :: text, rest)
      else none

/-- A string in single quotes, after the opening quote. -/
def readLiteral : List Char → Option (List Char × List Char)
  | [] => none
  | c :: rest =>
      if c.toNat = 0x27 then some ([], rest)
      else if isPlain c then
        (readLiteral rest).map fun (text, rest) => (c :: text, rest)
      else none

/-- Does the text go on with blanks and a line break? -/
def breaksLine (text : List Char) : Bool :=
  match text.dropWhile isSpace with
  | '\n' :: _ => true
  | '\r' :: '\n' :: _ => true
  | _ => false

/-- A string of several lines in double quotes, after the opening quotes.  The
closing quotes may follow one or two quotes of the text.  Blanks and line
breaks are skipped while `folding`, which a backslash at the end of a line
starts. -/
def readLongBasic : (folding : Bool) → List Char →
    Option (List Char × List Char)
  | true, ' ' :: rest => readLongBasic true rest
  | true, '\t' :: rest => readLongBasic true rest
  | true, '\n' :: rest => readLongBasic true rest
  | true, '\r' :: '\n' :: rest => readLongBasic true rest
  | _, '"' :: '"' :: '"' :: '"' :: '"' :: rest => some (['"', '"'], rest)
  | _, '"' :: '"' :: '"' :: '"' :: rest => some (['"'], rest)
  | _, '"' :: '"' :: '"' :: rest => some ([], rest)
  | _, '\\' :: 'u' :: a :: b :: c :: d :: rest =>
      match codePoint? [a, b, c, d], readLongBasic false rest with
      | some point, some (text, rest) => some (point :: text, rest)
      | _, _ => none
  | _, '\\' :: 'U' :: a :: b :: c :: d :: e :: f :: g :: h :: rest =>
      match codePoint? [a, b, c, d, e, f, g, h], readLongBasic false rest with
      | some point, some (text, rest) => some (point :: text, rest)
      | _, _ => none
  | _, '\\' :: letter :: rest =>
      if breaksLine (letter :: rest) then readLongBasic true rest
      else
        match escapeLetter? letter, readLongBasic false rest with
        | some c, some (text, rest) => some (c :: text, rest)
        | _, _ => none
  | _, '\r' :: '\n' :: rest =>
      (readLongBasic false rest).map fun (text, rest) => ('\n' :: text, rest)
  | _, c :: rest =>
      if (isPlain c ∧ c ≠ '\\') ∨ c = '\n' then
        (readLongBasic false rest).map fun (text, rest) => (c :: text, rest)
      else none
  | _, [] => none

def apostrophe : Char := Char.ofNat 0x27

/-- A string of several lines in single quotes, after the opening quotes. -/
def readLongLiteral : List Char → Option (List Char × List Char)
  | [] => none
  | c :: rest =>
      if startsWith (List.replicate 3 apostrophe) (c :: rest) then
        if startsWith (List.replicate 5 apostrophe) (c :: rest) then
          some ([apostrophe, apostrophe], rest.drop 4)
        else if startsWith (List.replicate 4 apostrophe) (c :: rest) then
          some ([apostrophe], rest.drop 3)
        else some ([], rest.drop 2)
      else if c = '\r' then
        match rest with
        | '\n' :: rest =>
            (readLongLiteral rest).map fun (text, rest) => ('\n' :: text, rest)
        | _ => none
      else if isPlain c ∨ c = '\n' then
        (readLongLiteral rest).map fun (text, rest) => (c :: text, rest)
      else none

/-- A text without the line break at its head. -/
def skipFirstBreak (text : List Char) : List Char :=
  match text with
  | '\n' :: rest => rest
  | '\r' :: '\n' :: rest => rest
  | _ => text

def readString (text : List Char) : Option (List Char × List Char) :=
  match after? "\"\"\"".toList text with
  | some rest => readLongBasic false (skipFirstBreak rest)
  | none =>
      match after? (List.replicate 3 apostrophe) text with
      | some rest => readLongLiteral (skipFirstBreak rest)
      | none =>
          match text with
          | [] => none
          | c :: rest =>
              if c = '"' then readBasic rest
              else if c = apostrophe then readLiteral rest
              else none

end ToolBridge.Toml
