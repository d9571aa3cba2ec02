import ToolBridge.Text.Number
import ToolBridge.Toml.Quoted

/-!
# Writing TOML

A string is written in the plainest form that can hold it: in double quotes
without escapes, in single quotes, or over several lines; with escapes only
when no other form is left.
-/

namespace ToolBridge.Toml

open ToolBridge.Text

/-- The control characters that no string may hold as they are. -/
def isForbidden (c : Char) : Bool :=
  (c.toNat < 0x20 && c != '\t' && c != '\n') || c.toNat == 0x7F

def longestRun (mark : Char) : List Char → Nat
  | [] => 0
  | c :: cs =>
      max ((c :: cs).takeWhile (· == mark)).length (longestRun mark cs)

/-- The forms of a string. -/
inductive StringForm where
  | basic
  | literal
  | longBasic
  | longLiteral
  deriving DecidableEq, Repr

def chooseForm (text : List Char) : StringForm :=
  let forbidden := text.any isForbidden
  let newline := text.contains '\n'
  if !forbidden && !text.contains '\\' && !text.contains '"' && !newline then
    .basic
  else if !forbidden && !text.contains apostrophe && !newline then .literal
  else if !forbidden && !text.contains '\\' && longestRun '"' text ≤ 2 then
    .longBasic
  else if !forbidden && longestRun apostrophe text ≤ 2 then .longLiteral
  else if newline then .longBasic
  else .basic

/-- The escape of a control character by its number. -/
def escapeNumber (c : Char) : List Char :=
  "\\u00".toList ++
    [upperHexDigit (c.toNat / 16), upperHexDigit (c.toNat % 16)]

/-- A character of a string in double quotes, other than a quote and a line
break. -/
def escapeChar (c : Char) : List Char :=
  if c.toNat = 8 then ['\\', 'b']
  else if c = '\t' then ['\\', 't']
  else if c.toNat = 12 then ['\\', 'f']
  else if c = '\r' then ['\\', 'r']
  else if c = '\\' then ['\\', '\\']
  else if isForbidden c then escapeNumber c
  else [c]

/-- The text of a string on one line in double quotes. -/
def writeBasic : List Char → List Char
  | [] => []
  | c :: cs =>
      (if c = '"' then ['\\', '"']
        else if c = '\n' then ['\\', 'n']
        else escapeChar c) ++ writeBasic cs

/-- The text of a string of several lines in double quotes, where `quotes`
quotes stand just before.  The third quote in a row is escaped. -/
def writeLongBasic : (quotes : Nat) → List Char → List Char
  | _, [] => []
  | quotes, c :: cs =>
      if c = '"' then
        if quotes = 2 then '\\' :: '"' :: writeLongBasic 0 cs
        else '"' :: writeLongBasic (quotes + 1) cs
      else if c = '\n' then '\n' :: writeLongBasic 0 cs
      else escapeChar c ++ writeLongBasic 0 cs

/-- A string in its form. -/
def writeString (text : List Char) : List Char :=
  let opening := if text.contains '\n' then ['\n'] else []
  match chooseForm text with
  | .basic => '"' :: writeBasic text ++ ['"']
  | .literal => apostrophe :: text ++ [apostrophe]
  | .longBasic =>
      "\"\"\"".toList ++ opening ++ writeLongBasic 0 text ++ "\"\"\"".toList
  | .longLiteral =>
      List.replicate 3 apostrophe ++ opening ++ text ++
        List.replicate 3 apostrophe

/-- An array of strings: on one line up to one item, else each item on a line
of its own. -/
def writeStrings (items : List String) : List Char :=
  match items with
  | [] => "[]".toList
  | [item] => '[' :: writeString item.toList ++ [']']
  | items =>
      "[\n".toList ++
        (items.flatMap fun item =>
          "    ".toList ++ writeString item.toList ++ ",\n".toList) ++ [']']

def writeLine (key : String) (value : List Char) : List Char :=
  key.toList ++ " = ".toList ++ value ++ ['\n']

end ToolBridge.Toml
