import ToolBridge.Text.CharClass
import ToolBridge.Text.Hex
import ToolBridge.Text.Lines

/-!
# Tables of characters

Large properties of characters are written down as texts: tokens with blanks
between them, each of which is a code point in base sixteen or two of them
with a hyphen between, for all code points from the first to the second.
-/

namespace ToolBridge.Text

def tokensOf (table : String) : List (List Char) :=
  (splitBy isBlank table.toList).filter (· != [])

def hexNumber (digits : List Char) : Nat :=
  digits.foldl (fun value c => value * 16 + (hexValue? c).getD 0) 0

def rangeOf (token : List Char) : Nat × Nat :=
  let first := hexNumber (token.takeWhile (· != '-'))
  match token.dropWhile (· != '-') with
  | _ :: last => (first, hexNumber last)
  | [] => (first, first)

def rangesOf (table : String) : List (Nat × Nat) :=
  (tokensOf table).map rangeOf

end ToolBridge.Text
