import ToolBridge.Text.CharClass
import ToolBridge.Text.Lines

/-!
# Trimming
-/

namespace ToolBridge.Text

/-- A list without the longest end whose symbols all satisfy the test. -/
def dropEndWhile {α : Type} (test : α → Bool) (symbols : List α) : List α :=
  (symbols.reverse.dropWhile test).reverse

/-- A text without its trailing line feeds and carriage returns. -/
def trimLineBreaks (text : List Char) : List Char :=
  dropEndWhile isLineBreak text

/-- White space alone, or nothing. -/
def isBlankText (text : List Char) : Bool :=
  text.all isBlank

/-- The part after the last symbol that satisfies the test, or everything. -/
def afterLast {α : Type} (test : α → Bool) (symbols : List α) : List α :=
  (symbols.reverse.takeWhile fun symbol => !test symbol).reverse

/-- The part before the first symbol that satisfies the test, or everything. -/
def beforeFirst {α : Type} (test : α → Bool) (symbols : List α) : List α :=
  symbols.takeWhile fun symbol => !test symbol

end ToolBridge.Text
