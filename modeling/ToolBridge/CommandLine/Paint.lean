import ToolBridge.Text.Literal

/-!
# Colours on a terminal

A painted text stands between an escape sequence that sets a style and one
that resets it.  Where the text itself resets the style, the style is set
again.
-/

namespace ToolBridge.CommandLine

open ToolBridge.Text

inductive Style where
  | bold
  | dimmed
  | underline
  | boldRed
  | boldYellow
  | boldGreen
  | boldBlue
  | cyan
  deriving DecidableEq, Repr

namespace Style

/-- The numbers of a style in its escape sequence. -/
def codes : Style → String
  | bold => "1"
  | dimmed => "2"
  | underline => "4"
  | boldRed => "1;31"
  | boldYellow => "1;33"
  | boldGreen => "1;32"
  | boldBlue => "1;34"
  | cyan => "36"

def opening (style : Style) : List Char :=
  "\x1b[".toList ++ style.codes.toList ++ ['m']

end Style

def reset : List Char := "\x1b[0m".toList

/-- A text in a style, if colours are on. -/
def paint (colors : Bool) (style : Style) (text : String) : String :=
  if colors then
    String.ofList
      (style.opening ++ replaceAll reset (reset ++ style.opening) text.toList ++
        reset)
  else text

end ToolBridge.CommandLine
