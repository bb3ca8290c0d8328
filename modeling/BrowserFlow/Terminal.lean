import BrowserFlow.Terminal.Sequence
import BrowserFlow.Text.Digit

/-!
# Text on a terminal

Pieces of text that stand out by colour or weight, written with the escape sequences of terminals.
Where colours are not wanted, a single piece is written as it is, and of a text of several pieces
what is visible.
-/

namespace BrowserFlow

/-- How a piece of text stands out: the codes of some escape sequences. -/
structure Style where
  /-- The codes, one list for every sequence. -/
  sequences : List (List Nat)
  deriving DecidableEq, Repr

namespace Style

/-- Text as it is. -/
def plain : Style := ⟨[]⟩

/-- Bold text. -/
def bold : Style := ⟨[[1]]⟩

/-- Faint text. -/
def faint : Style := ⟨[[2]]⟩

/-- Red text. -/
def red : Style := ⟨[[31]]⟩

/-- Green text. -/
def green : Style := ⟨[[32]]⟩

/-- Yellow text. -/
def yellow : Style := ⟨[[33]]⟩

/-- Blue text. -/
def blue : Style := ⟨[[34]]⟩

/-- Cyan text. -/
def cyan : Style := ⟨[[36]]⟩

/-- Bold green text. -/
def boldGreen : Style := ⟨[[1, 32]]⟩

/-- Bold blue text. -/
def boldBlue : Style := ⟨[[1, 34]]⟩

/-- Bold white text. -/
def boldWhite : Style := ⟨[[1, 37]]⟩

/-- Bold underlined text, set by two sequences. -/
def heading : Style := ⟨[[1], [4]]⟩

/-- Bold red text, set by two sequences. -/
def alarm : Style := ⟨[[1], [31]]⟩

/-- An escape sequence. -/
def sequence (codes : List Nat) : String :=
  "\x1b[" ++ ";".intercalate (codes.map Text.decimal) ++ "m"

/-- What begins a piece of text in a style. -/
def opening (style : Style) : String :=
  String.join (style.sequences.map sequence)

/-- What ends a piece of text in a style. -/
def reset : String := sequence [0]

/-- A piece of text between what begins and what ends a style. -/
def wrap (style : Style) (text : String) : String :=
  if style.sequences.isEmpty then text else style.opening ++ text ++ reset

/-- A piece of text in a style. Where the text itself ends a style, this one is begun anew. -/
def apply (style : Style) (coloured : Bool) (text : String) : String :=
  if coloured then style.wrap (text.replace reset (reset ++ style.opening)) else text

end Style

/-- A text whose pieces have styles. -/
abbrev StyledText := List (Style × String)

namespace StyledText

/-- The text with colours. -/
def coloured (text : StyledText) : String :=
  String.join (text.map fun (style, piece) => style.wrap piece)

/-- The text, with or without colours. -/
def render (inColour : Bool) (text : StyledText) : String :=
  if inColour then text.coloured else Terminal.visible text.coloured

/-- How many characters the text has. -/
def width : StyledText → Nat
  | [] => 0
  | (_, piece) :: rest => piece.length + width rest

/-- Blanks that fill up a text to some width. -/
def fill (width : Nat) (text : StyledText) : String :=
  "".pushn ' ' (width - text.width)

end StyledText

end BrowserFlow
