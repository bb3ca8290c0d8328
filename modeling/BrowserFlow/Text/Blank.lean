import BrowserFlow.Text.CharSet

/-!
# White space

A blank is a character with the Unicode property `White_Space`. Sentences, headings and labels
are trimmed of blanks at both ends, and a label's words are its maximal runs of other characters.
-/

namespace BrowserFlow.Text

/-- Characters with the property `White_Space`. -/
def whiteSpace : CharSet := [
  (0x9, 0xD), (0x20, 0x20), (0x85, 0x85), (0xA0, 0xA0), (0x1680, 0x1680), (0x2000, 0x200A),
  (0x2028, 0x2029), (0x202F, 0x202F), (0x205F, 0x205F), (0x3000, 0x3000)]

/-- Whether a character is white space. -/
def isBlank (c : Char) : Bool :=
  whiteSpace.contains c

/-- A text without the blanks at its start. -/
def trimStart (s : List Char) : List Char :=
  s.dropWhile isBlank

/-- A text without the blanks at its end. -/
def trimEnd (s : List Char) : List Char :=
  (s.reverse.dropWhile isBlank).reverse

/-- A text without the blanks at its ends. -/
def trim (s : List Char) : List Char :=
  trimEnd (trimStart s)

/-- A text without the copies of `c` at its ends. -/
def trimChar (c : Char) (s : List Char) : List Char :=
  ((s.dropWhile (· == c)).reverse.dropWhile (· == c)).reverse

/-- The pieces of a text between the characters that satisfy `p`; there is always at least one. -/
def pieces (p : Char → Bool) : List Char → List (List Char)
  | [] => [[]]
  | c :: s =>
    match pieces p s with
    | [] => [[c]]
    | w :: ws => if p c then [] :: w :: ws else (c :: w) :: ws

/-- The words of a text: its maximal runs of characters that are not blank. -/
def words (s : List Char) : List (List Char) :=
  (pieces isBlank s).filter (!·.isEmpty)

/-- The lines of a text, divided by line feeds. A carriage return at the end of a line stays in
it; it is a blank, so that trimming the line takes it away. -/
def lines (s : List Char) : List (List Char) :=
  pieces (· == '\n') s

end BrowserFlow.Text
