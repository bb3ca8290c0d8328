import BrowserFlow.Text.Search
import BrowserFlow.Yaml.Token

/-!
# Places in a YAML text

A cursor is a place in a text: what is still to be read, and how much has been read before it. The
end of the text counts as the end of a line.
-/

namespace BrowserFlow.Yaml

open Text

/-- A place in a text. -/
structure Cursor where
  /-- What is still to be read. -/
  rest : List Char
  /-- How many bytes have been read. -/
  index : Nat := 0
  /-- How many lines have been read. -/
  line : Nat := 0
  /-- How many characters of the line have been read. -/
  column : Nat := 0

/-- How many bytes characters take in UTF-8. -/
def byteSize : List Char → Nat
  | [] => 0
  | c :: s => c.utf8Size + byteSize s

/-- Whether a character ends a line. -/
def isBreak (c : Char) : Bool :=
  c == '\n' || c == '\r' || c.toNat == 0x85 || c.toNat == 0x2028 || c.toNat == 0x2029

/-- Whether a character is a space or a tab. -/
def isSpacing (c : Char) : Bool :=
  c == ' ' || c == '\t'

/-- Whether a character may occur in the name of an anchor, a directive or a tag handle. -/
def isNameChar (c : Char) : Bool :=
  isAsciiDigit c || c.isAlpha || c == '-' || c == '_'

namespace Cursor

/-- The character `k` places ahead. -/
def peek (cursor : Cursor) (k : Nat) : Option Char :=
  cursor.rest[k]?

/-- Whether the next character is `c`. -/
def isAt (cursor : Cursor) (c : Char) : Bool :=
  cursor.peek 0 == some c

/-- Whether the character `k` places ahead satisfies `p`; past the end none does. -/
def satisfies (cursor : Cursor) (k : Nat) (p : Char → Bool) : Bool :=
  (cursor.peek k).any p

/-- Whether the text ends here. -/
def atEnd (cursor : Cursor) : Bool :=
  cursor.rest.isEmpty

/-- Whether a line ends here. -/
def atLineEnd (cursor : Cursor) : Bool :=
  cursor.atEnd || cursor.satisfies 0 isBreak

/-- Whether a space, a tab, the end of a line or of the text is `k` places ahead. -/
def isVoidAt (cursor : Cursor) (k : Nat) : Bool :=
  match cursor.peek k with
  | none => true
  | some c => isSpacing c || isBreak c

/-- The place `n` characters further on, on the same line. -/
def skip (cursor : Cursor) (n : Nat) : Cursor :=
  { cursor with
    rest := cursor.rest.drop n
    index := cursor.index + byteSize (cursor.rest.take n)
    column := cursor.column + n }

/-- The place after the end of a line, and the text that this end stands for: a line feed, unless
it is one of the two separators of Unicode. -/
def skipBreak (cursor : Cursor) : List Char × Cursor :=
  match cursor.rest with
  | '\r' :: '\n' :: rest => (['\n'], ⟨rest, cursor.index + 2, cursor.line + 1, 0⟩)
  | c :: rest =>
    if isBreak c then
      let text := if c.toNat == 0x2028 || c.toNat == 0x2029 then c else '\n'
      ([text], ⟨rest, cursor.index + c.utf8Size, cursor.line + 1, 0⟩)
    else ([], cursor)
  | [] => ([], cursor)

/-- The longest run of characters that satisfy `p`, none of them being the end of a line, and the
place after it. -/
def takeRun (cursor : Cursor) (p : Char → Bool) : List Char × Cursor :=
  let run := cursor.rest.takeWhile p
  (run, cursor.skip run.length)

/-- The place after the spaces and tabs. -/
def skipSpacing (cursor : Cursor) : Cursor :=
  (cursor.takeRun isSpacing).2

/-- The place after the comment, if there is one. -/
def skipComment (cursor : Cursor) : Cursor :=
  if cursor.isAt '#' then (cursor.takeRun (!isBreak ·)).2 else cursor

/-- Whether a line that begins or ends a document starts here. -/
def atDocumentMark (cursor : Cursor) : Bool :=
  cursor.column == 0 && cursor.isVoidAt 3 &&
    ((after? "---".toList cursor.rest).isSome || (after? "...".toList cursor.rest).isSome)

end Cursor

/-- Reading on from a place. -/
abbrev Scan (α : Type) := StateT Cursor (Except SyntaxError) α

namespace Scan

/-- Gives up. -/
def fail {α : Type} (problem : Problem) (activity : String) : Scan α :=
  throw ⟨problem, some activity⟩

/-- Skips `n` characters of the line. -/
def skip (n : Nat) : Scan Unit :=
  modify (·.skip n)

/-- Reads the longest run of characters that satisfy `p`, none of them being the end of a line. -/
def takeRun (p : Char → Bool) : Scan (List Char) :=
  modifyGet (·.takeRun p)

/-- Skips spaces and tabs. -/
def skipSpacing : Scan Unit :=
  modify Cursor.skipSpacing

/-- Skips a comment. -/
def skipComment : Scan Unit :=
  modify Cursor.skipComment

/-- Reads the end of a line. -/
def takeBreak : Scan (List Char) :=
  modifyGet Cursor.skipBreak

end Scan

end BrowserFlow.Yaml
