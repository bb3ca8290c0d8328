import BrowserFlow.Text.Search

/-!
# Forms of sentences

A form is a pattern for the beginning of a sentence: words that stand as they are, words of which
one is chosen, and texts between double quotes. Reading a sentence by a form gives the quoted
texts in order; whatever follows the last piece of the form is left out of account.
-/

namespace BrowserFlow.Sentence

open Text

/-- One piece of a form. -/
inductive Piece
  /-- This text. -/
  | exactly (text : String)
  /-- One of these texts. -/
  | anyOf (texts : List String)
  /-- A text between double quotes, not empty and without a double quote inside. -/
  | quotation
  deriving DecidableEq, Repr

/-- A pattern for the beginning of a sentence. -/
abbrev Form := List Piece

/-- The text between double quotes at the start of `s`, and what follows it. -/
def quotation? : (s : List Char) → Option (List Char × List Char)
  | '"' :: s =>
    let inner := s.takeWhile (· != '"')
    match s.dropWhile (· != '"') with
    | [] => none
    | _ :: rest => if inner.isEmpty then none else some (inner, rest)
  | _ => none

/-- The quoted texts of a sentence that begins as the form says. Where several texts are allowed,
the first that lets the rest of the form match is taken. -/
def Form.read? : Form → List Char → Option (List String)
  | [], _ => some []
  | .exactly text :: form, s => (after? text.toList s).bind (Form.read? form)
  | .anyOf texts :: form, s =>
    texts.findSome? fun text => (after? text.toList s).bind (Form.read? form)
  | .quotation :: form, s =>
    (quotation? s).bind fun (inner, rest) =>
      (Form.read? form rest).map (String.ofList inner :: ·)

end BrowserFlow.Sentence
