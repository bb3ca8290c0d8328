/-!
# Searching a text

Whether one text occurs inside another, what follows a given beginning, and what lies between the
places where a character stands. All of them compare characters exactly: there is no case folding
and no normalisation.
-/

namespace BrowserFlow.Text

/-- What follows `w` at the start of a text, if the text starts with `w`. -/
def after? : (w s : List Char) → Option (List Char)
  | [], s => some s
  | _ :: _, [] => none
  | a :: w, b :: s => if a == b then after? w s else none

/-- Whether `needle` occurs somewhere in a text. -/
def occursIn (needle : List Char) : List Char → Bool
  | [] => needle.isEmpty
  | c :: s => (after? needle (c :: s)).isSome || occursIn needle s

/-- Whether a text contains another one. -/
def contains (text needle : String) : Bool :=
  occursIn needle.toList text.toList

/-- The parts of a text between the places where a character stands. -/
def partsAt (mark : Char) (text : String) : List String :=
  (text.toList.splitOn mark).map String.ofList

/-- A text with every character replaced by what `f` gives for it. -/
def mapChars (f : Char → List Char) (s : String) : String :=
  String.ofList (s.toList.flatMap f)

end BrowserFlow.Text
