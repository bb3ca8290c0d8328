/-!
# Sets of characters

A set of characters is written as its ranges of code points, in ascending order, so that a table
of the Unicode character database can be read off directly. `CharSet.contains` looks a character
up from the front and stops at the first range that lies beyond it.
-/

namespace BrowserFlow.Text

/-- Ascending, disjoint ranges of code points, both ends included. -/
abbrev CharSet := List (Nat × Nat)

/-- Whether a code point lies in one of the ranges. -/
def CharSet.containsCode : CharSet → Nat → Bool
  | [], _ => false
  | (first, last) :: rest, n =>
    if n < first then false else n ≤ last || containsCode rest n

/-- Whether a character lies in one of the ranges. -/
def CharSet.contains (set : CharSet) (c : Char) : Bool :=
  set.containsCode c.toNat

end BrowserFlow.Text
