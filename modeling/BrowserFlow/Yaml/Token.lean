import BrowserFlow.Text.Digit

/-!
# Tokens of YAML

What a YAML text is made of below the level of nodes, and what can be wrong with one. Tokens carry
no position: the indentation has been turned into tokens that begin and end collections. The
address of a tag is held as bytes, since its escapes may write bytes that form no text.
-/

namespace BrowserFlow.Yaml

open Text

/-- What is wrong with a text. -/
inductive Problem
  /-- Something that has to be there is missing. -/
  | missing (what : String)
  /-- Something that is needed could not be found further on. -/
  | notFound (what : String)
  /-- Something is there that cannot be. -/
  | found (what : String)
  /-- Something is in a place where it cannot be. -/
  | misplaced (what : String)
  /-- A character that no YAML text may hold, at a position counted in bytes. -/
  | forbidden (position : Nat)
  /-- An alias of an anchor that is not there. -/
  | unknownAnchor
  /-- A second document. -/
  | secondDocument
  deriving DecidableEq, Repr

/-- The problem in words. -/
def Problem.describe : Problem → String
  | .missing what => "did not find " ++ what
  | .notFound what => "could not find " ++ what
  | .found what => "found " ++ what
  | .misplaced what => what ++ " are not allowed in this context"
  | .forbidden position =>
    "control characters are not allowed" ++
      if position == 0 then "" else " at position " ++ decimal position
  | .unknownAnchor => "unknown anchor"
  | .secondDocument =>
    "deserializing from YAML containing more than one document is not supported"

/-- Why a text is not well-formed. -/
structure SyntaxError where
  /-- What is wrong. -/
  problem : Problem
  /-- In the course of what it was found. -/
  activity : Option String := none
  deriving DecidableEq, Repr

/-- The error in words. -/
def SyntaxError.message (e : SyntaxError) : String :=
  match e.activity with
  | none => e.problem.describe
  | some activity => e.problem.describe ++ ", while " ++ activity

/-- The address of a tag, or a part of one: the bytes of a text in UTF-8, or any others. -/
abbrev Address := List UInt8

/-- The bytes of a text. -/
def Address.ofText (text : String) : Address :=
  text.toUTF8.toList

/-- The text that the bytes form, if they form one. -/
def Address.text? (address : Address) : Option String :=
  String.fromUTF8? ⟨address.toArray⟩

/-- Whether an address begins with an exclamation mark, so that it is the document's own. -/
def Address.isOwn (address : Address) : Bool :=
  address.head? == some 0x21

/-- How a scalar is written. -/
inductive Style
  | plain | singleQuoted | doubleQuoted | literal | folded
  deriving DecidableEq, Repr

/-- A token. -/
inductive Token
  | versionDirective (major minor : Nat)
  | tagDirective (handle : String) (beginning : Address)
  | documentStart
  | documentEnd
  | streamEnd
  | blockSequenceStart
  | blockMappingStart
  | blockEnd
  | flowSequenceStart
  | flowSequenceEnd
  | flowMappingStart
  | flowMappingEnd
  | blockEntry
  | flowEntry
  | key
  | value
  | alias (name : String)
  | anchor (name : String)
  | tag (handle : String) (ending : Address)
  | scalar (text : String) (style : Style)
  deriving DecidableEq, Repr

end BrowserFlow.Yaml
