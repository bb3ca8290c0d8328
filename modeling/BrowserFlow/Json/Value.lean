import BrowserFlow.Text.Digit
import BrowserFlow.Text.Search

/-!
# JSON values and their text

A JSON value, and the two texts it is written as: `compact`, without any space, and `pretty`, with
every item of a list and every member of an object on a line of its own, two blanks deeper than
the value they belong to. Numbers are whole and not negative. Members keep their order.
-/

namespace BrowserFlow

open Text

/-- A JSON value. -/
inductive Json
  /-- The null value. -/
  | null
  /-- A truth value. -/
  | bool (value : Bool)
  /-- A whole number. -/
  | natural (value : Nat)
  /-- A text. -/
  | string (value : String)
  /-- A list. -/
  | array (items : List Json)
  /-- An object: its members, in order. -/
  | object (members : List (String × Json))
  deriving Inhabited

namespace Json

/-- How a character is written inside a JSON string. -/
def stringChar (c : Char) : List Char :=
  if c == '"' then ['\\', '"']
  else if c == '\\' then ['\\', '\\']
  else if c == '\n' then ['\\', 'n']
  else if c == '\r' then ['\\', 'r']
  else if c == '\t' then ['\\', 't']
  else if c.toNat == 8 then ['\\', 'b']
  else if c.toNat == 12 then ['\\', 'f']
  else if c.toNat < 32 then
    ['\\', 'u', '0', '0', hexDigit (c.toNat / 16), hexDigit (c.toNat % 16)]
  else [c]

/-- A JSON string. -/
def stringText (s : String) : List Char :=
  '"' :: s.toList.flatMap stringChar ++ ['"']

/-- A line feed and the margin of a depth. -/
def newline (depth : Nat) : List Char :=
  '\n' :: List.replicate (2 * depth) ' '

mutual

/-- A value at some depth, as it stands after its margin. -/
def prettyAt (depth : Nat) : Json → List Char
  | .null => "null".toList
  | .bool b => (if b then "true" else "false").toList
  | .natural n => Nat.toDigits 10 n
  | .string s => stringText s
  | .array [] => ['[', ']']
  | .array (item :: items) =>
    '[' :: newline (depth + 1) ++ prettyAt (depth + 1) item ++ prettyItems (depth + 1) items ++
      newline depth ++ [']']
  | .object [] => ['\x7b', '\x7d']
  | .object (member :: members) =>
    '\x7b' :: newline (depth + 1) ++ prettyMember (depth + 1) member ++
      prettyMembers (depth + 1) members ++ newline depth ++ ['\x7d']

/-- The items of a list after the first. -/
def prettyItems (depth : Nat) : List Json → List Char
  | [] => []
  | item :: items => ',' :: newline depth ++ prettyAt depth item ++ prettyItems depth items

/-- A member of an object. -/
def prettyMember (depth : Nat) : String × Json → List Char
  | (key, value) => stringText key ++ ": ".toList ++ prettyAt depth value

/-- The members of an object after the first. -/
def prettyMembers (depth : Nat) : List (String × Json) → List Char
  | [] => []
  | member :: members =>
    ',' :: newline depth ++ prettyMember depth member ++ prettyMembers depth members

end

mutual

/-- A value without any space. -/
def compactChars : Json → List Char
  | .null => "null".toList
  | .bool b => (if b then "true" else "false").toList
  | .natural n => Nat.toDigits 10 n
  | .string s => stringText s
  | .array [] => ['[', ']']
  | .array (item :: items) => '[' :: compactChars item ++ compactItems items ++ [']']
  | .object [] => ['\x7b', '\x7d']
  | .object (member :: members) =>
    '\x7b' :: compactMember member ++ compactMembers members ++ ['\x7d']

/-- The items of a list after the first. -/
def compactItems : List Json → List Char
  | [] => []
  | item :: items => ',' :: compactChars item ++ compactItems items

/-- A member of an object. -/
def compactMember : String × Json → List Char
  | (key, value) => stringText key ++ ':' :: compactChars value

/-- The members of an object after the first. -/
def compactMembers : List (String × Json) → List Char
  | [] => []
  | member :: members => ',' :: compactMember member ++ compactMembers members

end

/-- The text of a value, one item or member a line. -/
def pretty (value : Json) : String :=
  String.ofList (prettyAt 0 value)

/-- The text of a value, on one line. -/
def compact (value : Json) : String :=
  String.ofList (compactChars value)

/-- A list of texts. -/
def strings (texts : List String) : Json :=
  .array (texts.map .string)

end Json

end BrowserFlow
