import BrowserFlow.Text.Blank
import BrowserFlow.Text.Lowercase
import BrowserFlow.Text.Quoted

/-!
# Targets

A sentence names an element by a label that a person can see. A target is that label together
with the ways of finding an element for it, in the order in which they are to be tried: by its
exact text, its placeholder, its accessible name, its form name, and its identifier, which is the
label's slug. For a form field, the controls placed right after a `<label>` with that text follow.
-/

namespace BrowserFlow

open Text

/-- One way to find an element. -/
inductive Locator
  /-- The element shows exactly this text. -/
  | text (label : String)
  /-- The element has this placeholder. -/
  | placeholder (label : String)
  /-- The element has this accessible name. -/
  | ariaLabel (label : String)
  /-- The element has this form name. -/
  | name (label : String)
  /-- The element has this identifier. -/
  | id (slug : String)
  /-- The element is a control with this tag, right after a `<label>` with this text. -/
  | labelledControl (label control : String)
  deriving DecidableEq, Repr

namespace Locator

/-- The locator as messages show it. -/
def display : Locator → String
  | .text t => "text=" ++ quoted t
  | .placeholder t => "[placeholder=" ++ quoted t ++ "]"
  | .ariaLabel t => "[aria-label=" ++ quoted t ++ "]"
  | .name t => "[name=" ++ quoted t ++ "]"
  | .id slug => "#" ++ slug
  | .labelledControl label control => "label:has-text(" ++ quoted label ++ ") + " ++ control

/-- How a character is written between the quotes of a selector. -/
def escapedChar (c : Char) : List Char :=
  if c == '\\' then ['\\', '\\'] else if c == '"' then ['\\', '"'] else [c]

/-- A text as it stands between the quotes of a selector. -/
def escaped (s : String) : String :=
  mapChars escapedChar s

/-- The selector that asks a page for the locator's element. -/
def selector : Locator → String
  | .text t => "text=\"" ++ escaped t ++ "\""
  | .placeholder t => "[placeholder=\"" ++ escaped t ++ "\"]"
  | .ariaLabel t => "[aria-label=\"" ++ escaped t ++ "\"]"
  | .name t => "[name=\"" ++ escaped t ++ "\"]"
  | .id slug => "[id=\"" ++ escaped slug ++ "\"]"
  | .labelledControl label control => "label:has-text(\"" ++ escaped label ++ "\") + " ++ control

end Locator

/-- Words joined by hyphens. -/
def hyphenated : List (List Char) → List Char
  | [] => []
  | [w] => w
  | w :: ws => w ++ '-' :: hyphenated ws

/-- The slug of a label: its words in lower case, joined by hyphens. -/
def slugify (label : String) : String :=
  String.ofList (lower (hyphenated (words label.toList)))

/-- A label and the ways to find its element, the first one to be tried first. -/
structure Target where
  /-- The label, as it is shown. -/
  label : String
  /-- The ways to find the element. -/
  locators : List Locator
  deriving DecidableEq, Repr

namespace Target

/-- The target that a label names. Blanks around the label do not count. -/
def ofLabel (label : String) : Target :=
  let label := String.ofList (trim label.toList)
  ⟨label, [.text label, .placeholder label, .ariaLabel label, .name label, .id (slugify label)]⟩

/-- The tags of the controls that a `<label>` may stand before. -/
def controls : List String := ["input", "select", "textarea"]

/-- The form field that a label names. -/
def ofFieldLabel (label : String) : Target :=
  let target := ofLabel label
  { target with
    locators := target.locators ++ controls.map (.labelledControl target.label) }

/-- The target as messages show it. -/
def display (target : Target) : String :=
  "\"" ++ target.label ++ "\""

end Target

end BrowserFlow
