import BrowserFlow.Target
import BrowserFlow.Text.Digit

/-!
# Actions

What a sentence asks for: something to be done with the page, or something to be asserted about
it. Every action belongs to one of fifteen verbs.
-/

namespace BrowserFlow

open Text

/-- How an expected text is compared with the actual one. -/
inductive Comparison
  /-- The texts are the same. -/
  | equals
  /-- The expected text occurs in the actual one. -/
  | contains
  deriving DecidableEq, Repr

namespace Comparison

/-- Whether the actual text is as expected. -/
def holds : (mode : Comparison) → (actual expected : String) → Bool
  | .equals, actual, expected => actual == expected
  | .contains, actual, expected => Text.contains actual expected

/-- The comparison as messages show it. -/
def display : Comparison → String
  | .equals => "equals"
  | .contains => "contains"

end Comparison

/-- What is asserted of an element. -/
inductive ElementCheck
  /-- It can be seen. -/
  | visible
  /-- It is there. -/
  | present
  /-- Its text contains the expected one. -/
  | containsText (expected : String)
  deriving DecidableEq, Repr

/-- What a sentence asserts. -/
inductive Assertion
  /-- About the page's title. -/
  | title (mode : Comparison) (expected : String)
  /-- About an element. -/
  | element (target : Target) (check : ElementCheck)
  /-- About the page's address. -/
  | url (mode : Comparison) (expected : String)
  /-- Some console message contains the expected text. -/
  | log (expected : String)
  deriving DecidableEq, Repr

namespace Assertion

/-- The assertion as messages show it. -/
def display : Assertion → String
  | .title mode expected => "title " ++ mode.display ++ " " ++ quoted expected
  | .element target .visible => target.display ++ " is visible"
  | .element target .present => target.display ++ " exists"
  | .element target (.containsText text) => target.display ++ " contains " ++ quoted text
  | .url mode expected => "url " ++ mode.display ++ " " ++ quoted expected
  | .log expected => "console log contains " ++ quoted expected

end Assertion

/-- The verbs that sentences begin with. -/
inductive Verb
  | navigate | goBack | reload | wait | click | fill | select | check | uncheck | keyPress
  | scroll | verify | screenshot | captureLogs | extract
  deriving DecidableEq, Repr

/-- What is to be done. -/
inductive Action
  /-- Open an address. -/
  | navigate (url : String)
  /-- Go back to the page before. -/
  | goBack
  /-- Load the page again. -/
  | reload
  /-- Pause for some milliseconds. -/
  | wait (ms : UInt64)
  /-- Click an element. -/
  | click (target : Target)
  /-- Type a value into a field. -/
  | fill (field : Target) (value : String)
  /-- Choose an option of a field. -/
  | select (field : Target) (value : String)
  /-- Tick a box. -/
  | check (target : Target)
  /-- Untick a box. -/
  | uncheck (target : Target)
  /-- Press a key. -/
  | keyPress (key : String)
  /-- Scroll to an element, or to the bottom of the page. -/
  | scroll (target : Option Target)
  /-- Assert something. -/
  | verify (assertion : Assertion)
  /-- Take an image of the page. -/
  | screenshot
  /-- Note how many console messages there are. -/
  | captureLogs
  /-- Keep the text of an element; without one, only say so. -/
  | extract (description : String) (target : Option Target)
  deriving DecidableEq, Repr

namespace Action

/-- The verb of an action. -/
def verb : Action → Verb
  | .navigate _ => .navigate
  | .goBack => .goBack
  | .reload => .reload
  | .wait _ => .wait
  | .click _ => .click
  | .fill _ _ => .fill
  | .select _ _ => .select
  | .check _ => .check
  | .uncheck _ => .uncheck
  | .keyPress _ => .keyPress
  | .scroll _ => .scroll
  | .verify _ => .verify
  | .screenshot => .screenshot
  | .captureLogs => .captureLogs
  | .extract _ _ => .extract

/-- The action as messages show it. -/
def display : Action → String
  | .navigate url => "navigate " ++ url
  | .goBack => "go back"
  | .reload => "reload"
  | .wait ms => "wait " ++ decimal ms.toNat ++ "ms"
  | .click target => "click " ++ target.display
  | .fill field value => "fill " ++ field.display ++ " with " ++ quoted value
  | .select field value => "select " ++ quoted value ++ " in " ++ field.display
  | .check target => "check " ++ target.display
  | .uncheck target => "uncheck " ++ target.display
  | .keyPress key => "press " ++ key
  | .scroll (some target) => "scroll to " ++ target.display
  | .scroll none => "scroll to bottom"
  | .verify assertion => "verify " ++ assertion.display
  | .screenshot => "screenshot"
  | .captureLogs => "capture logs"
  | .extract _ (some target) => "extract text of " ++ target.display
  | .extract description none => "extract " ++ quoted description

end Action

end BrowserFlow
