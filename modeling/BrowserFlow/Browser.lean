import BrowserFlow.Console
import BrowserFlow.ErrorChain
import BrowserFlow.Target
import BrowserFlow.Text.Search

/-!
# Browsers

What a session asks of a browser, and how a browser answers. A call says what is to be done, and
its type says what kind of answer there is. The browser may have any state of its own, so that an
answer may depend on everything that went before. While a call is under way time passes, and
messages may arrive on the page's console; they may also arrive while the browser is not asked for
anything.
-/

namespace BrowserFlow

/-- Why a browser could not do what it was asked. -/
inductive BrowserError
  /-- None of the ways to find the element with this label led to one. -/
  | notResolved (label : String)
  /-- The browser is gone. -/
  | sessionLost (message : String)
  /-- Something else. -/
  | failed (message : String)
  deriving DecidableEq, Repr

namespace BrowserError

/-- The failure in words. -/
def message : BrowserError → String
  | .notResolved label => "Element \"" ++ label ++ "\" not found with any selector strategy"
  | .sessionLost message => "Browser session lost: " ++ message
  | .failed message => message

/-- Whether nothing more can be done with the browser. -/
def isFatal : BrowserError → Bool
  | .sessionLost _ => true
  | _ => false

/-- A failure outside the browser. -/
def ofChain (chain : ErrorChain) : BrowserError :=
  .failed chain.line

end BrowserError

/-- What a browser can be asked. -/
inductive Call
  /-- Collect the messages on the page's console from now on. -/
  | subscribeConsole
  /-- Open an address. -/
  | navigate (url : String)
  /-- Go back to the page before. -/
  | goBack
  /-- Load the page again. -/
  | reload
  /-- Pause for some milliseconds. -/
  | wait (ms : UInt64)
  /-- Click an element. -/
  | click (target : Target)
  /-- Type a value into a field. -/
  | fill (target : Target) (value : String)
  /-- Choose an option of a field. -/
  | selectOption (target : Target) (value : String)
  /-- Tick a box. -/
  | check (target : Target)
  /-- Untick a box. -/
  | uncheck (target : Target)
  /-- Press a key. -/
  | pressKey (key : String)
  /-- Scroll to the bottom of the page. -/
  | scrollToBottom
  /-- Scroll to an element. -/
  | scrollIntoView (target : Target)
  /-- Tell the page's title. -/
  | title
  /-- Tell the page's address. -/
  | url
  /-- Tell whether an element can be seen. -/
  | isVisible (target : Target)
  /-- Tell whether an element is there. -/
  | isPresent (target : Target)
  /-- Tell the text of an element. -/
  | textContent (target : Target)
  /-- Take an image of the page, and tell where it is. -/
  | screenshot
  /-- Go away. -/
  | close
  deriving DecidableEq, Repr

namespace Call

/-- The kind of answer to a call. -/
abbrev Answer : Call → Type
  | .title | .url | .textContent _ | .screenshot => String
  | .isVisible _ | .isPresent _ => Bool
  | _ => Unit

/-- The element that a call is about. -/
def target? : Call → Option Target
  | .click target | .fill target _ | .selectOption target _ | .check target | .uncheck target
  | .scrollIntoView target | .isVisible target | .isPresent target | .textContent target =>
    some target
  | _ => none

end Call

/-- The longest time that a pause takes, in milliseconds. Pauses are made with the timer of the
asynchronous runtime, which takes every deadline behind its far future for that far future: thirty
years of 365 days from the time at which the pause begins. -/
def longestPause : Nat := 946080000000

/-- How many milliseconds pass in a pause of so many, by the runtime's timer. -/
def pauseLength (ms : UInt64) : Nat :=
  min ms.toNat longestPause

/-- How a call ended. -/
structure Reply (α : Type) where
  /-- The answer, or why there is none. -/
  outcome : Except BrowserError α
  /-- The messages that arrived on the console meanwhile. -/
  messages : List Message := []
  /-- How many milliseconds passed meanwhile. -/
  elapsed : Nat := 0

/-- A browser with a state of type `W`. -/
structure Browser (W : Type) where
  /-- The browser's name. -/
  name : String
  /-- How a call is answered in a state, and the state after it. -/
  call : (c : Call) → W → Reply c.Answer × W
  /-- The messages that arrive on the console while so many milliseconds pass without a call, and
  the state after that. -/
  idle : Nat → W → List Message × W

end BrowserFlow
