import BrowserFlow.Console

/-!
# Pages

What a browser on a page asks of the library that drives the page, and how that answers. An
element is known by the selector that led to it. A failure is a text. Things happen on a page while
the library is asked something, and while it is not.
-/

namespace BrowserFlow

/-- The browser engines. -/
inductive Engine
  | chromium | firefox | webkit
  deriving DecidableEq, Repr

/-- Something that happens on a page. -/
inductive PageEvent
  /-- A console message; its kind or its text may be unreadable. -/
  | console (kind text : Option String)
  /-- The page has been loaded. -/
  | load
  /-- The page has been closed. -/
  | close
  /-- Some events have been lost. -/
  | lagged
  deriving DecidableEq, Repr

/-- By what an option is chosen. -/
inductive OptionKey
  /-- By its value. -/
  | value
  /-- By the text that is shown. -/
  | label
  deriving DecidableEq, Repr

/-- What the library can be asked. -/
inductive PageCall
  /-- Get ready. -/
  | initialize_
  /-- Start a browser, with or without a window, perhaps from a given program. -/
  | launch (engine : Engine) (headless : Bool) (executable : Option String)
  /-- Make a browser context. -/
  | newContext
  /-- Open a page. -/
  | newPage
  /-- Set the size of the page. -/
  | setViewportSize (width height : Nat)
  /-- Collect what happens on the page. -/
  | subscribeEvents
  /-- Open an address. -/
  | goto (url : String)
  /-- Load the page again. -/
  | reload
  /-- Run a script. -/
  | evaluate (script : String)
  /-- Tell the page's title. -/
  | title
  /-- Tell the page's address. -/
  | url
  /-- Press a key down. -/
  | keyDown (key : String)
  /-- Let a key go. -/
  | keyUp (key : String)
  /-- Close the browser. -/
  | closeBrowser
  /-- Tell whether there is an element with a selector. -/
  | query (selector : String)
  /-- Click an element. -/
  | click (selector : String)
  /-- Tick a box. -/
  | check (selector : String)
  /-- Untick a box. -/
  | uncheck (selector : String)
  /-- Type a value into a field. -/
  | fill (selector value : String)
  /-- Tell whether an element that was found can be seen. -/
  | isVisible (selector : String)
  /-- Scroll to an element that was found. -/
  | scrollIntoView (selector : String)
  /-- Choose an option of a field. -/
  | selectOption (selector : String) (key : OptionKey) (value : String)
  /-- Run a script on an element and tell its result. -/
  | evaluateOn (selector script : String)
  /-- Take an image into a file. -/
  | screenshot (path : String) (fullPage : Bool)
  deriving DecidableEq, Repr

/-- The kind of answer to a call. -/
abbrev PageCall.Answer : PageCall → Type
  | .title | .url | .evaluateOn _ _ => String
  | .query _ | .isVisible _ => Bool
  | _ => Unit

/-- How a call to the library ended. -/
structure PageReply (α : Type) where
  /-- The answer, or the words of the failure. -/
  outcome : Except String α
  /-- What happened on the page meanwhile. -/
  events : List PageEvent := []
  /-- How many milliseconds passed meanwhile. -/
  elapsed : Nat := 0

/-- A library that drives a page, with a state of type `P`. -/
structure Page (P : Type) where
  /-- How a call is answered in a state, and the state after it. -/
  call : (c : PageCall) → P → PageReply c.Answer × P
  /-- What happens on the page while so many milliseconds pass without a call, and the state after
  that. -/
  idle : Nat → P → List PageEvent × P

end BrowserFlow
