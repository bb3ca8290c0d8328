import BrowserFlow.Page
import BrowserFlow.Script
import BrowserFlow.Text.Digit

/-!
# A scripted page

A page that consists of a list of elements, each with the one selector that finds it. It notes the
calls that it gets, and fails by rules. All that happens on the page happens as soon as that is
collected. Whenever the library gets ready, the script begins anew.
-/

namespace BrowserFlow

/-- An element of a scripted page. -/
structure PageElement where
  /-- The selector that finds it. -/
  selector : String
  /-- Whether it can be seen. -/
  visible : Bool := true
  /-- Its text. -/
  text : String := ""
  /-- The values of its options, if they are known. -/
  values : Option (List String) := none
  /-- The texts of its options, if they are known. -/
  labels : Option (List String) := none
  deriving Repr

/-- What a scripted page is like in the beginning. -/
structure PageScript where
  /-- The page's title. -/
  title : String := ""
  /-- The page's address. -/
  url : String := "about:blank"
  /-- The elements. -/
  elements : List PageElement := []
  /-- What happens on the page. -/
  events : List PageEvent := []
  /-- The calls that fail. -/
  rules : List (FailureRule String) := []

/-- The state of a scripted page. -/
structure ScriptedPage where
  /-- What the page is like in the beginning. -/
  script : PageScript
  /-- What the page is like now. -/
  now : PageScript := script
  /-- The calls so far. -/
  calls : List PageCall := []

namespace ScriptedPage

/-- The name of an engine. -/
def engineName : Engine → String
  | .chromium => "chromium"
  | .firefox => "firefox"
  | .webkit => "webkit"

/-- The name of a call in rules. -/
def callName : PageCall → String
  | .initialize_ => "initialize"
  | .launch _ _ _ => "launch"
  | .newContext => "new_context"
  | .newPage => "new_page"
  | .setViewportSize _ _ => "set_viewport_size"
  | .subscribeEvents => "subscribe_event"
  | .goto _ => "goto"
  | .reload => "reload"
  | .evaluate _ => "evaluate"
  | .title => "title"
  | .url => "url"
  | .keyDown _ => "keyboard.down"
  | .keyUp _ => "keyboard.up"
  | .closeBrowser => "browser.close"
  | .query _ => "query_selector"
  | .click _ => "click"
  | .check _ => "check"
  | .uncheck _ => "uncheck"
  | .fill _ _ => "fill"
  | .isVisible _ => "handle.is_visible"
  | .scrollIntoView _ => "handle.scroll_into_view_if_needed"
  | .selectOption _ _ _ => "select_option"
  | .evaluateOn _ _ => "evaluate_on_selector"
  | .screenshot _ _ => "screenshot"

/-- The first argument of a call, if it is a text. -/
def firstArgument? : PageCall → Option String
  | .launch engine _ _ => some (engineName engine)
  | .goto s | .evaluate s | .keyDown s | .keyUp s | .query s | .click s | .check s | .uncheck s
  | .fill s _ | .isVisible s | .scrollIntoView s | .selectOption s _ _ | .evaluateOn s _
  | .screenshot s _ => some s
  | _ => none

/-- The element that a selector finds. -/
def element? (page : PageScript) (selector : String) : Option PageElement :=
  page.elements.find? (·.selector == selector)

/-- Chooses an option, among those that are known. -/
def choose (options : Option (List String)) (kind value : String) : Except String Unit :=
  match options with
  | some known =>
    if known.contains value then .ok () else .error ("no option with this " ++ kind)
  | none => .ok ()

/-- What happens on the page during a call. -/
def eventsOf (page : PageScript) : PageCall → List PageEvent
  | .subscribeEvents => page.events
  | _ => []

/-- The answer to a call that does not fail by a rule. -/
def answer (page : PageScript) : (c : PageCall) → Except String c.Answer × PageScript
  | .goto url => (.ok (), { page with url := url })
  | .title => (.ok page.title, page)
  | .url => (.ok page.url, page)
  | .query selector => (.ok (element? page selector).isSome, page)
  | .isVisible selector => (.ok ((element? page selector).any (·.visible)), page)
  | .selectOption selector .value value =>
    (choose ((element? page selector).bind (·.values)) "value" value, page)
  | .selectOption selector .label value =>
    (choose ((element? page selector).bind (·.labels)) "label" value, page)
  | .evaluateOn selector _ => (.ok (((element? page selector).map (·.text)).getD ""), page)
  | .initialize_ | .launch _ _ _ | .newContext | .newPage | .setViewportSize _ _
  | .subscribeEvents | .reload | .evaluate _ | .keyDown _ | .keyUp _ | .closeBrowser | .click _
  | .check _ | .uncheck _ | .fill _ _ | .scrollIntoView _ | .screenshot _ _ => (.ok (), page)

/-- How a scripted page answers. -/
def driver : Page ScriptedPage where
  call c page :=
    let now := if c = .initialize_ then page.script else page.now
    let (error, rules) := applyRules (callName c) (firstArgument? c) now.rules
    let now := { now with rules }
    let page := { page with calls := page.calls ++ [c] }
    match error with
    | some error => (⟨.error error, [], 0⟩, { page with now })
    | none =>
      let events := eventsOf now c
      let (outcome, now) := answer now c
      (⟨outcome, events, 0⟩, { page with now })
  idle _ page := ([], page)

end ScriptedPage

end BrowserFlow
