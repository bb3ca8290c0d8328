import BrowserFlow.Browser
import BrowserFlow.Files
import BrowserFlow.Page
import BrowserFlow.Text.Lowercase

/-!
# Browsers on a page

A browser that does what it is asked by driving a page. An element is looked for by one locator
after the other, and what is asked is done with the first that is found. When the library says of
a failure that something is closed, the browser is gone. The console messages among what happens on
the page are collected from the moment on in which that is asked for, and are handed over with the
next reply, whatever the call was about.
-/

namespace BrowserFlow

namespace Engine

/-- The name of an engine. -/
def name : Engine → String
  | .chromium => "chromium"
  | .firefox => "firefox"
  | .webkit => "webkit"

/-- The engine as messages show it. -/
def display : Engine → String
  | .chromium => "Chromium"
  | .firefox => "Firefox"
  | .webkit => "Webkit"

/-- The engine of a name, in whatever case. -/
def ofName (name : String) : Except String Engine :=
  let small := Text.toLower name
  if small == "chromium" || small == "chrome" then .ok .chromium
  else if small == "firefox" then .ok .firefox
  else if small == "webkit" || small == "safari" then .ok .webkit
  else .error ("Unknown browser: " ++ name)

end Engine

/-- What the environment of the program says about browsers. -/
structure BrowserEnvironment where
  /-- Whether browsers have no window, as a text. -/
  headless : Option String := none
  /-- The program to start as Chromium. -/
  executable : Option String := none

/-- How a browser is started. -/
structure WebConfig where
  /-- The engine. -/
  engine : Engine := .chromium
  /-- Whether the browser has no window. -/
  headless : Bool := false
  /-- The width of the page. -/
  width : UInt32 := 1280
  /-- The height of the page. -/
  height : UInt32 := 720
  /-- The directory that images are written into. -/
  screenshotDir : Path := "screenshots"
  deriving DecidableEq, Repr

/-- How a browser is started in an environment, if nothing else is said. -/
def WebConfig.standard (environment : BrowserEnvironment) : WebConfig :=
  { headless := environment.headless == some "true" || environment.headless == some "1" }

/-- The state of a browser on a page. -/
structure WebState (P : Type) where
  /-- The state of the page. -/
  page : P
  /-- The files. -/
  files : Files
  /-- How many images the browser has begun to take. -/
  shots : Nat := 0
  /-- Whether the console messages are collected. -/
  listening : Bool := false
  /-- The messages that have been collected and not been handed over. -/
  news : List Message := []
  /-- How many milliseconds have passed since the last reply. -/
  elapsed : Nat := 0

instance {P : Type} : HasFiles (WebState P) where
  files state := state.files
  withFiles state files := { state with files := files }

/-- The failure that the library words so. -/
def BrowserError.ofPage (message : String) : BrowserError :=
  if Text.contains (Text.toLower message) "closed" then .sessionLost message else .failed message

/-- The console messages among what happens on a page, up to when it is closed. What is unreadable
of a message is left empty. -/
def PageEvent.messages (events : List PageEvent) : List Message :=
  (events.takeWhile (· != .close)).filterMap fun event =>
    match event with
    | .console kind text => some ⟨kind.getD "", text.getD ""⟩
    | _ => none

namespace WebState

variable {P : Type}

/-- The state after something has happened on the page. When the page is closed, no more messages
are collected. -/
def observe (events : List PageEvent) (state : WebState P) : WebState P :=
  if state.listening then
    { state with
      listening := !events.contains .close
      news := state.news ++ PageEvent.messages events }
  else state

/-- The state after a call to the library. -/
def after (state : WebState P) (c : PageCall) (reply : PageReply c.Answer) (page : P) :
    WebState P :=
  let subscribed := c == .subscribeEvents && reply.outcome.isOk
  { state with
    page
    listening := state.listening || subscribed
    elapsed := state.elapsed + reply.elapsed }.observe reply.events

/-- The state after some milliseconds without a call to the library. -/
def later (state : WebState P) (ms : Nat) (events : List PageEvent) (page : P) : WebState P :=
  { state with page, elapsed := state.elapsed + ms }.observe events

/-- The state after a reply, with which everything is handed over. -/
def replied (state : WebState P) : WebState P :=
  { state with news := [], elapsed := 0 }

end WebState

/-- Doing something with a page. -/
abbrev PageOp (P : Type) := EStateM BrowserError (WebState P)

namespace Web

variable {P : Type}

/-- Asks the library. -/
def ask (page : Page P) (c : PageCall) : PageOp P c.Answer := fun state =>
  let (reply, p) := page.call c state.page
  match reply.outcome with
  | .ok a => .ok a (state.after c reply p)
  | .error message => .error (.ofPage message) (state.after c reply p)

/-- Lets some milliseconds pass. -/
def linger (page : Page P) (ms : Nat) : PageOp P Unit := fun state =>
  let (events, p) := page.idle ms state.page
  .ok () (state.later ms events p)

/-- The selector of the first locator that finds an element. -/
def resolve (page : Page P) : List Locator → PageOp P (Option String)
  | [] => return none
  | locator :: rest => do
    if ← ask page (.query locator.selector) then return some locator.selector
    else resolve page rest

/-- The selector that finds the target, which must be there. -/
def find (page : Page P) (target : Target) : PageOp P String := do
  match ← resolve page target.locators with
  | some selector => return selector
  | none => throw (.notResolved target.label)

/-- The script that goes back to the page before. -/
def goBackScript : String := "() => window.history.back()"

/-- The script that scrolls to the bottom. -/
def scrollScript : String := "() => window.scrollTo(0, document.body.scrollHeight)"

/-- The script that tells the text of an element. -/
def textScript : String := "el => el.value || el.innerText || el.textContent || ''"

/-- Chooses an option by its value, or else by the text that is shown. -/
def selectOption (page : Page P) (target : Target) (value : String) : PageOp P Unit := do
  let selector ← find page target
  tryCatch (ask page (.selectOption selector .value value)) fun _ =>
    ask page (.selectOption selector .label value)

/-- Presses a key and lets it go. -/
def pressKey (page : Page P) (key : String) : PageOp P Unit := do
  ask page (.keyDown key)
  ask page (.keyUp key)

/-- Whether the first element that is found can be seen. -/
def isVisible (page : Page P) (target : Target) : PageOp P Bool := do
  match ← resolve page target.locators with
  | some selector => ask page (.isVisible selector)
  | none => return false

/-- Makes the directory that images are written into. -/
def makeScreenshotDir (config : WebConfig) : PageOp P Unit := fun state =>
  match FileOp.within (Files.makeDirectories config.screenshotDir) state with
  | .ok _ state => .ok () state
  | .error e state =>
    let summary := "Failed to create screenshot dir: " ++ config.screenshotDir
    .error (.ofChain ((ErrorChain.ofText e.message).context summary)) state

/-- Takes an image of the whole page. Every image has a number of its own, and one that fails uses
its number up. -/
def screenshot (page : Page P) (config : WebConfig) : PageOp P String := do
  makeScreenshotDir config
  let number := (← get).shots
  modify fun state => { state with shots := number + 1 }
  let path := Path.join config.screenshotDir ("screenshot_" ++ Text.decimal number ++ ".png")
  ask page (.screenshot path true)
  return path

/-- What a browser does when it is asked something. -/
def perform (page : Page P) (config : WebConfig) : (c : Call) → PageOp P c.Answer
  | .subscribeConsole => ask page .subscribeEvents
  | .navigate url => ask page (.goto url)
  | .goBack => ask page (.evaluate goBackScript)
  | .reload => ask page .reload
  | .wait ms => linger page (pauseLength ms)
  | .click target => do ask page (.click (← find page target))
  | .fill target value => do ask page (.fill (← find page target) value)
  | .selectOption target value => selectOption page target value
  | .check target => do ask page (.check (← find page target))
  | .uncheck target => do ask page (.uncheck (← find page target))
  | .pressKey key => pressKey page key
  | .scrollToBottom => ask page (.evaluate scrollScript)
  | .scrollIntoView target => do ask page (.scrollIntoView (← find page target))
  | .title => ask page .title
  | .url => ask page .url
  | .isVisible target => isVisible page target
  | .isPresent target => return (← resolve page target.locators).isSome
  | .textContent target => do ask page (.evaluateOn (← find page target) textScript)
  | .screenshot => screenshot page config
  | .close => ask page .closeBrowser

/-- The reply to a call that is done with a page. -/
def reply {α : Type} (op : PageOp P α) (state : WebState P) : Reply α × WebState P :=
  match op state with
  | .ok a state => (⟨.ok a, state.news, state.elapsed⟩, state.replied)
  | .error e state => (⟨.error e, state.news, state.elapsed⟩, state.replied)

/-- The browser on a page. -/
def browser (page : Page P) (config : WebConfig) : Browser (WebState P) where
  name := config.engine.name
  call c state := reply (perform page config c) state
  idle ms state :=
    let (reply, state) := reply (linger page ms) state
    (reply.messages, state)

/-- The state of a page on which a browser is being started. -/
structure Starting (P : Type) where
  /-- The state of the page. -/
  page : P
  /-- How many milliseconds that has taken so far. -/
  elapsed : Nat := 0

/-- Asks the library while a browser is started, and says what could not be done if it fails. -/
def prepare (page : Page P) (c : PageCall) (summary : Option String) :
    EStateM ErrorChain (Starting P) c.Answer := fun start =>
  let (reply, p) := page.call c start.page
  let start := { page := p, elapsed := start.elapsed + reply.elapsed }
  match reply.outcome with
  | .ok a => .ok a start
  | .error message =>
    let chain := ErrorChain.ofText message
    .error (match summary with
      | some summary => chain.context summary
      | none => chain) start

/-- Starts a browser and opens an empty page. Only Chromium can be started from a given program. -/
def launch (page : Page P) (config : WebConfig) (environment : BrowserEnvironment) :
    EStateM ErrorChain (Starting P) Unit := do
  prepare page .initialize_ (some "Failed to initialize Playwright")
  let executable := if config.engine == .chromium then environment.executable else none
  prepare page (.launch config.engine config.headless executable)
    (some ("Failed to launch " ++ config.engine.display))
  prepare page .newContext none
  prepare page .newPage none
  prepare page (.setViewportSize config.width.toNat config.height.toNat) none

end Web

end BrowserFlow
