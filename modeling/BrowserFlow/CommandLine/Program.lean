import BrowserFlow.CommandLine.Help
import BrowserFlow.CommandLine.Watcher
import BrowserFlow.FlowFiles
import BrowserFlow.Session.Run

/-!
# The program

What the program does with its arguments. Flow files are run one after another, every one in a
session and on a browser of its own, and the first one that ends in an error ends the program. The
program's exit code tells whether every step of every flow has passed.

The events of all sessions are printed by one listener, which runs beside the program. How far it
gets meanwhile is not up to the program, which waits for it only at the end, and not at all if that
is an error.
-/

namespace BrowserFlow.CommandLine

/-- What the environment of the program says. -/
structure Environment where
  /-- About browsers. -/
  browser : BrowserEnvironment := {}
  /-- Whether there are to be colours where there would be none. -/
  forceColour : Option String := none
  /-- Whether there are to be no colours. -/
  noColour : Option String := none

namespace Environment

/-- Whether colours are asked for. -/
def asksForColour (environment : Environment) : Bool :=
  environment.forceColour.any (· != "0")

/-- Whether help and refusals are coloured when they are not written to a terminal. What counts is
only whether the settings are there and not empty. -/
def coloursHelp (environment : Environment) : Bool :=
  environment.forceColour.any (!·.isEmpty) && !environment.noColour.any (!·.isEmpty)

end Environment

/-- What surrounds the program, with a library that drives pages. -/
structure Surroundings (P : Type) where
  /-- The environment. -/
  environment : Environment
  /-- The library. -/
  page : Page P
  /-- What the clock shows when the program has run for so many milliseconds. -/
  clock : Nat → Timestamp
  /-- The names of the sessions. -/
  names : Nat → String
  /-- How many steps the listener takes, every time that it may go on. -/
  pace : Nat → Nat

/-- What has happened to a flow file: its session, from the first call on. -/
structure Drive where
  /-- The file. -/
  file : Path
  /-- What happened in the session. -/
  trace : List Occurrence

/-- Something that is printed. -/
inductive Print
  /-- The program itself prints it. -/
  | told (text : String)
  /-- The listener prints it. -/
  | heard (line : String)
  deriving DecidableEq, Repr

/-- What is printed. -/
def Print.text : Print → String
  | .told text => text
  | .heard line => line

/-- The state of the program. -/
structure Progress (P : Type) where
  /-- The state of the library. -/
  page : P
  /-- The files. -/
  files : Files
  /-- How many milliseconds the program has run. -/
  elapsed : Nat := 0
  /-- The sessions so far. -/
  drives : List Drive := []
  /-- The listener. -/
  listener : Listener := {}
  /-- How many times the listener has gone on so far. -/
  turns : Nat := 0
  /-- What has been printed so far. -/
  printed : List Print := []

/-- What the program leaves behind. -/
structure Output where
  /-- The exit code. -/
  code : UInt32
  /-- What was printed. -/
  stdout : String := ""
  /-- What was printed about errors. -/
  stderr : String := ""
  deriving DecidableEq, Repr

namespace Progress

variable {P : Type} (surroundings : Surroundings P)

/-- The progress when the listener has gone on. -/
def listen (progress : Progress P) : Progress P :=
  let (lines, listener) := progress.listener.run surroundings.environment.asksForColour
    (surroundings.pace progress.turns)
  { progress with
    listener
    turns := progress.turns + 1
    printed := progress.printed ++ lines.map .heard }

/-- The progress when an event has been sent to the listener, and the listener has gone on. -/
def send (progress : Progress P) (event : Event) : Progress P :=
  listen surroundings { progress with listener := progress.listener.send event }

/-- What has been printed when also the listener has come to its end. -/
def finished (progress : Progress P) : List Print :=
  progress.printed ++
    (progress.listener.remaining surroundings.environment.asksForColour).map .heard

end Progress

/-- A part of the program. -/
abbrev ProgramOp (P : Type) := EStateM ErrorChain (Progress P)

namespace Program

variable {P : Type}

/-- Prints a text. -/
def print (text : String) : ProgramOp P Unit :=
  modify fun progress => { progress with printed := progress.printed ++ [.told text] }

/-- Lets the listener go on. -/
def listen (surroundings : Surroundings P) : ProgramOp P Unit :=
  modify (·.listen surroundings)

/-- What is or is not the case. -/
def decided {α : Type} (result : Except ErrorChain α) : ProgramOp P α :=
  match result with
  | .ok a => pure a
  | .error e => throw e

/-- Starts a browser. -/
def start {α : Type} (op : EStateM ErrorChain (Web.Starting P) α) : ProgramOp P α := fun progress =>
  let after (start : Web.Starting P) : Progress P :=
    { progress with page := start.page, elapsed := progress.elapsed + start.elapsed }
  match op { page := progress.page } with
  | .ok a start => .ok a (after start)
  | .error e start => .error e (after start)

/-- Holds a session for a flow file, and sends the events to the listener. -/
def hold {α : Type} (surroundings : Surroundings P) (web : WebConfig) (file : Path)
    (op : Rig (WebState P) → SessionOp (WebState P) RunError α) : ProgramOp P α := fun progress =>
  let rig : Rig (WebState P) :=
    { browser := Web.browser surroundings.page web
      clock := fun ms => surroundings.clock (progress.elapsed + ms) }
  let first := Stage.first rig (surroundings.names progress.drives.length)
    { page := progress.page, files := progress.files }
  let after (stage : Stage (WebState P)) : Progress P :=
    { stage.events.foldl (Progress.send surroundings) progress with
      page := stage.world.page
      files := stage.world.files
      elapsed := progress.elapsed + stage.elapsed
      drives := progress.drives ++ [⟨file, stage.trace⟩] }
  match op rig first with
  | .ok a stage => .ok a (after stage)
  | .error e stage => .error e.chain (after stage)

/-- The configuration of the runs. -/
def configFor (options : RunOptions) (files : Files) : Except ErrorChain RunConfig := do
  let config ← match options.config with
    | some path => RunConfig.load files path
    | none => pure {}
  return { config with
    reportFormat := options.format.getD config.reportFormat
    reportDir := options.reportDir.getD config.reportDir
    stepDelayMs := options.delay <|> config.stepDelayMs
    stopOnFailure := config.stopOnFailure || options.stopOnFailure
    keepOpen := config.keepOpen || options.keepOpen }

/-- How the browsers are started. -/
def webConfigFor (options : RunOptions) (config : RunConfig) (environment : BrowserEnvironment) :
    WebConfig :=
  let standard := WebConfig.standard environment
  { standard with
    engine := options.engine
    headless := standard.headless || options.headless
    screenshotDir := Path.join config.reportDir "screenshots" }

/-- The flow files, of which there must be one. -/
def filesFor (options : RunOptions) (files : Files) : Except ErrorChain (List Path) := do
  let paths ← FlowFiles.find files options.path
  if paths.isEmpty then throw (.ofText ("No flow files found in " ++ options.path))
  return paths

/-- Runs one flow file, and tells how many steps failed. -/
def runFile (surroundings : Surroundings P) (options : RunOptions) (config : RunConfig)
    (file : Path) : ProgramOp P UInt32 := do
  let environment := surroundings.environment
  print ("\n" ++ Style.blue.apply environment.asksForColour "📄" ++ " " ++ file ++ "\n")
  listen surroundings
  let text ← decided (FlowFiles.read (← get).files file)
  let web := webConfigFor options config environment.browser
  start (Web.launch surroundings.page web environment.browser)
  let results ← hold surroundings web file fun rig => do
    match options.url with
    | some url => SessionOp.start rig url
    | none => pure ()
    Flow.run rig config (Report.Store.directory config.reportDir) text
  return results.failureCount

/-- Runs some flow files, and tells how many steps failed, in 32 bits. -/
def runFiles (surroundings : Surroundings P) (options : RunOptions) (config : RunConfig) :
    List Path → ProgramOp P UInt32
  | [] => return 0
  | file :: files => do
    let failures ← runFile surroundings options config file
    return failures + (← runFiles surroundings options config files)

/-- Tells what is going to be run. -/
def announce (coloured : Bool) (options : RunOptions) (config : RunConfig) (files : List Path) :
    ProgramOp P Unit := do
  print (Style.boldGreen.apply coloured "▶" ++ " Running " ++ Text.decimal files.length ++
    " flow file(s) from: " ++ options.path ++ "\n")
  match options.url with
  | some url => print ("  URL: " ++ Style.cyan.apply coloured url ++ "\n")
  | none => pure ()
  print ("  Reports: " ++ Style.cyan.apply coloured config.reportDir ++ "\n")

/-- Runs flows, and tells how many steps failed. -/
def runFlows (surroundings : Surroundings P) (options : RunOptions) : ProgramOp P UInt32 := do
  let config ← decided (configFor options (← get).files)
  let files ← decided (filesFor options (← get).files)
  announce surroundings.environment.asksForColour options config files
  runFiles surroundings options config files

/-! ## Showing flows -/

/-- The line that shows a step. -/
def stepLine (coloured : Bool) (step : Step) : String :=
  match Action.ofSentence step.sentence with
  | .ok action =>
    "  " ++ Style.green.apply coloured "✓" ++ " " ++ step.sentence ++ " " ++
      Style.faint.apply coloured ("[" ++ action.display ++ "]") ++ "\n"
  | .error e =>
    "  " ++ Style.red.apply coloured "✗" ++ " " ++ step.sentence ++ " " ++
      Style.red.apply coloured e.message ++ "\n"

/-- The lines that show a group. -/
def groupLines (coloured : Bool) (group : Group) : String :=
  Style.boldBlue.apply coloured "#" ++ " " ++ Style.boldWhite.apply coloured group.name ++ "\n" ++
    String.join (group.steps.map (stepLine coloured))

/-- The text that shows a flow. -/
def preview (coloured : Bool) (text : String) : String :=
  String.join ((Flow.read text).map (groupLines coloured))

/-- Shows a flow file. -/
def showFlow (coloured : Bool) (path : Path) : ProgramOp P Unit := do
  let text ← decided (FlowFiles.read (← get).files path)
  print (preview coloured text)

/-! ## The whole -/

/-- Does what is asked, and tells the exit code. -/
def fulfil (surroundings : Surroundings P) : Request → ProgramOp P UInt32
  | .run options => do
    let failures ← runFlows surroundings options
    return if failures = 0 then 0 else 1
  | .parse path => do
    showFlow surroundings.environment.asksForColour path
    return 0
  | .help topic => do
    print ((Help.text topic).render surroundings.environment.coloursHelp)
    return 0
  | .version => do
    print Help.versionLine
    return 0

/-- What is said when there is no request. -/
def refuse (coloured : Bool) : Refusal → Output
  | .nothingAsked => { code := 2, stderr := (Help.text none).render coloured }
  | .wrong error => { code := 2, stderr := (Help.refusal error).render coloured }

/-- Runs the program. -/
def run (surroundings : Surroundings P) (arguments : List String) (progress : Progress P) :
    Output × Progress P :=
  match Request.read arguments with
  | .error refusal => (refuse surroundings.environment.coloursHelp refusal, progress)
  | .ok request =>
    match fulfil surroundings request progress with
    | .ok code progress =>
      ({ code, stdout := String.join ((progress.finished surroundings).map Print.text) }, progress)
    | .error e progress =>
      ({ code := 1, stdout := String.join (progress.printed.map Print.text)
         stderr := "Error: " ++ e.report ++ "\n" }, progress)

end Program

end BrowserFlow.CommandLine
