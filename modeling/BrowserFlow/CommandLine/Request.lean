import BrowserFlow.Browser.Web
import BrowserFlow.CommandLine.Parameter
import BrowserFlow.Config
import BrowserFlow.Report.Format
import BrowserFlow.Text.Digit

/-!
# Requests

What can be asked on the command line: that flows are run, that a flow file is shown without being
run, or that the program tells about itself. `Request.read` finds out what is asked.
-/

namespace BrowserFlow.CommandLine

/-- How flows are to be run. -/
structure RunOptions where
  /-- A flow file, or a directory of them. -/
  path : Path := ""
  /-- The page to open first. -/
  url : Option String := none
  /-- The file with the configuration. -/
  config : Option Path := none
  /-- The format of the reports, if it is not left to the configuration. -/
  format : Option ReportFormat := none
  /-- The directory for reports, if it is not left to the configuration. -/
  reportDir : Option Path := none
  /-- The pause after every step that passes, if it is not left to the configuration. -/
  delay : Option UInt64 := none
  /-- Whether the rest of a group is left out after a failure, whatever the configuration says. -/
  stopOnFailure : Bool := false
  /-- Whether the browser stays open, whatever the configuration says. -/
  keepOpen : Bool := false
  /-- Whether the browser has no window, whatever the environment says. -/
  headless : Bool := false
  /-- The browser's engine. -/
  engine : Engine := .chromium
  deriving DecidableEq, Repr

/-- The commands. -/
inductive Command
  /-- Run flows. -/
  | run
  /-- Show a flow file without running it. -/
  | parse
  /-- Tell about a command. -/
  | help
  deriving DecidableEq, Repr

namespace Command

/-- All commands, in the order in which help shows them. -/
def all : List Command := [.run, .parse, .help]

/-- The word for a command. -/
def name : Command → String
  | .run => "run"
  | .parse => "parse"
  | .help => "help"

/-- The command of a word. -/
def ofName? (word : String) : Option Command :=
  all.find? (·.name == word)

end Command

/-- What is asked. -/
inductive Request
  /-- Flows are to be run. -/
  | run (options : RunOptions)
  /-- A flow file is to be shown. -/
  | parse (path : Path)
  /-- Help is wanted about a command, or about the program. -/
  | help (topic : Option Command)
  /-- The program's version is wanted. -/
  | version
  deriving DecidableEq, Repr

/-- Why there is no request. -/
inductive Refusal
  /-- Nothing has been asked. -/
  | nothingAsked
  /-- The arguments are wrong. -/
  | wrong (error : UsageError)
  deriving DecidableEq, Repr

/-! ## Values -/

/-- A path, which must not be empty. -/
def pathOf (text : String) : Except ValueFault Path :=
  if text.isEmpty then .error .missing else .ok text

/-- The number that digits go on to denote after some have denoted `n`. The first character that is
no digit or the first digit that is too much decides what is wrong. -/
def numberFrom (n : Nat) : List Char → Except ValueFault UInt64
  | [] => .ok (UInt64.ofNat n)
  | c :: rest =>
    if !Text.isAsciiDigit c then .error (.invalid "invalid digit found in string")
    else
      let n := 10 * n + Text.digitValue c
      if n < UInt64.size then numberFrom n rest
      else .error (.invalid "number too large to fit in target type")

/-- A number of 64 bits, perhaps after a plus sign. -/
def numberOf (text : String) : Except ValueFault UInt64 :=
  match text.toList with
  | [] => .error (.invalid "cannot parse integer from empty string")
  | ['+'] => .error (.invalid "invalid digit found in string")
  | '+' :: digits => numberFrom 0 digits
  | digits => numberFrom 0 digits

/-! ## Forms -/

/-- The option that asks for help. -/
def helpParameter {α : Type} : Parameter α :=
  ⟨"help", some 'h', .help, "Print help"⟩

/-- What can be said instead of a command. -/
def programForm : Form Unit where
  parameters := [helpParameter, ⟨"version", some 'V', .version, "Print version"⟩]
  positional := none

/-- How it is said how flows are to be run. -/
def runForm : Form RunOptions where
  parameters := [
    ⟨"url", some 'u', .value "URL" fun text o => .ok { o with url := some text },
      "Page to open before the first step"⟩,
    ⟨"config", some 'c', .value "CONFIG" fun text o => do
      return { o with config := some (← pathOf text) }, "YAML/JSON file with run options"⟩,
    ⟨"format", some 'f', .value "FORMAT" fun text o => do
      return { o with format := some (← (ReportFormat.ofName text).mapError .invalid) },
      "Report format (json, html)"⟩,
    ⟨"report-dir", none, .value "REPORT_DIR" fun text o => do
      return { o with reportDir := some (← pathOf text) }, "Directory for reports"⟩,
    ⟨"delay", none, .value "DELAY" fun text o => do
      return { o with delay := some (← numberOf text) }, "Delay after each successful step (ms)"⟩,
    ⟨"stop-on-failure", none, .switch fun o => { o with stopOnFailure := true },
      "Skip the rest of a group after a failed step"⟩,
    ⟨"keep-open", none, .switch fun o => { o with keepOpen := true },
      "Leave the browser open when done"⟩,
    ⟨"headless", none, .switch fun o => { o with headless := true },
      "Run the browser without a window"⟩,
    ⟨"browser", some 'b', .value "BROWSER" fun text o => do
      return { o with engine := ← (Engine.ofName text).mapError .invalid },
      "Browser engine (chromium, firefox, webkit) [default: chromium]"⟩,
    helpParameter]
  positional := some ⟨"PATH", fun text o => do return { o with path := ← pathOf text },
    "Path to a flow file or directory"⟩

/-- How it is said which flow file is to be shown. -/
def parseForm : Form Path where
  parameters := [helpParameter]
  positional := some ⟨"PATH", fun text _ => pathOf text, "Path to a flow file"⟩

/-! ## Reading -/

namespace Request

/-- What an interrupt of the reading asks for. -/
def ofInterrupt (topic : Option Command) : Interrupt → Except Refusal Request
  | .refused error => .error (.wrong error)
  | .help => .ok (.help topic)
  | .version => .ok .version

/-- The topic of a request for help: the last of the commands that are named. -/
def readTopic (topic : Option Command) : List String → Except Refusal Request
  | [] => .ok (.help topic)
  | word :: rest =>
    match topic, Command.ofName? word with
    | none, some command => readTopic (some command) rest
    | _, _ => .error (.wrong (.unknownCommand word))

/-- What the arguments after a command ask for. -/
def readCommand (command : Command) (arguments : List String) : Except Refusal Request :=
  match command with
  | .run =>
    match runForm.read {} arguments with
    | .ok options => .ok (.run options)
    | .error interrupt => ofInterrupt (some .run) interrupt
  | .parse =>
    match parseForm.read "" arguments with
    | .ok path => .ok (.parse path)
    | .error interrupt => ofInterrupt (some .parse) interrupt
  | .help => readTopic none arguments

/-- What some arguments ask for. After two hyphens even a command is out of place. -/
def readFrom (escaped : Bool) : List String → Except Refusal Request
  | [] => .error .nothingAsked
  | argument :: rest =>
    match Command.ofName? argument with
    | some command =>
      if escaped then .error (.wrong (.unexpected argument)) else readCommand command rest
    | none =>
      let unknown := .error (.wrong (.unknownCommand argument))
      let after (reading : Except Interrupt (Reading Unit)) : Except Refusal Request :=
        match reading with
        | .error interrupt => ofInterrupt none interrupt
        | .ok _ => readFrom false rest
      if escaped then unknown
      else
        match Argument.ofText argument with
        | .escape => readFrom true rest
        | .name name value => after (Reading.takeName { options := () } programForm name value)
        | .letters letters => after (Reading.takeLetters { options := () } programForm letters)
        | .word => unknown

/-- What the arguments of the program ask for. -/
def read (arguments : List String) : Except Refusal Request :=
  readFrom false arguments

end Request

end BrowserFlow.CommandLine
