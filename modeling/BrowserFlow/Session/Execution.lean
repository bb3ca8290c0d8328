import BrowserFlow.Config
import BrowserFlow.Flow
import BrowserFlow.Sentence.Read
import BrowserFlow.Session.Stage

/-!
# Executing steps

A step is executed by reading its sentence and doing what the sentence asks for. Every action asks
the browser at most once. Whatever goes wrong ends up in the record of the step, except for the
loss of the browser, which ends the whole run.
-/

namespace BrowserFlow

/-- Why a step fails. -/
inductive StepError
  /-- The sentence is no action. -/
  | sentence (error : SentenceError)
  /-- An assertion does not hold. -/
  | unmet (subject expected actual : String)
  /-- The browser could not do what it was asked. -/
  | browser (error : BrowserError)
  deriving DecidableEq, Repr

namespace StepError

/-- The failure in words. -/
def message : StepError → String
  | .sentence error => error.message
  | .unmet subject expected actual => subject ++ ": expected " ++ expected ++ ", got " ++ actual
  | .browser error => error.message

/-- Whether nothing more can be done with the browser. -/
def isFatal : StepError → Bool
  | .browser error => error.isFatal
  | _ => false

end StepError

open SessionOp

variable {W : Type}

/-- Asks the browser, and fails if it does. -/
def SessionOp.ask (rig : Rig W) (c : Call) : SessionOp W StepError c.Answer := do
  match ← attempt rig c with
  | .ok answer => return answer
  | .error e => throw (.browser e)

namespace Assertion

/-- A text as messages about assertions show it: between quotes, and otherwise as it is. -/
def shown (text : String) : String :=
  "\"" ++ text ++ "\""

/-- Fails unless a condition holds. -/
def require (condition : Bool) (subject expected actual : String) : SessionOp W StepError Unit :=
  if condition then pure () else throw (.unmet subject expected actual)

/-- Finds out whether an assertion holds, and fails if it does not. -/
def verify (rig : Rig W) : Assertion → SessionOp W StepError Unit
  | .title mode expected => do
    let title ← ask rig .title
    require (mode.holds title expected) ("Title " ++ mode.display) (shown expected) (shown title)
  | .url mode expected => do
    let url ← ask rig .url
    require (mode.holds url expected) ("URL " ++ mode.display) (shown expected) (shown url)
  | .element target .visible => do
    let visible ← ask rig (.isVisible target)
    require visible ("Element " ++ target.display) "visible" "not visible"
  | .element target .present => do
    let present ← ask rig (.isPresent target)
    require present ("Element " ++ target.display) "to exist" "not found"
  | .element target (.containsText expected) => do
    let text ← ask rig (.textContent target)
    require (Text.contains text expected) ("Element " ++ target.display ++ " text contains")
      (shown expected) (shown text)
  | .log expected => do
    let transcript := (← get).session.transcript
    require (transcript.mentions expected) "Console log" (shown expected)
      (Text.decimal transcript.length ++ " message(s) without it")

end Assertion

namespace Action

/-- Does what an action says. -/
def perform (rig : Rig W) (config : RunConfig) : Action → SessionOp W StepError Unit
  | .navigate url => ask rig (.navigate url)
  | .goBack => ask rig .goBack
  | .reload => ask rig .reload
  | .wait ms => ask rig (.wait ms)
  | .click target => ask rig (.click target)
  | .fill field value => ask rig (.fill field value)
  | .select field value => ask rig (.selectOption field value)
  | .check target => ask rig (.check target)
  | .uncheck target => ask rig (.uncheck target)
  | .keyPress key => ask rig (.pressKey key)
  | .scroll none => ask rig .scrollToBottom
  | .scroll (some target) => ask rig (.scrollIntoView target)
  | .verify assertion => assertion.verify rig
  | .screenshot => do
    if config.captureScreenshots then
      let reference ← ask rig .screenshot
      update (·.addScreenshot reference)
  | .captureLogs => do
    let count := (← get).session.transcript.length
    emit (.log (Text.decimal count ++ " console message(s) captured"))
  | .extract _ (some target) => do
    let text ← ask rig (.textContent target)
    update (·.addExtraction ⟨target.label, text⟩)
  | .extract _ none => return

end Action

namespace Step

/-- Does what a sentence says. -/
def perform (rig : Rig W) (config : RunConfig) (sentence : String) : SessionOp W StepError Unit :=
  match Action.ofSentence sentence with
  | .ok action => action.perform rig config
  | .error e => throw (.sentence e)

/-- Executes a step of a group, and returns its record. -/
def execute (rig : Rig W) (config : RunConfig) (group : String) (step : Step) :
    SessionOp W RunError StepRecord := do
  let begun ← elapsed
  match ← outcomeOf (Step.perform rig config step.sentence) with
  | .ok _ => return .success group step.sentence (← since begun) (← now rig)
  | .error e =>
    if e.isFatal then throw (.sessionLost e.message)
    return .failure group step.sentence (← since begun) e.message (← now rig)

end Step

end BrowserFlow
