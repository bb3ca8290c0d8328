import BrowserFlow.Report.Render
import BrowserFlow.Report.Store
import BrowserFlow.Session.Execution
import BrowserFlow.Session.Lifecycle

/-!
# Running a flow

The steps of a flow are executed group after group, in order. A step that fails does not end the
run; at most the rest of its group is left out, if the configuration wants that. Only the loss of
the browser ends a run early. At the end the report is written and the browser is told to go away,
unless it is to stay open, and if several things go wrong, the first one is the outcome.
-/

namespace BrowserFlow

open SessionOp

variable {W : Type}

namespace Group

/-- What lies between a step and what follows it: a pause if the step passed and the configuration
wants one, and otherwise no more than a moment in which messages may arrive. -/
def rest (rig : Rig W) (config : RunConfig) (passed : Bool) : SessionOp W RunError Unit :=
  match if passed then config.stepDelayMs else none with
  | some ms => if ms = 0 then lull rig else pause rig ms
  | none => lull rig

/-- Tells that the rest of a group is left out, if there is a rest. -/
def abandon (name : String) (remaining : List Step) : SessionOp W RunError Unit :=
  if remaining.isEmpty then pure () else emit (.groupAbandoned name remaining.length)

/-- Executes the steps of a group from the one with the given index on. -/
def runSteps (rig : Rig W) (config : RunConfig) (name : String) (index : Nat) :
    List Step → SessionOp W RunError Unit
  | [] => return
  | step :: remaining => do
    emit (.stepStarted name index step.sentence)
    let result ← step.execute rig config name
    emit (result.event index)
    record result
    rest rig config result.isSuccess
    if result.isSuccess then runSteps rig config name (index + 1) remaining
    else if config.stopOnFailure then abandon name remaining
    else runSteps rig config name (index + 1) remaining

/-- Executes a group. -/
def run (rig : Rig W) (config : RunConfig) (group : Group) : SessionOp W RunError Unit := do
  emit (.groupStarted group.name group.steps.length)
  runSteps rig config group.name 0 group.steps

/-- Executes some groups. -/
def runAll (rig : Rig W) (config : RunConfig) : List Group → SessionOp W RunError Unit
  | [] => return
  | group :: groups => do
    group.run rig config
    runAll rig config groups

end Group

namespace Flow

/-- How many steps some groups have. -/
def stepCount : List Group → Nat
  | [] => 0
  | group :: groups => group.steps.length + stepCount groups

/-- What the browser tells, or nothing if it fails. -/
def tellOrEmpty (rig : Rig W) (c : Call) (text : c.Answer → String) :
    SessionOp W RunError String := do
  match ← attempt rig c with
  | .ok answer => return text answer
  | .error _ => return ""

/-- The report of a session that shows a page with this title and address. -/
def report (config : RunConfig) (session : Session) (title url : String) (at_ : Timestamp) :
    ReportDocument :=
  let logs := if config.captureLogs then session.transcript else []
  { ReportDocument.build session.results logs session.screenshots title url at_ with
    sessionId := session.id, extractions := session.extractions }

/-- Gives a report away to be kept. -/
def persist (rig : Rig W) (store : Report.Store W) (document : ReportDocument)
    (format : ReportFormat) : SessionOp W RunError Path := fun stage =>
  let rendered := document.render format
  let note (outcome : Except ErrorChain Path) (world : W) : Stage W :=
    { stage with world }.note (.persisted document format rendered outcome)
  match store document format rendered (rig.clock stage.elapsed) stage.world with
  | .ok path world => .ok path (note (.ok path) world)
  | .error e world => .error (.report e) (note (.error e) world)

/-- Writes the report of a session. -/
def writeReport (rig : Rig W) (config : RunConfig) (store : Report.Store W) :
    SessionOp W RunError Unit := do
  let title ← tellOrEmpty rig .title id
  let url ← tellOrEmpty rig .url id
  let document := report config (← get).session title url (← now rig)
  let path ← persist rig store document config.reportFormat
  emit (.reportSaved path)

/-- Executes some groups, notes how long that took, and writes the report. -/
def drive (rig : Rig W) (config : RunConfig) (store : Report.Store W) (groups : List Group) :
    SessionOp W RunError Unit := do
  let begun ← elapsed
  let outcome ← outcomeOf (Group.runAll rig config groups)
  let duration ← since begun
  update (·.setDuration duration)
  match outcome with
  | .ok _ => writeReport rig config store
  | .error e => throw e

/-- Closes the session, unless the browser is to stay open. -/
def finish (rig : Rig W) (config : RunConfig) : SessionOp W RunError Unit :=
  if config.keepOpen then pure () else close rig

/-- Runs a flow, and returns the results of the session. -/
def run (rig : Rig W) (config : RunConfig) (store : Report.Store W) (text : String) :
    SessionOp W RunError Results := do
  claim
  let groups := Flow.read text
  emit (.runStarted (← get).session.id groups.length (stepCount groups))
  let outcome ← outcomeOf (drive rig config store groups)
  let closing ← outcomeOf (finish rig config)
  match outcome, closing with
  | .error e, _ => throw e
  | _, .error e => throw e
  | .ok _, .ok _ => do
    let results := (← get).session.results
    emit (.runFinished results.successCount results.failureCount results.totalDurationMs)
    return results

end Flow

end BrowserFlow
