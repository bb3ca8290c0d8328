import BrowserFlow.Browser
import BrowserFlow.ErrorChain
import BrowserFlow.Event
import BrowserFlow.Files
import BrowserFlow.Report.Document
import BrowserFlow.Report.Format
import BrowserFlow.Session

/-!
# Stages of a session

A session is a story: calls to the browser, records, events, pauses, reports. The stage of a
session is how far the story has come: what the session holds, the state of the world in which the
browser lives, what the browser has pushed to the console, how much time has passed, and everything
that the session has done so far, in order. An operation on a session leads from one stage to the
next, and may fail on the way without undoing what has happened.
-/

namespace BrowserFlow

/-- What sessions are held with: a browser, and a clock. -/
structure Rig (W : Type) where
  /-- The browser. -/
  browser : Browser W
  /-- What the clock shows when so many milliseconds have passed. -/
  clock : Nat → Timestamp

/-- Something that happens in a session. -/
inductive Occurrence
  /-- The browser was asked something, and it ended so. -/
  | called (call : Call) (outcome : Except BrowserError call.Answer)
  /-- A record was added to the results. -/
  | recorded (record : StepRecord)
  /-- There was a pause of so many milliseconds. -/
  | paused (ms : Nat)
  /-- A report was given away to be kept, in a format and as a text, and it ended so. -/
  | persisted (document : ReportDocument) (format : ReportFormat) (rendered : String)
    (outcome : Except ErrorChain Path)
  /-- An event was emitted. -/
  | emitted (event : Event)

namespace Occurrence

/-- The call that an occurrence is. -/
def call? : Occurrence → Option Call
  | .called call _ => some call
  | _ => none

/-- The event that an occurrence is. -/
def event? : Occurrence → Option Event
  | .emitted event => some event
  | _ => none

end Occurrence

/-- How far a session has come, in a world of type `W`. -/
structure Stage (W : Type) where
  /-- The session. -/
  session : Session
  /-- The state of the world. -/
  world : W
  /-- What the browser has pushed to the console so far, whatever became of it. -/
  written : Transcript := []
  /-- How many milliseconds have passed. -/
  elapsed : Nat := 0
  /-- What has happened, in order. -/
  trace : List Occurrence := []

namespace Stage

variable {W : Type}

/-- The calls so far. -/
def calls (stage : Stage W) : List Call :=
  stage.trace.filterMap Occurrence.call?

/-- The events so far. -/
def events (stage : Stage W) : List Event :=
  stage.trace.filterMap Occurrence.event?

/-- The stage after something has happened. -/
def note (stage : Stage W) (occurrence : Occurrence) : Stage W :=
  { stage with trace := stage.trace ++ [occurrence] }

/-- The stage after the browser has pushed some messages to the console. -/
def receive (rig : Rig W) (messages : List Message) (stage : Stage W) : Stage W :=
  { stage with
    session := stage.session.hear messages (rig.clock stage.elapsed)
    written := stage.written ++ messages.map (·.entry (rig.clock stage.elapsed)) }

/-- What a call to the browser leads to. The messages that arrive during a call arrive at its
end. -/
def call (rig : Rig W) (c : Call) (stage : Stage W) : Except BrowserError c.Answer × Stage W :=
  let (reply, world) := rig.browser.call c stage.world
  let stage := { stage with world, elapsed := stage.elapsed + reply.elapsed }
  (reply.outcome, (stage.note (.called c reply.outcome)).receive rig reply.messages)

/-- The stage when some milliseconds have passed without a call. The messages that arrive meanwhile
arrive at the end. -/
def idle (rig : Rig W) (ms : Nat) (stage : Stage W) : Stage W :=
  let (messages, world) := rig.browser.idle ms stage.world
  { stage with world, elapsed := stage.elapsed + ms }.receive rig messages

/-- The first stage of a session: the browser is asked to collect the messages on its console. A
session without them is a session all the same. -/
def first (rig : Rig W) (id : String) (world : W) : Stage W :=
  (Stage.call rig .subscribeConsole { session := { id }, world }).2

end Stage

/-- An operation on a session that may fail with an error of type `ε`. -/
abbrev SessionOp (W ε : Type) := EStateM ε (Stage W)

namespace SessionOp

variable {W ε : Type}

/-- Asks the browser. -/
def attempt (rig : Rig W) (c : Call) : SessionOp W ε (Except BrowserError c.Answer) := fun stage =>
  let (outcome, stage) := stage.call rig c
  .ok outcome stage

/-- How an operation ends, as a value. -/
def outcomeOf {δ α : Type} (op : SessionOp W δ α) : SessionOp W ε (Except δ α) := fun stage =>
  match op stage with
  | .ok a stage => .ok (.ok a) stage
  | .error e stage => .ok (.error e) stage

/-- Emits an event. -/
def emit (event : Event) : SessionOp W ε Unit :=
  modify (·.note (.emitted event))

/-- Changes the session. -/
def update (change : Session → Session) : SessionOp W ε Unit :=
  modify fun stage => { stage with session := change stage.session }

/-- Adds a record to the results. -/
def record (step : StepRecord) : SessionOp W ε Unit := do
  update (·.record step)
  modify (·.note (.recorded step))

/-- Lets some milliseconds pass, if they are not too many. -/
def pause (rig : Rig W) (ms : UInt64) : SessionOp W ε Unit :=
  modify fun stage => (stage.idle rig (pauseLength ms)).note (.paused (pauseLength ms))

/-- Lets the browser push its messages, but no time pass. -/
def lull (rig : Rig W) : SessionOp W ε Unit :=
  modify (·.idle rig 0)

/-- What the clock shows. -/
def now (rig : Rig W) : SessionOp W ε Timestamp :=
  return rig.clock (← get).elapsed

/-- How much time has passed. -/
def elapsed : SessionOp W ε Nat :=
  return (← get).elapsed

/-- How many milliseconds have passed since an earlier time. -/
def since (start : Nat) : SessionOp W ε UInt64 :=
  return UInt64.ofNat ((← get).elapsed - start)

end SessionOp

end BrowserFlow
