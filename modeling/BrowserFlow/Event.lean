import BrowserFlow.Record

/-!
# Events

What a run tells those who watch it. Every event is emitted once, in the order in which things
happen, and goes through a channel to every watcher. A channel keeps a limited number of events: a
watcher that does not keep up loses the oldest ones, and is told how many it has lost.
-/

namespace BrowserFlow

/-- Something that a run tells. -/
inductive Event
  /-- A run begins, with so many groups and steps. -/
  | runStarted (sessionId : String) (groups steps : Nat)
  /-- A run has ended. -/
  | runFinished (successes failures : UInt32) (durationMs : UInt64)
  /-- A group begins, with so many steps. -/
  | groupStarted (name : String) (steps : Nat)
  /-- The remaining steps of a group are left out after a failure. -/
  | groupAbandoned (name : String) (remaining : Nat)
  /-- A step of a group begins; steps are counted from zero. -/
  | stepStarted (group : String) (index : Nat) (description : String)
  /-- A step has passed. -/
  | stepPassed (group : String) (index : Nat) (durationMs : UInt64)
  /-- A step has failed. -/
  | stepFailed (group : String) (index : Nat) (error : String) (durationMs : UInt64)
  /-- The report has been written. -/
  | reportSaved (path : String)
  /-- A step has something to say. -/
  | log (message : String)
  deriving DecidableEq, Repr

/-- The event that tells how a step ended. -/
def StepRecord.event (record : StepRecord) (index : Nat) : Event :=
  match record.status with
  | .success => .stepPassed record.group index record.durationMs
  | .failure => .stepFailed record.group index (record.error.getD "") record.durationMs

/-- What a watcher gets. -/
inductive Notice
  /-- So many events have been lost. -/
  | lagged (missed : Nat)
  /-- An event. -/
  | event (event : Event)
  deriving DecidableEq, Repr

/-- What is on its way to a watcher. -/
structure Channel where
  /-- How many events have been lost without the watcher's being told of it. -/
  missed : Nat := 0
  /-- The events that are kept, the oldest one first. -/
  kept : List Event := []
  deriving DecidableEq, Repr

namespace Channel

/-- How many events are kept for a watcher: a hundred are asked for, and channels are of the size of
the next power of two. -/
def capacity : Nat := 128

/-- The channel after one more event. If it is full, the oldest event is lost. -/
def send (channel : Channel) (event : Event) : Channel :=
  if channel.kept.length < capacity then { channel with kept := channel.kept ++ [event] }
  else { missed := channel.missed + 1, kept := channel.kept.tail ++ [event] }

/-- What the watcher gets next, if there is anything, and the channel after that. -/
def receive? (channel : Channel) : Option (Notice × Channel) :=
  if channel.missed = 0 then
    match channel.kept with
    | [] => none
    | event :: kept => some (.event event, { channel with kept })
  else some (.lagged channel.missed, { channel with missed := 0 })

/-- All that the watcher gets if no more events come. -/
def notices (channel : Channel) : List Notice :=
  let events := channel.kept.map .event
  if channel.missed = 0 then events else .lagged channel.missed :: events

end Channel

end BrowserFlow
