import BrowserFlow.Event
import BrowserFlow.Terminal

/-!
# Watching a run

What is printed while a flow is run. A step is shown when it has ended; on a terminal its sentence
would be moving meanwhile, elsewhere nothing is shown until then, and what a step has to say while
it is under way is not shown either.

The events are printed by a listener, which runs beside the program: an event waits in a channel
until the listener gets to it, and its lines are printed one by one, so that other things may happen
and be printed in between.
-/

namespace BrowserFlow.CommandLine

/-- What a watcher remembers: the sentence of the step that is under way. -/
abbrev Watcher := Option String

namespace Watcher

/-- The line that tells how a step ended. -/
def stepLine (coloured : Bool) (mark description : String) (durationMs : UInt64) : String :=
  "    " ++ mark ++ " " ++ description ++ " " ++
    Style.faint.apply coloured ("(" ++ Text.decimal durationMs.toNat ++ "ms)") ++ "\n"

/-- The line that tells how the step that is under way ended. -/
def stepLines (coloured : Bool) (watcher : Watcher) (mark : String) (durationMs : UInt64) :
    List String :=
  match watcher with
  | some description => [stepLine coloured mark description durationMs]
  | none => []

/-- The lines that are printed when an event comes. -/
def lines (coloured : Bool) (watcher : Watcher) : Event → List String
  | .runStarted sessionId groups steps =>
    ["\n" ++ Style.boldGreen.apply coloured "▶" ++ " Run started: " ++
      Style.cyan.apply coloured sessionId ++ " (" ++ Text.decimal groups ++ " groups, " ++
      Text.decimal steps ++ " steps)\n"]
  | .groupStarted name steps =>
    ["\n  " ++ Style.blue.apply coloured "→" ++ " Group: " ++
      Style.boldWhite.apply coloured name ++ " (" ++ Text.decimal steps ++ " steps)\n"]
  | .groupAbandoned name remaining =>
    ["    " ++ Style.yellow.apply coloured "○" ++ " Skipping " ++ Text.decimal remaining ++
      " remaining step(s) of " ++ name ++ "\n"]
  | .stepStarted _ _ _ => []
  | .stepPassed _ _ durationMs =>
    stepLines coloured watcher (Style.green.apply coloured "✓") durationMs
  | .stepFailed _ _ error durationMs =>
    stepLines coloured watcher (Style.red.apply coloured "✗") durationMs ++
      ["      " ++ Style.red.apply coloured error ++ "\n"]
  | .reportSaved path =>
    ["\n" ++ Style.blue.apply coloured "📄" ++ " Report saved to: " ++
      Style.cyan.apply coloured path ++ "\n"]
  | .runFinished successes failures durationMs =>
    ["\n" ++ Style.boldBlue.apply coloured "■" ++ " Run finished\n",
      "  " ++ Style.green.apply coloured (Text.decimal successes.toNat) ++ " passed, " ++
        Style.red.apply coloured (Text.decimal failures.toNat) ++ " failed\n",
      "  Duration: " ++ Text.decimal durationMs.toNat ++ "ms\n"]
  | .log message =>
    match watcher with
    | some _ => []
    | none => ["      " ++ message ++ "\n"]

/-- What a watcher remembers after an event. -/
def next (watcher : Watcher) : Event → Watcher
  | .stepStarted _ _ description => some description
  | .stepPassed _ _ _ | .stepFailed _ _ _ _ => none
  | _ => watcher

/-- The lines that are printed for some events. -/
def watch (coloured : Bool) (watcher : Watcher) : List Event → List String
  | [] => []
  | event :: events =>
    watcher.lines coloured event ++ watch coloured (watcher.next event) events

end Watcher

/-- The one who prints the events. -/
structure Listener where
  /-- What is on its way to it. -/
  channel : Channel := {}
  /-- What it remembers. -/
  watcher : Watcher := none
  /-- The lines of the last event that it has still to print. -/
  pending : List String := []
  deriving DecidableEq, Repr

namespace Listener

/-- The listener when one more event has been sent. -/
def send (listener : Listener) (event : Event) : Listener :=
  { listener with channel := listener.channel.send event }

/-- What the listener does next: it prints a line, or gets what is next in the channel. -/
def step (coloured : Bool) (listener : Listener) : List String × Listener :=
  match listener.pending, listener.channel.receive? with
  | line :: pending, _ => ([line], { listener with pending })
  | [], some (.event event, channel) =>
    ([], { channel
           watcher := listener.watcher.next event
           pending := listener.watcher.lines coloured event })
  | [], some (.lagged _, channel) => ([], { listener with channel })
  | [], none => ([], listener)

/-- What the listener prints in so many steps, and the listener after them. -/
def run (coloured : Bool) : Nat → Listener → List String × Listener
  | 0, listener => ([], listener)
  | n + 1, listener =>
    let (first, listener) := listener.step coloured
    let (rest, listener) := run coloured n listener
    (first ++ rest, listener)

/-- How many steps an event takes the listener at most: one to get it, and one for each line. -/
def stepsPerEvent : Nat := 4

/-- All that the listener still prints if no more events come. -/
def remaining (coloured : Bool) (listener : Listener) : List String :=
  listener.pending ++ listener.watcher.watch coloured listener.channel.kept

end Listener

end BrowserFlow.CommandLine
