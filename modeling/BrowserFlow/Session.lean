import BrowserFlow.Console
import BrowserFlow.ErrorChain
import BrowserFlow.Record

/-!
# Sessions

What is kept while a browser is used: the messages on its console, the images that were taken, the
texts that were read, and the results. The console is shared with the browser, which pushes its
messages through a handle of its own. A session serves one run; after a reset, which empties the
console through the session's handle, it can serve another one with the same browser. A session that
has been closed stays closed.
-/

namespace BrowserFlow

/-- A session. -/
structure Session where
  /-- The session's name, unlike that of any other. -/
  id : String
  /-- The console, with a handle of the browser's. -/
  console : Console := .opened
  /-- References to the images that were taken since the last reset. -/
  screenshots : List String := []
  /-- The texts that were read since the last reset. -/
  extractions : List Extraction := []
  /-- The results since the last reset. -/
  results : Results := {}
  /-- Whether a run has begun since the last reset. -/
  used : Bool := false
  /-- Whether the browser has been told to go away. -/
  closed : Bool := false
  deriving DecidableEq

namespace Session

/-- The messages on the console, as the session reads them. -/
def transcript (session : Session) : Transcript :=
  session.console.transcript

/-- The session after the browser has pushed some messages to the console. -/
def hear (session : Session) (messages : List Message) (at_ : Timestamp) : Session :=
  { session with
    console := (messages.map (·.entry at_)).foldl Console.push session.console }

/-- What is pushed is what the session reads last. -/
@[simp]
theorem hear_transcript (session : Session) (messages : List Message) (at_ : Timestamp) :
    (session.hear messages at_).transcript =
      session.transcript ++ messages.map (·.entry at_) :=
  session.console.foldl_push_transcript _

/-- The session with one more record. -/
def record (session : Session) (step : StepRecord) : Session :=
  { session with results := session.results.record step }

/-- The session with one more image. -/
def addScreenshot (session : Session) (reference : String) : Session :=
  { session with screenshots := session.screenshots ++ [reference] }

/-- The session with one more text that was read. -/
def addExtraction (session : Session) (extraction : Extraction) : Session :=
  { session with extractions := session.extractions ++ [extraction] }

/-- The session whose run took so many milliseconds. -/
def setDuration (session : Session) (ms : UInt64) : Session :=
  { session with results := { session.results with totalDurationMs := ms } }

/-- The session with an empty console and nothing gathered. The console stays shared with the
browser, and whether the session is closed stays, too. -/
def reset (session : Session) : Session :=
  { session with
    console := session.console.clear
    screenshots := []
    extractions := []
    results := {}
    used := false }

/-- No message is left after a reset. -/
@[simp]
theorem reset_transcript (session : Session) : session.reset.transcript = [] :=
  session.console.clear_transcript

end Session

/-- Why an operation on a whole session fails. -/
inductive RunError
  /-- The browser is gone. -/
  | sessionLost (reason : String)
  /-- There has been a run since the last reset. -/
  | alreadyUsed
  /-- The session has been closed. -/
  | closed
  /-- The report could not be written. -/
  | report (chain : ErrorChain)
  deriving DecidableEq, Repr

namespace RunError

/-- The failure in words. -/
def message : RunError → String
  | .sessionLost reason => "Browser session lost: " ++ reason
  | .alreadyUsed =>
    "Session already holds the results of a previous run; call reset() first"
  | .closed => "Session is closed"
  | .report chain => "Report error: " ++ chain.summary

/-- The failure with its causes. -/
def chain (error : RunError) : ErrorChain :=
  match error with
  | .report chain => chain.context error.message
  | _ => .ofText error.message

end RunError

end BrowserFlow
