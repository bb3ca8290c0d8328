import BrowserFlow.Session.Run

/-!
# What does not depend on names and times

Two sessions in which the same things are done differ in their names, in the times at which things
happen and in how long they take. The essence of a value is what is left of it when these are struck
out. Everything that is done to sessions respects it, as the equations here say: the essence of the
outcome can be read off the essence of what there was before.

A store may put names and times into the texts that it makes, which are paths and errors. How these
are compared is up to a mask, and texts with the same mask count as the same.
-/

namespace BrowserFlow

/-- A record without its times. -/
def StepRecord.essence (record : StepRecord) : StepRecord :=
  { record with durationMs := 0, timestamp := "" }

/-- A message without its time. -/
def LogEntry.essence (entry : LogEntry) : LogEntry :=
  { entry with time := "" }

/-- Results without times. -/
def Results.essence (results : Results) : Results :=
  { results with steps := results.steps.map (·.essence), totalDurationMs := 0 }

/-- The console of a new session that reads a transcript. -/
def Console.holding (transcript : Transcript) : Console where
  consoles := { transcripts := [transcript], handles := [0, 0] }
  own := 0
  sink := 1
  shared := ⟨0, Nat.zero_lt_one, rfl, rfl⟩

/-- A session without its name and without times. Of the console there is what the session reads,
whatever handles and other transcripts there are. -/
def Session.essence (session : Session) : Session :=
  { session with
    id := ""
    console := .holding (session.transcript.map (·.essence))
    results := session.results.essence }

/-- A report without the session's name and without times. -/
def ReportDocument.essence (document : ReportDocument) : ReportDocument :=
  { document with
    sessionId := "", timestamp := "", durationMs := 0
    steps := document.steps.map (·.essence), logs := document.logs.map (·.essence) }

/-- An error of a store under a mask. -/
def ErrorChain.masked (mask : String → String) (chain : ErrorChain) : ErrorChain :=
  ⟨mask chain.summary, chain.causes.map mask⟩

/-- An error of a session under a mask for errors of its store. -/
def RunError.essence (mask : String → String) : RunError → RunError
  | .report chain => .report (chain.masked mask)
  | error => error

/-- An event without the session's name and without times, under a mask for paths. -/
def Event.essence (mask : String → String) : Event → Event
  | .runStarted _ groups steps => .runStarted "" groups steps
  | .runFinished successes failures _ => .runFinished successes failures 0
  | .stepPassed group index _ => .stepPassed group index 0
  | .stepFailed group index error _ => .stepFailed group index error 0
  | .reportSaved path => .reportSaved (mask path)
  | event => event

/-- What a store answers, under a mask. -/
def Report.answerEssence (mask : String → String) :
    Except ErrorChain Path → Except ErrorChain Path
  | .ok path => .ok (mask path)
  | .error chain => .error (chain.masked mask)

/-- An occurrence without the session's name and without times; the text of a report, which follows
from the report, is left out. -/
def Occurrence.essence (mask : String → String) : Occurrence → Occurrence
  | .recorded record => .recorded record.essence
  | .persisted document format _ outcome =>
    .persisted document.essence format "" (Report.answerEssence mask outcome)
  | .emitted event => .emitted (event.essence mask)
  | occurrence => occurrence

/-! ## What is done respects the essence -/

/-- The event that tells how a step ended tells the essence of the record. -/
theorem StepRecord.event_essence (mask : String → String) (record : StepRecord) (index : Nat) :
    (record.event index).essence mask = record.essence.event index := by
  obtain ⟨group, description, _ | _, ms, error, time⟩ := record <;> rfl

/-- Whether a step passed is part of the essence of its record. -/
theorem StepRecord.essence_isSuccess (record : StepRecord) :
    record.essence.isSuccess = record.isSuccess := rfl

/-- Adding a record adds its essence. -/
theorem Results.record_essence (results : Results) (record : StepRecord) :
    (results.record record).essence = results.essence.record record.essence := by
  obtain ⟨group, description, _ | _, ms, error, time⟩ := record <;>
    simp [Results.record, essence, StepRecord.essence]

/-- Whether some message contains a text does not depend on times. -/
theorem Transcript.mentions_map_essence (transcript : Transcript) (needle : String) :
    Transcript.mentions (transcript.map (·.essence)) needle = transcript.mentions needle := by
  unfold mentions
  rw [List.any_map]
  rfl

namespace Session

/-- The essence of a session reads the essence of what the session reads. -/
theorem essence_transcript (session : Session) :
    session.essence.transcript = session.transcript.map (·.essence) := rfl

/-- When messages arrive, what they say arrives. -/
theorem hear_essence (session : Session) (messages : List Message) (at_ : Timestamp) :
    (session.hear messages at_).essence = { session.essence with
      console := .holding
        (session.essence.transcript ++ messages.map fun m => ⟨m.kind, m.text, ""⟩) } := by
  have htranscript : (session.hear messages at_).transcript.map (·.essence) =
      session.essence.transcript ++ messages.map fun m => ⟨m.kind, m.text, ""⟩ := by
    simp [essence_transcript, Message.entry, LogEntry.essence, Function.comp_def]
  rw [← htranscript]
  rfl

/-- After a reset nothing is left but whether the session is closed. -/
theorem reset_essence (session : Session) :
    session.reset.essence = { id := "", closed := session.closed } := by
  unfold essence
  rw [reset_transcript]
  rfl

/-- Adding a record adds its essence. -/
theorem record_essence (session : Session) (record : StepRecord) :
    (session.record record).essence = session.essence.record record.essence := by
  have hresults := Results.record_essence session.results record
  simp only [Session.record, essence, hresults]
  rfl

/-- Images have nothing to do with names and times. -/
theorem addScreenshot_essence (session : Session) (reference : String) :
    (session.addScreenshot reference).essence = session.essence.addScreenshot reference := rfl

/-- Texts that were read have nothing to do with names and times. -/
theorem addExtraction_essence (session : Session) (extraction : Extraction) :
    (session.addExtraction extraction).essence = session.essence.addExtraction extraction := rfl

/-- The duration of a run is no part of the essence. -/
theorem setDuration_essence (session : Session) (ms : UInt64) :
    (session.setDuration ms).essence = session.essence := rfl

/-- The essence of a session knows whether the session has been claimed. -/
theorem used_congr {session session' : Session} (h : session.essence = session'.essence) :
    session.used = session'.used :=
  show session.essence.used = session'.essence.used from congrArg Session.used h

/-- The essence of a session knows whether the session has been closed. -/
theorem closed_congr {session session' : Session} (h : session.essence = session'.essence) :
    session.closed = session'.closed :=
  show session.essence.closed = session'.essence.closed from congrArg Session.closed h

/-- The essence of a session knows its results but for times. -/
theorem results_congr {session session' : Session} (h : session.essence = session'.essence) :
    session.results.essence = session'.results.essence :=
  show session.essence.results = session'.essence.results from congrArg Session.results h

/-- How many messages there are is part of the essence. -/
theorem essence_transcript_length (session : Session) :
    session.essence.transcript.length = session.transcript.length := by
  rw [essence_transcript, List.length_map]

/-- Whether some message contains a text is part of the essence. -/
theorem essence_mentions (session : Session) (needle : String) :
    session.essence.transcript.mentions needle = session.transcript.mentions needle := by
  rw [essence_transcript, Transcript.mentions_map_essence]

end Session

/-- The essence of a report is that of the session that it shows. -/
theorem Flow.report_essence (config : RunConfig) (session : Session) (title url : String)
    (at_ : Timestamp) : (report config session title url at_).essence =
      { report config session.essence title url at_ with timestamp := "" } := by
  unfold report
  cases config.captureLogs <;> rfl

end BrowserFlow
