import BrowserFlow.Console
import BrowserFlow.Record

/-!
# Report documents

The report of a run is a document: the results of the session, and what was captured on the way.
It is made once, when the run has ended, and only read afterwards.
-/

namespace BrowserFlow

/-- A report. -/
structure ReportDocument where
  /-- The session that the run belongs to. -/
  sessionId : String
  /-- When the report was made. -/
  timestamp : String
  /-- The page's title at the end of the run. -/
  title : String
  /-- The page's address at the end of the run. -/
  url : String
  /-- How long the run took. -/
  durationMs : UInt64
  /-- Whether the run passed, in a word. -/
  status : String
  /-- How many steps passed. -/
  successCount : UInt32
  /-- How many steps failed. -/
  failureCount : UInt32
  /-- The records of the steps. -/
  steps : List StepRecord
  /-- The console messages. -/
  logs : List LogEntry
  /-- References to the images that were taken. -/
  screenshots : List String
  /-- The texts that were read from elements. -/
  extractions : List Extraction
  deriving DecidableEq, Repr

namespace ReportDocument

/-- The status of a run in which no step failed. -/
def statusPassed : String := "Sucesso"

/-- The status of a run in which some step failed. -/
def statusFailed : String := "Falha"

/-- The report of some results, with what was captured. -/
def build (results : Results) (logs : List LogEntry) (screenshots : List String)
    (title url : String) (at_ : Timestamp) : ReportDocument where
  sessionId := ""
  timestamp := at_.iso
  title := title
  url := url
  durationMs := results.totalDurationMs
  status := if results.failureCount == 0 then statusPassed else statusFailed
  successCount := results.successCount
  failureCount := results.failureCount
  steps := results.steps
  logs := logs
  screenshots := screenshots
  extractions := []

/-- Whether the run passed. -/
def passed (report : ReportDocument) : Bool :=
  report.status == statusPassed

end ReportDocument

end BrowserFlow
