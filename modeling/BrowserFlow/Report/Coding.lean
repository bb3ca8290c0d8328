import BrowserFlow.Json.Decode
import BrowserFlow.Json.Value
import BrowserFlow.Report.Document

/-!
# Reports in JSON

How reports and their parts are written as JSON objects, and how they are read back. A record
leaves out its error when it has none, and a report its extractions when there are none; nothing
else is ever left out.
-/

namespace BrowserFlow

open Decode

/-! ## Writing -/

/-- The name of a status. -/
def StepStatus.name : StepStatus → String
  | .success => "success"
  | .failure => "failure"

/-- A record as a JSON object. -/
def StepRecord.toJson (record : StepRecord) : Json :=
  .object <|
    [("group", .string record.group), ("description", .string record.description),
      ("status", .string record.status.name), ("durationMs", .natural record.durationMs.toNat)] ++
    (match record.error with
      | some error => [("error", .string error)]
      | none => []) ++
    [("timestamp", .string record.timestamp)]

/-- A console message as a JSON object. -/
def LogEntry.toJson (entry : LogEntry) : Json :=
  .object [("type", .string entry.kind), ("text", .string entry.text),
    ("time", .string entry.time)]

/-- An extraction as a JSON object. -/
def Extraction.toJson (extraction : Extraction) : Json :=
  .object [("label", .string extraction.label), ("text", .string extraction.text)]

/-- The results of a session as a JSON object. -/
def Results.toJson (results : Results) : Json :=
  .object [("steps", .array (results.steps.map StepRecord.toJson)),
    ("successCount", .natural results.successCount.toNat),
    ("failureCount", .natural results.failureCount.toNat),
    ("totalDurationMs", .natural results.totalDurationMs.toNat)]

/-- A report as a JSON object. -/
def ReportDocument.toJson (report : ReportDocument) : Json :=
  .object <|
    [("sessionId", .string report.sessionId), ("timestamp", .string report.timestamp),
      ("title", .string report.title), ("url", .string report.url),
      ("durationMs", .natural report.durationMs.toNat), ("status", .string report.status),
      ("successCount", .natural report.successCount.toNat),
      ("failureCount", .natural report.failureCount.toNat),
      ("steps", .array (report.steps.map StepRecord.toJson)),
      ("logs", .array (report.logs.map LogEntry.toJson)),
      ("screenshots", Json.strings report.screenshots)] ++
    (if report.extractions.isEmpty then []
      else [("extractions", .array (report.extractions.map Extraction.toJson))])

/-! ## Reading -/

/-- A status, read from its name. -/
def StepStatus.decode (origin : Origin) : Decoder StepStatus :=
  constant origin [("success", .success), ("failure", .failure)]

/-- The form of a record. -/
def StepRecord.shape (origin : Origin) : Shape where
  type := "struct StepRecord"
  fields := [.of "group" string, .of "description" string,
    .of "status" (StepStatus.decode origin), .of "durationMs" uint64,
    .of "error" (nullable string), .of "timestamp" string]

/-- A record, read from JSON. -/
def StepRecord.decode (origin : Origin) : Decoder StepRecord := fun value => do
  let members ← (StepRecord.shape origin).members origin value
  let group ← members.required "group" string
  let description ← members.required "description" string
  let status ← members.required "status" (StepStatus.decode origin)
  let durationMs ← members.required "durationMs" uint64
  let error ← members.optional "error" (nullable string) none
  let timestamp ← members.required "timestamp" string
  return ⟨group, description, status, durationMs, error, timestamp⟩

/-- The form of a console message. -/
def LogEntry.shape : Shape where
  type := "struct LogEntry"
  fields := [.of "type" string, .of "text" string, .of "time" string]

/-- A console message, read from JSON. -/
def LogEntry.decode (origin : Origin) : Decoder LogEntry := fun value => do
  let members ← LogEntry.shape.members origin value
  let kind ← members.required "type" string
  let text ← members.required "text" string
  let time ← members.required "time" string
  return ⟨kind, text, time⟩

/-- The form of an extraction. -/
def Extraction.shape : Shape where
  type := "struct Extraction"
  fields := [.of "label" string, .of "text" string]

/-- An extraction, read from JSON. -/
def Extraction.decode (origin : Origin) : Decoder Extraction := fun value => do
  let members ← Extraction.shape.members origin value
  let label ← members.required "label" string
  let text ← members.required "text" string
  return ⟨label, text⟩

/-- The form of a report. -/
def ReportDocument.shape (origin : Origin) : Shape where
  type := "struct ReportDocument"
  fields := [.of "sessionId" string, .of "timestamp" string, .of "title" string,
    .of "url" string, .of "durationMs" uint64, .of "status" string, .of "successCount" uint32,
    .of "failureCount" uint32, .of "steps" (list (StepRecord.decode origin)),
    .of "logs" (list (LogEntry.decode origin)), .of "screenshots" (list string),
    { Field.of "extractions" (list (Extraction.decode origin)) with mayBeLeftOut := true }]

/-- A report, read from JSON. -/
def ReportDocument.decode (origin : Origin) : Decoder ReportDocument := fun value => do
  let members ← (ReportDocument.shape origin).members origin value
  let sessionId ← members.required "sessionId" string
  let timestamp ← members.required "timestamp" string
  let title ← members.required "title" string
  let url ← members.required "url" string
  let durationMs ← members.required "durationMs" uint64
  let status ← members.required "status" string
  let successCount ← members.required "successCount" uint32
  let failureCount ← members.required "failureCount" uint32
  let steps ← members.required "steps" (list (StepRecord.decode origin))
  let logs ← members.required "logs" (list (LogEntry.decode origin))
  let screenshots ← members.required "screenshots" (list string)
  let extractions ← members.optional "extractions" (list (Extraction.decode origin)) []
  return ⟨sessionId, timestamp, title, url, durationMs, status, successCount, failureCount,
    steps, logs, screenshots, extractions⟩

end BrowserFlow
