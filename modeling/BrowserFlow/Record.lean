import BrowserFlow.Timestamp

/-!
# Records of steps

Every executed step leaves one record, which is never changed afterwards. The results of a session
are its records in order, with the numbers of those that passed and of those that failed;
`Results.record` is the only way to add to them, so that the counts and the records agree.
-/

namespace BrowserFlow

/-- How a step ended. -/
inductive StepStatus
  | success
  | failure
  deriving DecidableEq, Repr

/-- What happened to one step. -/
structure StepRecord where
  /-- The name of the step's group. -/
  group : String
  /-- The sentence. -/
  description : String
  /-- How the step ended. -/
  status : StepStatus
  /-- How long it took. -/
  durationMs : UInt64
  /-- Why it failed. -/
  error : Option String
  /-- When it ended. -/
  timestamp : String
  deriving DecidableEq, Repr

namespace StepRecord

/-- The record of a step that passed. -/
def success (group description : String) (durationMs : UInt64) (at_ : Timestamp) : StepRecord :=
  ⟨group, description, .success, durationMs, none, at_.iso⟩

/-- The record of a step that failed. -/
def failure (group description : String) (durationMs : UInt64) (error : String)
    (at_ : Timestamp) : StepRecord :=
  ⟨group, description, .failure, durationMs, some error, at_.iso⟩

/-- Whether the step passed. -/
def isSuccess (record : StepRecord) : Bool :=
  record.status == .success

end StepRecord

/-- The records of a session so far. -/
structure Results where
  /-- The records, in order. -/
  steps : List StepRecord := []
  /-- How many of them are successes. The counts have 32 bits, and begin again with zero beyond
  them. -/
  successCount : UInt32 := 0
  /-- How many of them are failures. -/
  failureCount : UInt32 := 0
  /-- How long the run took. -/
  totalDurationMs : UInt64 := 0
  deriving DecidableEq, Repr

namespace Results

/-- The results with one more record. -/
def record (results : Results) (step : StepRecord) : Results :=
  match step.status with
  | .success =>
    { results with
      steps := results.steps ++ [step], successCount := results.successCount + 1 }
  | .failure =>
    { results with
      steps := results.steps ++ [step], failureCount := results.failureCount + 1 }

/-- Whether no step failed. -/
def passed (results : Results) : Bool :=
  results.failureCount == 0

end Results

/-- A text that a step read from an element. -/
structure Extraction where
  /-- The element's label. -/
  label : String
  /-- The text. -/
  text : String
  deriving DecidableEq, Repr

end BrowserFlow
