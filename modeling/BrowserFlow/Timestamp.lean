import BrowserFlow.Text.Digit

/-!
# Points in time

A point in time is a number of milliseconds since the beginning of 1970. It is written in two
ways: in full, inside records and reports, and with hyphens down to the second, in the names of
report files.
-/

namespace BrowserFlow

open Text

/-- A point in time, in milliseconds since 1970-01-01T00:00:00Z. -/
structure Timestamp where
  /-- The milliseconds. -/
  ms : Nat
  deriving DecidableEq, Repr

namespace Timestamp

/-- Year, month and day of a day counted from 1970-01-01. The count goes by years that begin in
March, so that the leap day is the last of its year, in cycles of four hundred years. -/
def civil (day : Nat) : Nat × Nat × Nat :=
  let z := day + 719468
  let era := z / 146097
  let doe := z % 146097
  let yoe := (doe - doe / 1460 + doe / 36524 - doe / 146096) / 365
  let doy := doe - (365 * yoe + yoe / 4 - yoe / 100)
  let mp := (5 * doy + 2) / 153
  let month := if mp < 10 then mp + 3 else mp - 9
  (era * 400 + yoe + (if month ≤ 2 then 1 else 0), month, doy - (153 * mp + 2) / 5 + 1)

/-- A year with four digits; one that needs more of them has a sign in front. -/
def yearText (year : Nat) : String :=
  if year < 10000 then padded 4 year else "+" ++ decimal year

/-- The calendar day. -/
def date (t : Timestamp) : String :=
  let (year, month, day) := civil (t.ms / 86400000)
  yearText year ++ "-" ++ padded 2 month ++ "-" ++ padded 2 day

/-- The time of day down to the second, its parts joined by `mark`. -/
def time (mark : String) (t : Timestamp) : String :=
  let s := t.ms / 1000 % 86400
  padded 2 (s / 3600) ++ mark ++ padded 2 (s / 60 % 60) ++ mark ++ padded 2 (s % 60)

/-- The point in time in full, down to the millisecond. -/
def iso (t : Timestamp) : String :=
  t.date ++ "T" ++ t.time ":" ++ "." ++ padded 3 (t.ms % 1000) ++ "Z"

/-- The point in time down to the second, without characters that file names avoid. -/
def forFileName (t : Timestamp) : String :=
  t.date ++ "T" ++ t.time "-"

end Timestamp

end BrowserFlow
