import BrowserFlow.Text.Blank
import BrowserFlow.Text.Digit
import BrowserFlow.Text.Search

/-!
# Flows

A flow is a text of headings and steps. A heading is a line that starts with `#`; a step is a line
that starts with an ordinal, digits followed by a point; other lines are prose and are passed
over. A step belongs to the nearest heading above it, and steps above every heading belong to a
group of their own. `Flow.read` goes through the lines and gathers the steps under one heading; at
the next heading and at the end they are filed under its name. A repeated heading goes on with its
first group, and a heading without steps makes no group.
-/

namespace BrowserFlow

open Text

/-- One step, as its author wrote it. -/
structure Step where
  /-- The ordinal that the author gave it; ordinals that do not fit become the greatest one. -/
  ordinal : UInt32
  /-- The trimmed line, with the ordinal. -/
  line : String
  deriving DecidableEq, Repr

/-- Some steps under one name. -/
structure Group where
  /-- The heading. -/
  name : String
  /-- The steps, in order. -/
  steps : List Step
  deriving DecidableEq, Repr

/-- A line without its ordinal marker and the blanks around what remains. -/
def stripOrdinal (line : String) : String :=
  let line := trim line.toList
  let digits := (line.takeWhile isAsciiDigit).length
  if 0 < digits && (line.drop digits).head? == some '.' then
    String.ofList (trimStart (line.drop (digits + 1)))
  else String.ofList line

namespace Step

/-- The sentence of a step. -/
def sentence (step : Step) : String :=
  stripOrdinal step.line

/-- The number of 32 bits that a text denotes, if it is one. -/
def parseOrdinal? (s : List Char) : Option UInt32 :=
  match natural? s with
  | some n => if n < UInt32.size then some (UInt32.ofNat n) else none
  | none => none

/-- The ordinal that a trimmed line starts with: a number with a point right behind it. A number
that does not fit is an ordinal all the same. -/
def leadingOrdinal? (line : List Char) : Option UInt32 :=
  let digits := (line.takeWhile isAsciiDigit).length
  if digits == 0 || (line.drop digits).head? != some '.' then none
  else some ((parseOrdinal? (line.take digits)).getD (UInt32.ofNat (UInt32.size - 1)))

/-- The step that a trimmed line holds. -/
def ofLine? (line : List Char) : Option Step :=
  (leadingOrdinal? line).map fun ordinal => ⟨ordinal, String.ofList line⟩

end Step

namespace Flow

/-- The name of the group for steps above every heading. -/
def untitled : String := "Geral"

/-- The groups with some more steps, in the group of that name or else in a new one at the end. -/
def addSteps (name : String) (steps : List Step) : List Group → List Group
  | [] => [⟨name, steps⟩]
  | group :: rest =>
    if group.name == name then { group with steps := group.steps ++ steps } :: rest
    else group :: addSteps name steps rest

/-- How far a flow has been read. -/
structure Reading where
  /-- The groups so far. -/
  groups : List Group := []
  /-- The name of the heading in force. -/
  current : String := untitled
  /-- The steps under that heading. -/
  buffer : List Step := []

namespace Reading

/-- Files the gathered steps under the name of their heading. -/
def flush (reading : Reading) : Reading :=
  if reading.buffer.isEmpty then reading
  else
    { reading with
      groups := addSteps reading.current reading.buffer reading.groups, buffer := [] }

/-- Reads a trimmed line. -/
def readLine (reading : Reading) (line : List Char) : Reading :=
  match line with
  | '#' :: title => { reading.flush with current := String.ofList (trim title) }
  | _ =>
    match Step.ofLine? line with
    | some step => { reading with buffer := reading.buffer ++ [step] }
    | none => reading

end Reading

/-- The trimmed lines of a text. -/
def trimmedLines (text : String) : List (List Char) :=
  (lines text.toList).map trim

/-- The groups of a flow. -/
def read (text : String) : List Group :=
  (((trimmedLines text).filter (!·.isEmpty)).foldl Reading.readLine {}).flush.groups

end Flow

end BrowserFlow
