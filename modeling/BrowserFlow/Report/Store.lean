import BrowserFlow.ErrorChain
import BrowserFlow.Files
import BrowserFlow.Report.Document
import BrowserFlow.Report.Format
import BrowserFlow.Timestamp

/-!
# Report stores

Where rendered reports are kept. A store takes a report, and tells the path under which it can be
found. A store in a directory writes every report to a file that is named for the second in which
it is written.
-/

namespace BrowserFlow.Report

/-- Where reports are kept in a world of type `W`: a document with its format, its text and the time
is put away, and there is a path to it then. -/
abbrev Store (W : Type) :=
  ReportDocument → ReportFormat → (rendered : String) → Timestamp → EStateM ErrorChain W Path

/-- The name of the file of a report that is written at some time. -/
def fileName (format : ReportFormat) (at_ : Timestamp) : String :=
  "relatorio-" ++ at_.forFileName ++ "." ++ format.extension

/-- Runs an operation on files, and says what could not be done if it fails. -/
def attempting {α : Type} (summary : String) (op : FileOp α) : EStateM ErrorChain Files α :=
  fun files =>
    match op files with
    | .ok a files => .ok a files
    | .error e files => .error ((ErrorChain.ofText e.message).context summary) files

/-- Writes a rendered report into a directory, and returns the path of its file. -/
def writeInto (directory : Path) (format : ReportFormat) (rendered : String) (at_ : Timestamp) :
    EStateM ErrorChain Files Path := do
  attempting ("Failed to create report dir: " ++ directory) (Files.makeDirectories directory)
  let path := Path.join directory (fileName format at_)
  attempting ("Failed to write report: " ++ path) (Files.writeText path rendered)
  return path

/-- The store in a directory. -/
def Store.directory {W : Type} [HasFiles W] (path : Path) : Store W :=
  fun _ format rendered at_ => FileOp.within (writeInto path format rendered at_)

end BrowserFlow.Report
