import BrowserFlow.Text.Lowercase

/-!
# Report formats

A report is written as JSON or as an HTML page.
-/

namespace BrowserFlow

/-- The format of a report. -/
inductive ReportFormat
  | json
  | html
  deriving DecidableEq, Repr

namespace ReportFormat

/-- The extension of the format's files, which is also its name in a configuration. -/
def extension : ReportFormat → String
  | .json => "json"
  | .html => "html"

/-- The format of a name, in whatever case. -/
def ofName (name : String) : Except String ReportFormat :=
  let small := Text.toLower name
  if small == "json" then .ok .json
  else if small == "html" then .ok .html
  else .error ("Unknown report format: " ++ name)

end ReportFormat

end BrowserFlow
