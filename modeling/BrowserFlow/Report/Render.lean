import BrowserFlow.Report.Coding
import BrowserFlow.Report.Format
import BrowserFlow.Report.Html

/-!
# Rendering reports

The text of a report in the format asked for. The counts of a page are added up in 32 bits, and what
comes of a sum that does not fit is settled when the program is built: `render?` is the text in
either build. The sessions here are those of a program whose counters wrap around, where there is
always a text.
-/

namespace BrowserFlow

/-- The text of a report, if the program does not stop at the counts. -/
def ReportDocument.render? (overflow : Report.Overflow) (report : ReportDocument) :
    ReportFormat → Option String
  | .json => some report.toJson.pretty
  | .html => (Report.page? overflow report).map Report.Fragments.render

/-- The rate of passed steps that a report shows where the counts wrap around. -/
def ReportDocument.rate (report : ReportDocument) : Nat :=
  Report.percentage report.successCount (report.successCount + report.failureCount)

/-- The text of a report where the counts wrap around. -/
def ReportDocument.render (report : ReportDocument) : ReportFormat → String
  | .json => report.toJson.pretty
  | .html => (Report.page report report.rate).render

end BrowserFlow
