import BrowserFlow.Number.Binary64
import BrowserFlow.Report.Document
import BrowserFlow.Report.Style
import BrowserFlow.Text.Search

/-!
# Reports in HTML

A page is a list of fragments: markup, which stands as it is, and shown texts, which are escaped
when the page is rendered. Every text of a report enters the page as a shown text, so that none of
them can become markup. The page is cut before its body, because the head holds little of the
report but its title. Before there is a page the counts are added up in 32 bits, and where they are
checked for that a report whose counts are too large has no page (`page?`).
-/

namespace BrowserFlow.Report

open Text Number

/-! ## Fragments -/

/-- How a character of a shown text is written. -/
def entity (c : Char) : List Char :=
  if c == '&' then "&amp;".toList
  else if c == '<' then "&lt;".toList
  else if c == '>' then "&gt;".toList
  else if c == '"' then "&quot;".toList
  else if c == '\'' then "&#39;".toList
  else [c]

/-- A piece of a page. -/
inductive Fragment
  /-- Markup, which stands as it is. -/
  | markup (text : String)
  /-- A text that is shown, and escaped for that. -/
  | shown (text : String)
  deriving DecidableEq, Repr

/-- The text of a fragment. -/
def Fragment.render : Fragment → String
  | .markup text => text
  | .shown text => mapChars entity text

/-- A piece of a page, from its start to its end. -/
abbrev Fragments := List Fragment

/-- The text of some fragments. -/
def Fragments.render (fragments : Fragments) : String :=
  "".intercalate (fragments.map Fragment.render)

/-- A line of its own, `depth` steps deep. -/
def line (depth : Nat) (content : Fragments) : Fragments :=
  .markup ("".pushn ' ' (4 * depth)) :: content ++ [.markup "\n"]

/-- A line of nothing but markup. -/
def markupLine (depth : Nat) (text : String) : Fragments :=
  line depth [.markup text]

/-- An empty line. -/
def emptyLine : Fragments := [.markup "\n"]

/-! ## Numbers -/

/-- A duration: in milliseconds, or in seconds with one place, or in minutes and seconds. -/
def duration (ms : Nat) : String :=
  if ms < 1000 then decimal ms ++ "ms"
  else if ms < 60000 then
    let tenths := (Binary64.ofRatio ms 1000).scaled 1
    decimal (tenths / 10) ++ "." ++ decimal (tenths % 10) ++ "s"
  else
    decimal (ms / 60000) ++ "m " ++ decimal ((Binary64.ofRatio (ms % 60000) 1000).scaled 0) ++ "s"

/-- What is done about a sum that does not fit into 32 bits. It is settled when the program is
built. -/
inductive Overflow
  /-- The sum is checked, and the program stops. -/
  | checked
  /-- The sum wraps around. -/
  | wrapping
  deriving DecidableEq, Repr

/-- The sum of two counts, if the program does not stop at it. -/
def Overflow.sum : Overflow → UInt32 → UInt32 → Option UInt32
  | .checked, a, b => if a.toNat + b.toNat < UInt32.size then some (a + b) else none
  | .wrapping, a, b => some (a + b)

/-- The share of passed steps in percent, of a total of 32 bits. -/
def percentage (successes total : UInt32) : Nat :=
  if total == 0 then 0
  else
    let share := Binary64.ofRatio successes.toNat total.toNat
    min (share.mul (.ofNat 100)).floor (UInt32.size - 1)

/-- The share of passed steps in percent, if the program gets as far as the total. -/
def passRate (overflow : Overflow) (successes failures : UInt32) : Option Nat :=
  (overflow.sum successes failures).map (percentage successes)

/-! ## Sections -/

/-- A step of a card. -/
def stepFragments (record : StepRecord) : Fragments :=
  let (icon, style) := match record.status with
    | .success => ("✓", "passed")
    | .failure => ("✗", "failed")
  let error := match record.error with
    | some error =>
      [.markup "<div class=\"error-message\">", .shown error, .markup "</div>"]
    | none => []
  emptyLine ++
  markupLine 4 ("<div class=\"step " ++ style ++ "\">") ++
  markupLine 5 ("<div class=\"step-icon\">" ++ icon ++ "</div>") ++
  markupLine 5 "<div class=\"step-content\">" ++
  line 6 [.markup "<div class=\"step-name\">", .shown record.description, .markup "</div>"] ++
  markupLine 6 ("<span class=\"duration\">" ++ duration record.durationMs.toNat ++ "</span>") ++
  line 6 error ++
  markupLine 5 "</div>" ++
  [.markup "                </div>"]

/-- What stands in a card before its first step. -/
def cardStart (group : String) : Fragments :=
  [.markup "<div class=\"group\"><div class=\"group-header\">", .shown group,
    .markup "</div><div class=\"steps\">"]

/-- What stands in a card behind its last step, if a card is open. -/
def cardEnd : (current : Option String) → Fragments
  | none => []
  | some _ => [.markup "</div></div>\n"]

/-- The steps that are left, when the card of `current` is open: a step of another group ends that
card and starts its own. -/
def stepsAfter (current : Option String) : List StepRecord → Fragments
  | [] => cardEnd current
  | record :: records =>
    (if current = some record.group then [] else cardEnd current ++ cardStart record.group) ++
      stepFragments record ++ stepsAfter (some record.group) records

/-- The steps in their order, in cards by their groups. -/
def stepSection (records : List StepRecord) : Fragments :=
  stepsAfter none records

/-- A section with a heading, left out when it has no items. -/
def listing (heading style : String) (items : List Fragments) : Fragments :=
  if items.isEmpty then []
  else
    [.markup ("<h2>" ++ heading ++ "</h2><div class=\"" ++ style ++ "\">")] ++ items.flatten ++
      [.markup "</div>"]

/-- The images. -/
def screenshotSection (paths : List String) : Fragments :=
  listing "Screenshots" "screenshots" <| paths.map fun path =>
    [.markup "<img src=\"", .shown path, .markup "\" alt=\"", .shown path,
      .markup "\" onclick=\"showScreenshot(this.src)\">"]

/-- A labelled entry of a section; `before` and `after` stand around the label. -/
def entry (before label after text : String) : Fragments :=
  [.markup ("<div class=\"log-entry\"><span class=\"log-type\">" ++ before), .shown label,
    .markup (after ++ "</span>"), .shown text, .markup "</div>"]

/-- The texts that were read from elements. -/
def extractionSection (extractions : List Extraction) : Fragments :=
  listing "Dados Extraídos" "extractions" <| extractions.map fun extraction =>
    entry "" extraction.label "" extraction.text

/-- The console messages. -/
def logSection (logs : List LogEntry) : Fragments :=
  listing "Logs do Console" "logs" <| logs.map fun log => entry "[" log.kind "]" log.text

/-! ## The page -/

/-- The page up to its body. -/
def pageHead (report : ReportDocument) : Fragments :=
  markupLine 0 "<!DOCTYPE html>" ++
  markupLine 0 "<html lang=\"pt-BR\">" ++
  markupLine 0 "<head>" ++
  markupLine 1 "<meta charset=\"UTF-8\">" ++
  markupLine 1 "<meta name=\"viewport\" content=\"width=device-width, initial-scale=1.0\">" ++
  line 1 [.markup "<title>Relatório de Testes - ", .shown report.title, .markup "</title>"] ++
  markupLine 1 "<style>" ++
  [.markup styleSheet] ++
  markupLine 1 "</style>" ++
  markupLine 0 "</head>"

/-- The heading of the page and the facts about the browser's page. -/
def overview (report : ReportDocument) : Fragments :=
  markupLine 2 "<header>" ++
  markupLine 3 "<div>" ++
  markupLine 4 "<h1>Relatório de Testes</h1>" ++
  markupLine 3 "</div>" ++
  markupLine 3 "<div style=\"text-align: right;\">" ++
  markupLine 4
    "<div style=\"font-size: 0.875rem; color: var(--text-secondary);\">Duração</div>" ++
  markupLine 4 ("<div style=\"font-size: 1.25rem; font-weight: 700;\">" ++
    duration report.durationMs.toNat ++ "</div>") ++
  markupLine 3 "</div>" ++
  markupLine 2 "</header>" ++
  emptyLine ++
  markupLine 2 "<div class=\"page-info\">" ++
  line 3 [.markup "<div>URL: ", .shown report.url, .markup "</div>"] ++
  line 3 [.markup "<div>Título: ", .shown report.title, .markup "</div>"] ++
  line 3 [.markup "<div>Data: ", .shown report.timestamp, .markup "</div>"] ++
  markupLine 2 "</div>"

/-- A box with a number or a word, and what it means. -/
def statistic (style : String) (value : Fragment) (label : String) : Fragments :=
  markupLine 3 ("<div class=\"stat " ++ style ++ "\">") ++
  line 4 [.markup "<div class=\"stat-value\">", value, .markup "</div>"] ++
  markupLine 4 ("<div class=\"stat-label\">" ++ label ++ "</div>") ++
  markupLine 3 "</div>"

/-- The outcome in numbers, with a bar that is as wide as the rate of passed steps. -/
def statistics (report : ReportDocument) (rate : Nat) : Fragments :=
  markupLine 2 "<div class=\"summary\">" ++
  statistic (if report.passed then "passed" else "failed") (.shown report.status) "Status" ++
  statistic "passed" (.markup (decimal report.successCount.toNat)) "Sucessos" ++
  statistic "failed" (.markup (decimal report.failureCount.toNat)) "Falhas" ++
  markupLine 2 "</div>" ++
  emptyLine ++
  markupLine 2 "<div class=\"progress-bar\">" ++
  markupLine 3
    ("<div class=\"progress-fill\" style=\"width: " ++ decimal rate ++ "%\"></div>") ++
  markupLine 2 "</div>"

/-- The steps and what was captured. -/
def sections (report : ReportDocument) : Fragments :=
  markupLine 2 "<h2>Passos Executados</h2>" ++
  line 2 (stepSection report.steps) ++
  line 2 (screenshotSection report.screenshots) ++
  line 2 (extractionSection report.extractions) ++
  line 2 (logSection report.logs)

/-- The end of the page: where the report comes from, and the enlarged image. -/
def closing (report : ReportDocument) : Fragments :=
  markupLine 2 "<div class=\"meta\">" ++
  line 3 [.markup "<span>Sessão: ", .shown report.sessionId, .markup "</span>"] ++
  line 3 [.markup "<span>Gerado em: ", .shown report.timestamp, .markup "</span>"] ++
  markupLine 2 "</div>" ++
  markupLine 1 "</div>" ++
  emptyLine ++
  markupLine 1 "<div id=\"modal\" onclick=\"this.classList.remove('active')\">" ++
  markupLine 2 "<img id=\"modal-img\" src=\"\" alt=\"Screenshot\">" ++
  markupLine 1 "</div>" ++
  emptyLine ++
  markupLine 1 "<script>" ++
  markupLine 2 "function showScreenshot(path) \x7b" ++
  markupLine 3 "document.getElementById('modal-img').src = path;" ++
  markupLine 3 "document.getElementById('modal').classList.add('active');" ++
  markupLine 2 "\x7d" ++
  markupLine 1 "</script>"

/-- The page from its body on. -/
def pageBody (report : ReportDocument) (rate : Nat) : Fragments :=
  markupLine 0 "<body>" ++
  markupLine 1 "<div class=\"container\">" ++
  overview report ++
  emptyLine ++
  statistics report rate ++
  emptyLine ++
  sections report ++
  emptyLine ++
  closing report ++
  markupLine 0 "</body>" ++
  [.markup "</html>"]

/-- The page of a report, with the rate of passed steps. -/
def page (report : ReportDocument) (rate : Nat) : Fragments :=
  pageHead report ++ pageBody report rate

/-- The page of a report, if the program gets as far as the rate of passed steps. -/
def page? (overflow : Overflow) (report : ReportDocument) : Option Fragments :=
  (passRate overflow report.successCount report.failureCount).map (page report)

end BrowserFlow.Report
