import Mathlib.Data.List.Forall2
import BrowserFlow.Proofs.Report.Duration
import BrowserFlow.Proofs.Report.Frame
import BrowserFlow.Proofs.Report.Markup
import BrowserFlow.Proofs.Report.Runs
import BrowserFlow.Report.Render

/-!
# Cards of reports

The page of a report shows the steps in cards, one for every run of records with the same group.
`IsRow` and `IsCard` say what a reader sees in the row of a record and in the card of a run, and
`exists_cards` that the cards of the section are those of the runs. In particular every element that
is opened in a card is closed there, because the section is read without regard to how it was
written.
-/

namespace BrowserFlow

open Report Text

/-! ## What rows and cards look like -/

namespace Report

/-- The sign for how a step ended. -/
def sign : StepStatus → String
  | .success => "✓"
  | .failure => "✗"

/-- What the row of a step is marked as. -/
def mark : StepStatus → String
  | .success => "passed"
  | .failure => "failed"

/-- A node is the row of a record: it is marked by the status, it shows description and duration,
and there is an error box exactly if there is an error. -/
def IsRow (record : StepRecord) (row : Node) : Prop :=
  ∃ icon content name time boxes,
    Encloses "div" ("class=\"step " ++ mark record.status ++ "\"") [icon, content] row ∧
    IsBox "div" "class=\"step-icon\"" (sign record.status) icon ∧
    Encloses "div" "class=\"step-content\"" (name :: time :: boxes) content ∧
    IsBox "div" "class=\"step-name\"" record.description name ∧
    IsBox "span" "class=\"duration\"" (duration record.durationMs.toNat) time ∧
    List.Forall₂ (IsBox "div" "class=\"error-message\"") record.error.toList boxes

/-- A node is the card of some records of a group: it is headed by the name of the group, and
contains the rows of the records, in order, and nothing else. -/
structure IsCard (group : String) (records : List StepRecord) (card : Node) : Prop where
  /-- There is a record. -/
  ne_nil : records ≠ []
  /-- The records are of the group. -/
  group_eq : ∀ record ∈ records, record.group = group
  /-- The card shows the group and the records. -/
  shows : ∃ header steps rows,
    Encloses "div" "class=\"group\"" [header, steps] card ∧
    IsBox "div" "class=\"group-header\"" group header ∧
    Encloses "div" "class=\"steps\"" rows steps ∧
    List.Forall₂ IsRow records rows

/-! ## Rendering -/

open Fragments

/-- The blanks in front of a line. -/
def indent (depth : ℕ) : String :=
  "".pushn ' ' (4 * depth)

/-- A text on a line of its own, behind others. -/
def below (depth : ℕ) (s : String) : String :=
  "\n" ++ indent depth ++ s

theorem render_nil : render [] = "" := rfl

theorem render_append (a b : Fragments) : render (a ++ b) = render a ++ render b := by
  induction a with
  | nil => simp [render]
  | cons fragment a ih => rw [List.cons_append, render_cons, render_cons, ih, String.append_assoc]

theorem render_line (depth : ℕ) (content : Fragments) :
    render (line depth content) = indent depth ++ render content ++ "\n" := by
  rw [line, render_append, render_cons]
  rfl

theorem render_markupLine (depth : ℕ) (text : String) :
    render (markupLine depth text) = indent depth ++ text ++ "\n" :=
  render_line depth [.markup text]

/-- The error box of a record, if it has an error. -/
def errorBox (record : StepRecord) : String :=
  record.error.elim "" fun error => tagged "div" "class=\"error-message\"" (escaped error)

/-- A row with what it says about its record. -/
theorem stepFragments_eq (record : StepRecord) :
    stepFragments record =
      emptyLine ++
      markupLine 4 ("<div class=\"step " ++ mark record.status ++ "\">") ++
      markupLine 5 ("<div class=\"step-icon\">" ++ sign record.status ++ "</div>") ++
      markupLine 5 "<div class=\"step-content\">" ++
      line 6 [.markup "<div class=\"step-name\">", .shown record.description, .markup "</div>"] ++
      markupLine 6 ("<span class=\"duration\">" ++ duration record.durationMs.toNat ++ "</span>") ++
      line 6 (record.error.elim [] fun error =>
        [.markup "<div class=\"error-message\">", .shown error, .markup "</div>"]) ++
      markupLine 5 "</div>" ++
      [.markup "                </div>"] := by
  obtain ⟨group, description, status, ms, error, timestamp⟩ := record
  cases status <;> cases error <;> rfl

/-- A row is written as elements in elements. -/
theorem render_stepFragments (record : StepRecord) :
    render (stepFragments record) =
      below 4 (tagged "div" ("class=\"step " ++ mark record.status ++ "\"")
        (below 5 (tagged "div" "class=\"step-icon\"" (sign record.status)) ++
          below 5 (tagged "div" "class=\"step-content\""
            (below 6 (tagged "div" "class=\"step-name\"" (escaped record.description)) ++
              below 6 (tagged "span" "class=\"duration\"" (duration record.durationMs.toNat)) ++
              below 6 (errorBox record) ++
              below 5 "")) ++
          below 4 "")) := by
  -- The fragments hold their tags as texts, which are computed here once each.
  have hstep : openTag "div" ("class=\"step " ++ mark record.status ++ "\"") =
      "<div class=\"step " ++ mark record.status ++ "\">" := by
    cases record.status <;> decide
  have hicon : openTag "div" "class=\"step-icon\"" = "<div class=\"step-icon\">" := by decide
  have hcontent : openTag "div" "class=\"step-content\"" = "<div class=\"step-content\">" := by
    decide
  have hname : openTag "div" "class=\"step-name\"" = "<div class=\"step-name\">" := by decide
  have htime : openTag "span" "class=\"duration\"" = "<span class=\"duration\">" := by decide
  have hclose : closeTag "div" = "</div>" := by decide
  have hclose' : closeTag "span" = "</span>" := by decide
  have hlast : "                </div>" = indent 4 ++ "</div>" := by decide
  have herror : render (record.error.elim [] fun error =>
      [.markup "<div class=\"error-message\">", .shown error, .markup "</div>"]) =
      errorBox record := by
    have herror : openTag "div" "class=\"error-message\"" = "<div class=\"error-message\">" := by
      decide
    unfold errorBox
    cases record.error with
    | none => rfl
    | some error =>
      simp only [Option.elim_some, tagged, herror, hclose, render_cons, String.append_assoc]
      rfl
  simp only [stepFragments_eq, render_append, render_markupLine, render_line, herror, below, tagged,
    hstep, hicon, hcontent, hname, htime, hclose, hclose', hlast]
  simp only [render_cons, render_nil, emptyLine, Fragment.render, escaped, String.append_assoc,
    String.append_empty]

/-- A card is written as elements in elements. -/
theorem render_card (first : StepRecord) (rest : List StepRecord) :
    render (card (first :: rest)) = tagged "div" "class=\"group\""
      (tagged "div" "class=\"group-header\"" (escaped first.group) ++
        tagged "div" "class=\"steps\"" (render ((first :: rest).flatMap stepFragments))) ++ "\n" := by
  have hopen : "<div class=\"group\"><div class=\"group-header\">" =
      openTag "div" "class=\"group\"" ++ openTag "div" "class=\"group-header\"" := by decide
  have hsteps : "</div><div class=\"steps\">" =
      closeTag "div" ++ openTag "div" "class=\"steps\"" := by decide
  have hclose : "</div></div>\n" = closeTag "div" ++ closeTag "div" ++ "\n" := by decide
  simp only [card, render_append, hopen, hsteps, hclose, tagged]
  simp only [render_cons, render_nil, Fragment.render, escaped, String.append_assoc,
    String.append_empty]

/-! ## Reading -/

/-- All characters in front of a line are blanks. -/
theorem isBlank_of_mem_indent {depth : ℕ} {c : Char} (h : c ∈ (indent depth).toList) :
    isBlank c = true := by
  unfold indent at h
  generalize 4 * depth = n at h
  induction n with
  | zero => cases h
  | succ n ih =>
    have hpush : ("".pushn ' ' (n + 1)).toList = ("".pushn ' ' n).toList ++ [' '] :=
      String.toList_push ' '
    rw [hpush, List.mem_append, List.mem_singleton] at h
    rcases h with h | rfl
    · exact ih h
    · decide

/-- A text on a line of its own is markup of the same elements. -/
theorem Contains.below {s : String} {elements : List Node} (h : Contains s elements) (depth : ℕ) :
    Contains (Report.below depth s) elements := by
  have hindent : Contains (indent depth) [] := .blank fun _ hc => isBlank_of_mem_indent hc
  exact (Contains.lineFeed.append hindent).append h

/-- Elements that are written one after the other are read one after the other. -/
theorem contains_flatMap {α : Type} {R : α → Node → Prop} {f : α → Fragments} {items : List α}
    (h : ∀ a ∈ items, ∃ node, Contains (render (f a)) [node] ∧ R a node) :
    ∃ nodes, Contains (render (items.flatMap f)) nodes ∧ List.Forall₂ R items nodes := by
  induction items with
  | nil => exact ⟨[], Contains.nil, .nil⟩
  | cons a items ih =>
    rw [List.forall_mem_cons] at h
    obtain ⟨node, hnode, hr⟩ := h.1
    obtain ⟨nodes, hnodes, hrs⟩ := ih h.2
    rw [List.flatMap_cons, render_append]
    exact ⟨node :: nodes, hnode.append hnodes, .cons hr hrs⟩

/-- The error box of a record is read as one, if there is one. -/
theorem contains_errorBox (record : StepRecord) :
    ∃ boxes, Contains (errorBox record) boxes ∧
      List.Forall₂ (IsBox "div" "class=\"error-message\"") record.error.toList boxes := by
  unfold errorBox
  cases record.error with
  | none => exact ⟨[], Contains.nil, .nil⟩
  | some error =>
    obtain ⟨box, hbox, his⟩ := Contains.box
      (show IsTag "div" "class=\"error-message\"" by decide) (writes_escaped error)
    exact ⟨[box], hbox, .cons his .nil⟩

/-- The row of a record is read as one. -/
theorem contains_stepFragments (record : StepRecord) :
    ∃ row, Contains (render (stepFragments record)) [row] ∧ IsRow record row := by
  have hsign : Writes (sign record.status) (sign record.status) := by
    cases record.status <;> exact writes_self (by decide) (by decide)
  have hduration : Writes (duration record.durationMs.toNat) (duration record.durationMs.toNat) :=
    writes_self (not_mem_duration (by decide) (by decide) _)
      (not_mem_duration (by decide) (by decide) _)
  have hmark : IsTag "div" ("class=\"step " ++ mark record.status ++ "\"") := by
    cases record.status <;> decide
  -- From the inside out: every box is read before the one around it.
  obtain ⟨icon, hicon, hiconIs⟩ :=
    Contains.box (show IsTag "div" "class=\"step-icon\"" by decide) hsign
  obtain ⟨name, hname, hnameIs⟩ := Contains.box
    (show IsTag "div" "class=\"step-name\"" by decide) (writes_escaped record.description)
  obtain ⟨time, htime, htimeIs⟩ :=
    Contains.box (show IsTag "span" "class=\"duration\"" by decide) hduration
  obtain ⟨boxes, hboxes, hboxesAre⟩ := contains_errorBox record
  obtain ⟨content, hcontent, hcontentIs⟩ := Contains.enclosed
    (show IsTag "div" "class=\"step-content\"" by decide)
    ((((hname.below 6).append (htime.below 6)).append (hboxes.below 6)).append (Contains.nil.below 5))
  obtain ⟨row, hrow, hrowIs⟩ := Contains.enclosed hmark
    (((hicon.below 5).append (hcontent.below 5)).append (Contains.nil.below 4))
  rw [List.append_nil] at hcontentIs hrowIs
  refine ⟨row, ?_, icon, content, name, time, boxes, hrowIs, hiconIs, hcontentIs, hnameIs, htimeIs,
    hboxesAre⟩
  rw [render_stepFragments]
  exact hrow.below 4

/-- The card of some records is read as one, if they are of one group. -/
theorem contains_card {records : List StepRecord} {group : String} (hne : records ≠ [])
    (hgroup : ∀ record ∈ records, record.group = group) :
    ∃ node, Contains (render (card records)) [node] ∧ IsCard group records node := by
  obtain ⟨first, rest, rfl⟩ := List.exists_cons_of_ne_nil hne
  obtain ⟨header, hheader, hheaderIs⟩ := Contains.box
    (show IsTag "div" "class=\"group-header\"" by decide) (writes_escaped first.group)
  obtain ⟨rows, hrows, hrowsAre⟩ := contains_flatMap (f := stepFragments)
    fun record (_ : record ∈ first :: rest) => contains_stepFragments record
  obtain ⟨steps, hsteps, hstepsIs⟩ := Contains.enclosed
    (show IsTag "div" "class=\"steps\"" by decide) hrows
  obtain ⟨node, hnode, hnodeIs⟩ := Contains.enclosed
    (show IsTag "div" "class=\"group\"" by decide) (hheader.append hsteps)
  -- The header shows the group of the first step, which all of the run share.
  rw [hgroup first List.mem_cons_self] at hheaderIs
  refine ⟨node, ?_, hne, hgroup, header, steps, rows, hnodeIs, hheaderIs, hstepsIs, hrowsAre⟩
  rw [render_card]
  exact hnode.append .lineFeed

/-! ## The section -/

/-- What a reader finds in the section of some records: these elements, and nothing else. -/
def Finds (records : List StepRecord) (cards : List Node) : Prop :=
  ∃ nodes, nodes? (render (stepSection records)) = some nodes ∧ Holds nodes cards

/-- The section consists of the cards of the runs. -/
theorem exists_cards (records : List StepRecord) :
    ∃ cut cards, IsCut records cut ∧ Finds records cards ∧
      List.Forall₂ (fun run card => ∃ group, IsCard group run card) cut cards := by
  have hcut := isCut_runs records
  obtain ⟨cards, hcards, hare⟩ := contains_flatMap (f := card)
    (R := fun run card => ∃ group, IsCard group run card) fun run (hrun : run ∈ runs records) => by
      obtain ⟨first, hfirst⟩ := List.exists_mem_of_ne_nil run (hcut.ne_nil run hrun)
      obtain ⟨node, hnode, his⟩ := contains_card (hcut.ne_nil run hrun)
        fun record hrecord => hcut.group_eq run hrun record hrecord first hfirst
      exact ⟨node, hnode, first.group, his⟩
  rw [← stepSection_eq] at hcards
  exact ⟨runs records, cards, hcut, hcards.exists_nodes, hare⟩

/-- What stands on a page before the section of the steps. -/
def beforeSteps (report : ReportDocument) : Fragments :=
  pageHead report ++ (markupLine 0 "<body>" ++ (markupLine 1 "<div class=\"container\">" ++
    (overview report ++ (emptyLine ++ (statistics report report.rate ++ (emptyLine ++
      (markupLine 2 "<h2>Passos Executados</h2>" ++ [.markup ("".pushn ' ' (4 * 2))])))))))

/-- What stands behind it. -/
def afterSteps (report : ReportDocument) : Fragments :=
  .markup "\n" :: (line 2 (screenshotSection report.screenshots) ++
    (line 2 (extractionSection report.extractions) ++ (line 2 (logSection report.logs) ++
      (emptyLine ++ (closing report ++ (markupLine 0 "</body>" ++ [.markup "</html>"]))))))

/-- Only the section of the steps depends on the records. -/
theorem exists_render_html (report : ReportDocument) :
    ∃ before after, ∀ steps,
      { report with steps := steps }.render .html =
        before ++ render (stepSection steps) ++ after := by
  refine ⟨render (beforeSteps report), render (afterSteps report), fun steps => ?_⟩
  have hpage : page { report with steps := steps } report.rate =
      beforeSteps report ++ stepSection steps ++ afterSteps report := by
    simp only [page, pageBody, sections, line, beforeSteps, afterSteps, List.append_assoc,
      List.cons_append, List.nil_append]
    rfl
  change render (page { report with steps := steps } report.rate) = _
  rw [hpage, render_append, render_append]

end Report

end BrowserFlow
