import Mathlib.Data.List.Forall2
import BrowserFlow.Proofs.Report.Frame
import BrowserFlow.Proofs.Report.Runs
import BrowserFlow.Report.Render

/-!
# Texts of reports stay texts

No text of a report can become markup of its page. Two reports that differ only in their texts
(`ReportDocument.SameShape`) have pages with one frame and hence with the same delimiters in the
same order, and every text that a page shows stands in a place of the frame with its entities in
place of markup, from which it can be read back (`ReportDocument.pages_of_sameShape`).

The frame of a page depends on the groups of the records only through where they change: that
decides how the records are cut into cards (`forall₂_splitBy`).
-/

namespace BrowserFlow

open Report

/-! ## Shapes -/

/-- Two records that differ only in their texts. -/
structure StepRecord.SameShape (a b : StepRecord) : Prop where
  /-- The steps ended in the same way. -/
  status : a.status = b.status
  /-- They took the same time. -/
  durationMs : a.durationMs = b.durationMs
  /-- Both have an error or neither does. -/
  error : a.error.isSome = b.error.isSome

/-- For every record but the first, whether it is of the same group as the one before it. -/
def groupPattern (records : List StepRecord) : List Bool :=
  records.zipWith (fun a b => a.group == b.group) records.tail

/-- Two reports that differ only in their texts. -/
structure ReportDocument.SameShape (a b : ReportDocument) : Prop where
  successCount : a.successCount = b.successCount
  failureCount : a.failureCount = b.failureCount
  durationMs : a.durationMs = b.durationMs
  /-- Both passed or neither did. -/
  status : a.status = statusPassed ↔ b.status = statusPassed
  steps : List.Forall₂ StepRecord.SameShape a.steps b.steps
  /-- The group changes at the same records. -/
  groups : groupPattern a.steps = groupPattern b.steps
  screenshots : a.screenshots.length = b.screenshots.length
  extractions : a.extractions.length = b.extractions.length
  logs : a.logs.length = b.logs.length

/-! ## Shown texts -/

/-- The texts that a record shows in its card. -/
def StepRecord.shownTexts (record : StepRecord) : List String :=
  record.description :: record.error.toList

/-- The texts that a card shows. -/
def cardTexts : List StepRecord → List String
  | [] => []
  | record :: records => record.group :: (record :: records).flatMap StepRecord.shownTexts

/-- The texts that a page shows, in their order on the page. -/
def ReportDocument.shownTexts (report : ReportDocument) : List String :=
  [report.title, report.url, report.title, report.timestamp, report.status] ++
    (runs report.steps).flatMap cardTexts ++
    report.screenshots.flatMap (fun path => [path, path]) ++
    report.extractions.flatMap (fun extraction => [extraction.label, extraction.text]) ++
    report.logs.flatMap (fun log => [log.kind, log.text]) ++
    [report.sessionId, report.timestamp]

/-- The texts of a report that its page has to show. -/
inductive ReportDocument.Shows (report : ReportDocument) : String → Prop
  | title : Shows report report.title
  | url : Shows report report.url
  | timestamp : Shows report report.timestamp
  | status : Shows report report.status
  | sessionId : Shows report report.sessionId
  | group {step : StepRecord} : step ∈ report.steps → Shows report step.group
  | description {step : StepRecord} : step ∈ report.steps → Shows report step.description
  | error {step : StepRecord} {error : String} :
    step ∈ report.steps → step.error = some error → Shows report error
  | screenshot {path : String} : path ∈ report.screenshots → Shows report path
  | label {extraction : Extraction} :
    extraction ∈ report.extractions → Shows report extraction.label
  | text {extraction : Extraction} :
    extraction ∈ report.extractions → Shows report extraction.text
  | logKind {log : LogEntry} : log ∈ report.logs → Shows report log.kind
  | logText {log : LogEntry} : log ∈ report.logs → Shows report log.text

namespace Report

/-! ## Runs -/

section SplitBy

variable {α β : Type} {R : α → β → Prop} {r : α → α → Bool} {s : β → β → Bool}

/-- The loop that cuts a list keeps two lists related: an element joins the current run or starts
the next one in both. -/
theorem forall₂_splitBy_loop {as : List α} {bs : List β} (h : List.Forall₂ R as bs) :
    ∀ {a b run run' done done'}, R a b →
      (a :: as).zipWith r as = (b :: bs).zipWith s bs →
      List.Forall₂ R run run' → List.Forall₂ (List.Forall₂ R) done done' →
      List.Forall₂ (List.Forall₂ R) (List.splitBy.loop r as a run done)
        (List.splitBy.loop s bs b run' done') := by
  -- The induction is on what is still to be cut; the current run and the finished ones are
  -- arbitrary, because they grow from one step to the next.
  induction h with
  | nil =>
    intro a b run run' done done' hab _ hrun hdone
    exact List.rel_reverse (.cons (List.rel_reverse (.cons hab hrun)) hdone)
  | @cons c d as bs hcd _ ih =>
    intro a b run run' done done' hab hpattern hrun hdone
    obtain ⟨hsame, hrest⟩ := List.cons.inj hpattern
    simp only [List.splitBy.loop, hsame]
    cases s b d with
    | true => exact ih hcd hrest (.cons hab hrun) hdone
    | false => exact ih hcd hrest .nil (.cons (List.rel_reverse (.cons hab hrun)) hdone)

/-- Lists with related elements are cut at the same places if neighbours go together at the same
places. -/
theorem forall₂_splitBy {as : List α} {bs : List β} (h : List.Forall₂ R as bs)
    (hpattern : as.zipWith r as.tail = bs.zipWith s bs.tail) :
    List.Forall₂ (List.Forall₂ R) (as.splitBy r) (bs.splitBy s) := by
  cases h with
  | nil => exact .nil
  | cons hab htail => exact forall₂_splitBy_loop htail hab hpattern .nil .nil

end SplitBy

/-! ## Frames of the sections -/

open Fragments

theorem frame_stepFragments_eq {a b : StepRecord} (h : a.SameShape b) :
    frame (stepFragments a) = frame (stepFragments b) := by
  obtain ⟨group, description, status, durationMs, error, timestamp⟩ := a
  obtain ⟨group', description', status', durationMs', error', timestamp'⟩ := b
  obtain ⟨rfl, rfl, herror⟩ : status = status' ∧ durationMs = durationMs' ∧
    error.isSome = error'.isSome := ⟨h.status, h.durationMs, h.error⟩
  cases error <;> cases error' <;> simp_all [stepFragments]

theorem frame_card_eq {as bs : List StepRecord} (h : List.Forall₂ StepRecord.SameShape as bs) :
    frame (card as) = frame (card bs) := by
  cases h with
  | nil => rfl
  | @cons a b as bs hab htail =>
    have hsteps : frame ((a :: as).flatMap stepFragments) =
        frame ((b :: bs).flatMap stepFragments) :=
      frame_flatMap_eq stepFragments (fun _ _ => frame_stepFragments_eq) (.cons hab htail)
    simp only [card, frame_append, frame_markup, frame_shown, frame_nil, hsteps]

theorem frame_listing_eq {items items' : List Fragments} (h : items.map frame = items'.map frame)
    (heading style : String) :
    frame (listing heading style items) = frame (listing heading style items') := by
  have hempty : items.isEmpty = items'.isEmpty := by
    rw [← List.isEmpty_map (f := frame), h, List.isEmpty_map]
  rw [listing, listing, hempty]
  split
  · rfl
  · simp only [frame_append, frame_flatten, h]

theorem texts_stepFragments (record : StepRecord) :
    texts (stepFragments record) = record.shownTexts := by
  cases herror : record.error <;> simp [stepFragments, StepRecord.shownTexts, herror]

theorem texts_card (records : List StepRecord) : texts (card records) = cardTexts records := by
  cases records with
  | nil => rfl
  | cons record records =>
    simp [card, cardTexts, texts_flatMap, texts_stepFragments]

theorem texts_listing {α : Type} (heading style : String) (f : α → Fragments) (items : List α) :
    texts (listing heading style (items.map f)) = items.flatMap fun a => texts (f a) := by
  cases items with
  | nil => rfl
  | cons a items => simp [listing, texts_flatten, List.flatMap_def, Function.comp_def]

/-! ## Pages -/

theorem texts_page (report : ReportDocument) (rate : ℕ) :
    texts (page report rate) = report.shownTexts := by
  simp [page, pageHead, pageBody, overview, statistics, statistic, sections, closing,
    stepSection_eq, screenshotSection, extractionSection, logSection, entry, texts_flatMap,
    texts_card, texts_listing, ReportDocument.shownTexts]

theorem frame_page_eq {a b : ReportDocument} (h : a.SameShape b) (rate : ℕ) :
    frame (page a rate) = frame (page b rate) := by
  -- Apart from the shown texts, a page holds the numbers, whether the run passed, and the four
  -- sections, whose frames are compared one by one.
  have hpassed : a.passed = b.passed := by
    rw [Bool.eq_iff_iff]
    simpa [ReportDocument.passed] using h.status
  have hsteps : frame (stepSection a.steps) = frame (stepSection b.steps) := by
    rw [stepSection_eq, stepSection_eq]
    exact frame_flatMap_eq card (fun _ _ => frame_card_eq) (forall₂_splitBy h.steps h.groups)
  have hscreenshots : frame (screenshotSection a.screenshots) =
      frame (screenshotSection b.screenshots) :=
    frame_listing_eq (by simp [Function.comp_def, h.screenshots]) _ _
  have hextractions : frame (extractionSection a.extractions) =
      frame (extractionSection b.extractions) :=
    frame_listing_eq (by simp [entry, Function.comp_def, h.extractions]) _ _
  have hlogs : frame (logSection a.logs) = frame (logSection b.logs) :=
    frame_listing_eq (by simp [entry, Function.comp_def, h.logs]) _ _
  simp only [page, pageHead, pageBody, overview, statistics, statistic, sections, closing,
    frame_append, frame_line, frame_markup, frame_shown, frame_nil, h.successCount,
    h.failureCount, h.durationMs, hpassed, hsteps, hscreenshots, hextractions, hlogs]

end Report

/-! ## Places of the shown texts -/

namespace ReportDocument

variable {report : ReportDocument} {text : String}

theorem mem_shownTexts_iff : text ∈ report.shownTexts ↔
    text = report.title ∨ text = report.url ∨ text = report.timestamp ∨ text = report.status ∨
      text = report.sessionId ∨ (∃ run ∈ runs report.steps, text ∈ cardTexts run) ∨
      text ∈ report.screenshots ∨
      (∃ extraction ∈ report.extractions, text = extraction.label ∨ text = extraction.text) ∨
      ∃ log ∈ report.logs, text = log.kind ∨ text = log.text := by
  simp only [shownTexts, List.mem_append, List.mem_cons, List.mem_flatMap, List.not_mem_nil]
  grind

/-- A card shows the groups of its records and their own texts. -/
theorem mem_cardTexts {step : StepRecord} (hstep : step ∈ report.steps)
    (htext : text = step.group ∨ text ∈ step.shownTexts) :
    ∃ run ∈ runs report.steps, text ∈ cardTexts run := by
  obtain ⟨run, hrun, hmem⟩ : ∃ run ∈ runs report.steps, step ∈ run := by
    rwa [← List.mem_flatten, (isCut_runs report.steps).flatten_eq]
  refine ⟨run, hrun, ?_⟩
  cases run with
  | nil => exact absurd hmem List.not_mem_nil
  | cons first run =>
    rw [cardTexts, List.mem_cons, List.mem_flatMap]
    rcases htext with rfl | htext
    · exact .inl ((isCut_runs _).group_eq _ hrun _ hmem _ List.mem_cons_self)
    · exact .inr ⟨step, hmem, htext⟩

/-- Every text that a page has to show stands on it. -/
theorem Shows.mem_shownTexts (h : report.Shows text) : text ∈ report.shownTexts := by
  rw [mem_shownTexts_iff]
  cases h with
  | group hstep => simp [mem_cardTexts hstep (.inl rfl)]
  | @description step hstep =>
    have htext : step.description ∈ step.shownTexts := List.mem_cons_self
    simp [mem_cardTexts hstep (.inr htext)]
  | @error step error hstep herror =>
    have htext : text ∈ step.shownTexts := by simp [StepRecord.shownTexts, herror]
    simp [mem_cardTexts hstep (.inr htext)]
  | screenshot hpath => simp [hpath]
  | label | text | logKind | logText => grind
  | _ => simp

/-- Reports of one shape have pages of one frame, with their texts in its places and hence with the
same delimiters in the same order; and every text that has to be shown is among those texts, can be
read back from what stands for it, and lends the page no ampersand but those of entities. -/
theorem pages_of_sameShape {a b : ReportDocument} (h : a.SameShape b) :
    delimiters (a.render .html) = delimiters (b.render .html) ∧
      (∃ frame : Frame, frame.Filled (a.shownTexts.map escaped) (a.render .html) ∧
        frame.Filled (b.shownTexts.map escaped) (b.render .html)) ∧
      ∀ text, a.Shows text → text ∈ a.shownTexts ∧ OnlyEntities (escaped text).toList ∧
        unescape (escaped text).toList = text.toList := by
  have hrate : a.rate = b.rate := by rw [rate, rate, h.successCount, h.failureCount]
  have hframe := frame_page_eq h b.rate
  refine ⟨?_, ⟨Fragments.frame (page a b.rate), ?_, ?_⟩, fun text htext => ⟨htext.mem_shownTexts,
    onlyEntities_escaped text, unescape_escaped text⟩⟩
  · rw [render, render, hrate, Fragments.delimiters_render, Fragments.delimiters_render, hframe]
  · rw [render, hrate]
    exact texts_page a b.rate ▸ Fragments.filled (page a b.rate)
  · rw [hframe]
    exact texts_page b b.rate ▸ Fragments.filled (page b b.rate)

/-- A report of three steps in two groups, with one text nearly everywhere. -/
def filledWith (text : String) : ReportDocument where
  sessionId := text
  timestamp := text
  title := text
  url := text
  durationMs := 175
  status := text
  successCount := 2
  failureCount := 1
  steps := [⟨text, text, .success, 120, none, text⟩, ⟨text, text, .failure, 15, some text, text⟩,
    ⟨"Geral", text, .success, 40, none, text⟩]
  logs := [⟨text, text, text⟩]
  screenshots := [text]
  extractions := [⟨text, text⟩]

/-- A plain word and a script make reports of one shape, so that the page of the script has no more
markup than that of the word. -/
theorem pages_of_sameShape_script :
    (filledWith "Home").SameShape (filledWith "</title><script>alert('&lt;')</script>") ∧
      delimiters ((filledWith "Home").render .html) =
        delimiters ((filledWith "</title><script>alert('&lt;')</script>").render .html) := by
  have h : (filledWith "Home").SameShape (filledWith "</title><script>alert('&lt;')</script>") :=
    { successCount := rfl
      failureCount := rfl
      durationMs := rfl
      status := by decide
      steps := .cons ⟨rfl, rfl, rfl⟩ (.cons ⟨rfl, rfl, rfl⟩ (.cons ⟨rfl, rfl, rfl⟩ .nil))
      groups := by decide
      screenshots := rfl
      extractions := rfl
      logs := rfl }
  exact ⟨h, (pages_of_sameShape h).1⟩

end ReportDocument

end BrowserFlow
