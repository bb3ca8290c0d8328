import BrowserFlow.Proofs.Session.Life

/-!
# How a run ends

Four things can go wrong in a run: the browser is lost in a step, the store does not keep the
report, and the browser fails when it is sent away, or any of these together. `Flow.Ends` says which
calls are then made at the end, in which order, and what the outcome is, in terms of what happened
and not of how it came about; `Flow.run_ends` says that every run that begins ends so.
-/

namespace BrowserFlow

open SessionOp

variable {W : Type} {rig : Rig W} {config : RunConfig}

namespace Flow

/-- The browser was lost in a call, for this reason. -/
def Loses (told : List Occurrence) (reason : String) : Prop :=
  ∃ c : Call, .called c (.error (.sessionLost reason)) ∈ told

/-- The report was kept. -/
def Keeps (told : List Occurrence) : Prop :=
  ∃ document format rendered path, .persisted document format rendered (.ok path) ∈ told

/-- How a run that begins in a stage ends, by what happened while its groups were run, what happened
then for the report, and what happened last to the browser. -/
structure Ends (rig : Rig W) (config : RunConfig) (store : Report.Store W) (text : String)
    (s : Stage W) (steps reporting closing : List Occurrence) : Prop where
  /-- While the groups were run, the steps were all that happened. -/
  groups_trace : ((Group.runAll rig config (Flow.read text)).reached (begun s text)).trace =
    (begun s text).trace ++ steps
  /-- Then the report comes, then the browser goes; nothing but a final event can follow. -/
  run_trace : ((run rig config store text).reached s).trace =
    (begun s text).trace ++ steps ++ reporting ++ closing ++
      (finishedEvents ((run rig config store text).result s)).map .emitted
  /-- No step sends the browser away. -/
  close_not_mem_steps : ∀ outcome, .called .close outcome ∉ steps
  /-- No step gives a report away. -/
  persisted_not_mem_steps : ∀ document format rendered kept,
    .persisted document format rendered kept ∉ steps
  /-- When the browser was lost, nothing is reported, and the loss is the outcome. -/
  of_lost : ∀ reason, Loses steps reason → reporting = [] ∧
    (run rig config store text).result s =
      .error (.sessionLost (BrowserError.sessionLost reason).message)
  /-- Otherwise, when the groups have been run and their duration has been noted, title and address
  are read once each, and one report is given away in which what could not be read is empty; only
  the store's failure is a failure then. What the store leaves of the world is what is left then. -/
  of_not_lost : (∀ reason, ¬ Loses steps reason) →
    let u := driven rig config (Flow.read text) (begun s text)
    let title := u.call rig .title
    let url := title.2.call rig .url
    ∃ document : ReportDocument,
      let outcome := kept rig store document config.reportFormat url.2
      reporting = [.called .title title.1, .called .url url.1,
        .persisted document config.reportFormat (document.render config.reportFormat) outcome] ++
          (savedEvents outcome).map .emitted ∧
      document.title = orEmpty title.1 ∧ document.url = orEmpty url.1 ∧
      (∀ e, outcome = .error e → (run rig config store text).result s = .error (.report e)) ∧
      ((drive rig config store (Flow.read text)).reached (begun s text)).world =
        keptWorld rig store document config.reportFormat url.2
  /-- The browser may be to stay open; then the session does as well, and the world stays as it is
  behind the report. -/
  of_keepOpen : config.keepOpen = true →
    closing = [] ∧ ((run rig config store text).reached s).session.closed = false ∧
      ((run rig config store text).reached s).world =
        ((drive rig config store (Flow.read text)).reached (begun s text)).world
  /-- Otherwise the browser is sent away once, behind the report, and the session is closed; nothing
  else happens to the world. -/
  of_not_keepOpen : config.keepOpen = false →
    let u := (drive rig config store (Flow.read text)).reached (begun s text)
    closing = [.called .close (u.call rig .close).1] ∧
      ((run rig config store text).reached s).session.closed = true ∧
      ((run rig config store text).reached s).world = (u.call rig .close).2.world
  /-- That sending the browser away failed is the outcome if nothing failed before. -/
  of_close_failure : ∀ e, .called .close (.error e) ∈ closing →
    (∀ reason, ¬ Loses steps reason) → Keeps reporting →
      (run rig config store text).result s = .error (.sessionLost e.message)
  /-- The run succeeds exactly if nothing failed. -/
  ok_iff : (∃ results, (run rig config store text).result s = .ok results) ↔
    (∀ reason, ¬ Loses steps reason) ∧ Keeps reporting ∧
      (config.keepOpen = true ∨ closing = [.called .close (.ok ())])

/-- The report is kept exactly if writing it does not fail. -/
theorem keeps_reportTold_iff (rig : Rig W) (config : RunConfig) (store : Report.Store W)
    (s : Stage W) :
    Keeps (reportTold rig config store s) ↔ reportOutcome rig config store s = .ok () := by
  unfold Keeps reportTold reportOutcome
  dsimp only
  cases kept rig store (reported rig config s) config.reportFormat (reporting rig s) with
  | ok path => simp [savedEvents]
  | error e => simp [savedEvents]

/-- Closing the session fails if the browser fails when it is sent away. -/
theorem closingOutcome_of_mem {s : Stage W} {e : BrowserError}
    (h : .called .close (.error e) ∈ closingTold rig s) :
    closingOutcome rig s = .error (.sessionLost e.message) := by
  simp only [closingTold, List.mem_singleton, Occurrence.called.injEq, heq_eq_eq, true_and] at h
  unfold closingOutcome
  rw [← h]

/-- Finishing does not fail exactly if the browser stays open or goes without a failure. -/
theorem Account.Describes.closing_ok_iff {account : Account rig config} {store : Report.Store W}
    {text : String} {s t : Stage W} {result : Except RunError Results}
    (h : account.Describes store text s t result) :
    account.closing.elim (.ok ()) (closingOutcome rig) = .ok () ↔
      config.keepOpen = true ∨
        account.closing.elim [] (closingTold rig) = [.called .close (.ok ())] := by
  cases hkeep : config.keepOpen with
  | true => simp [h.closing_eq_none hkeep]
  | false =>
    obtain ⟨v, hclosing⟩ := h.exists_closing hkeep
    rw [hclosing, Option.elim_some, Option.elim_some]
    unfold closingOutcome closingTold
    cases (v.close.call rig .close).1 <;> simp

/-- The browser is lost on a tour exactly if the tour is cut short. -/
theorem not_loses_told_iff (tour : Tour rig config) :
    (∀ reason, ¬ Loses tour.told reason) ↔ tour.outcome = .ok () := by
  constructor
  · intro h
    by_cases hout : tour.outcome = .ok ()
    · exact hout
    · obtain ⟨c, reason, hc⟩ := tour.exists_mem_told hout
      exact absurd ⟨c, hc⟩ (h reason)
  · rintro h reason ⟨c, hc⟩
    rw [tour.outcome_of_mem_told hc] at h
    cases h

/-- What is left of the world when the report has been written is what the store leaves of it. -/
theorem drive_world (rig : Rig W) (config : RunConfig) (store : Report.Store W)
    (groups : List Group) {s : Stage W}
    (ran : (Group.runAll rig config groups).result s = .ok ()) :
    ((drive rig config store groups).reached s).world =
      keptWorld rig store (reported rig config (driven rig config groups s)) config.reportFormat
        (reporting rig (driven rig config groups s)) := by
  have hdrive : drive rig config store groups s =
      writeReport rig config store (driven rig config groups s) := by
    rw [drive_apply, ran]
    rfl
  rw [reached_congr hdrive, reached, writeReport_apply, persist_apply]
  dsimp only
  cases kept rig store _ config.reportFormat (reporting rig (driven rig config groups s)) <;> rfl

/-- Of the world, a run leaves what is left when the browser has gone, if it goes. -/
theorem run_world (rig : Rig W) (config : RunConfig) (store : Report.Store W) (text : String)
    {s : Stage W} (isOpen : s.session.closed = false) (unused : s.session.used = false) :
    let u := (drive rig config store (Flow.read text)).reached (begun s text)
    ((run rig config store text).reached s).world =
      if config.keepOpen then u.world else (u.call rig .close).2.world := by
  intro u
  have uOpen : u.session.closed = false :=
    (drive_flags rig config store (Flow.read text) (begun s text)).2.trans isOpen
  rw [(run_spec rig config store text isOpen unused).2, finish_reached rig config uOpen]
  split <;> rfl

/-- Every run that begins ends so. -/
theorem run_ends (rig : Rig W) (config : RunConfig) (store : Report.Store W) (text : String)
    {s u : Stage W} (begins : claim s = .ok () u) :
    ∃ steps reporting closing, Ends rig config store text s steps reporting closing := by
  obtain ⟨isOpen, unused, -⟩ := of_claim_eq_ok begins
  obtain ⟨account, hreported, hclosed, h⟩ :=
    exists_account_driven rig config store text isOpen unused
  have hworld := run_world rig config store text isOpen unused
  have hlost := not_loses_told_iff account.tour
  refine ⟨account.tour.told, account.report.elim [] (reportTold rig config store),
    account.closing.elim [] (closingTold rig), ?_⟩
  exact {
    groups_trace := h.leads.advances.trace
    run_trace := by simpa only [Account.told, List.append_assoc] using h.trace
    close_not_mem_steps := account.tour.close_not_mem_told
    persisted_not_mem_steps := account.tour.persisted_not_mem_told
    of_lost := by
      rintro reason ⟨c, hc⟩
      have htour := account.tour.outcome_of_mem_told hc
      rw [h.report_eq_none htour]
      exact ⟨rfl, h.result_of_error (account.outcome_of_lost htour)⟩
    of_not_lost := by
      intro hkept
      -- The browser was not lost, so that there is a stage in which the report was written.
      have htour := hlost.mp hkept
      obtain ⟨v, hreport⟩ := h.exists_report htour
      rw [hreport]
      cases hreported v hreport
      refine ⟨reported rig config _, rfl, rfl, rfl, fun e he => ?_,
        drive_world rig config store _ (h.ran.trans htour)⟩
      have hfail : reportOutcome rig config store (driven rig config (Flow.read text)
          (begun s text)) = .error (.report e) := by
        unfold reportOutcome
        rw [reporting, he]
      exact h.result_of_error (account.outcome_of_not_kept htour hreport hfail)
    of_keepOpen := by
      intro hkeep
      rw [h.closing_eq_none hkeep, h.closed, hworld, hkeep]
      exact ⟨rfl, rfl, rfl⟩
    of_not_keepOpen := by
      intro hkeep
      obtain ⟨v, hclosing⟩ := h.exists_closing hkeep
      rw [hclosing, h.closed, hworld, hkeep, hclosed v hclosing]
      exact ⟨rfl, rfl, rfl⟩
    of_close_failure := by
      intro e he hkept hkeeps
      have htour := hlost.mp hkept
      obtain ⟨v, hreport⟩ := h.exists_report htour
      rw [hreport, Option.elim_some, keeps_reportTold_iff] at hkeeps
      have hout := account.outcome_of_kept htour hreport hkeeps
      cases hclosing : account.closing with
      | none => simp [hclosing] at he
      | some w =>
        rw [hclosing] at he hout
        exact h.result_of_error (hout.trans (closingOutcome_of_mem he))
    ok_iff := by
      rw [h.ok_iff, hlost, ← h.closing_ok_iff]
      -- The failures are taken in the order in which they count.
      cases htour : account.tour.outcome with
      | error e => simp [account.outcome_of_lost htour]
      | ok _ =>
        obtain ⟨v, hreport⟩ := h.exists_report htour
        rw [hreport, Option.elim_some, keeps_reportTold_iff]
        cases hkept : reportOutcome rig config store v with
        | error e => simp [account.outcome_of_not_kept htour hreport hkept]
        | ok _ => simp [account.outcome_of_kept htour hreport hkept] }

/-- On the scripted browser, a run in which a step fails ends well all the same. -/
theorem run_ends_interrupted :
    let config : RunConfig := { stopOnFailure := true }
    claim started = .ok () started.claim ∧
      ((run .scripted config (.directory "out") interrupted).result started).toOption.map
        (fun results => (results.successCount, results.failureCount)) = some (3, 1) ∧
      ∃ steps reporting closing,
        Ends .scripted config (.directory "out") interrupted started steps reporting closing := by
  intro config
  have begins : claim started = .ok () started.claim :=
    claim_apply (by decide +kernel) (by decide +kernel)
  exact ⟨begins, by decide +kernel,
    run_ends .scripted config (.directory "out") interrupted begins⟩

end Flow

end BrowserFlow
