import BrowserFlow.Browser.Scripted
import BrowserFlow.Proofs.Session.Story

/-!
# Accounts of runs

What a run does around its groups: it claims the session, notes how long the groups took, writes the
report unless the browser was lost, and closes the session unless the browser is to stay open. Each
of these has one equation or one specification here.

An account puts them together: the tour through the groups, the stage in which the report was
written, and the stage in which the browser was sent away. `Flow.exists_account` says that every run
that begins has an account, from which everything it did and its outcome can be read off.
-/

namespace BrowserFlow

open SessionOp

variable {W : Type}

namespace Stage

/-- The stage in which the session has been claimed. -/
def claim (s : Stage W) : Stage W :=
  { s with session := { s.session with used := true } }

/-- The stage in which the duration of a run is noted that began at this time. -/
def time (s : Stage W) (start : Nat) : Stage W :=
  { s with session := s.session.setDuration (UInt64.ofNat (s.elapsed - start)) }

/-- The stage in which the session has been closed. -/
def close (s : Stage W) : Stage W :=
  { s with session := { s.session with closed := true } }

end Stage

namespace SessionOp

/-- An open session is not refused. -/
theorem ensureOpen_apply {s : Stage W} (isOpen : s.session.closed = false) :
    ensureOpen s = .ok () s := by
  simp [ensureOpen, bind_apply, get_apply, pure_apply, isOpen]

/-- A session that is open and unused can be claimed. -/
theorem claim_apply {s : Stage W} (isOpen : s.session.closed = false)
    (unused : s.session.used = false) : claim s = .ok () s.claim := by
  simp [claim, bind_apply, get_apply, ensureOpen_apply isOpen, unused, update_apply, Stage.claim]

/-- A session that could be claimed was open and unused. -/
theorem of_claim_eq_ok {s t : Stage W} (h : claim s = .ok () t) :
    s.session.closed = false ∧ s.session.used = false ∧ t = s.claim := by
  have isOpen : s.session.closed = false := by
    cases closed : s.session.closed with
    | false => rfl
    | true => simp [claim, ensureOpen, bind_apply, get_apply, throw_apply, closed] at h
  have unused : s.session.used = false := by
    cases used : s.session.used with
    | false => rfl
    | true => simp [claim, ensureOpen_apply isOpen, bind_apply, get_apply, throw_apply, used] at h
  rw [claim_apply isOpen unused] at h
  exact ⟨isOpen, unused, (EStateM.Result.ok.inj h).2.symm⟩

/-- An open session is closed whatever the browser answers. -/
theorem close_apply (rig : Rig W) {s : Stage W} (isOpen : s.session.closed = false) :
    close rig s = match s.close.call rig .close with
      | (.ok _, t) => .ok () t
      | (.error e, t) => .error (.sessionLost e.message) t := by
  simp only [close, bind_apply, get_apply, isOpen, Bool.false_eq_true, if_false, update_apply,
    attempt_apply]
  rw [show { s with session := { s.session with closed := true } } = s.close from rfl]
  rcases s.close.call rig .close with ⟨_ | _, t⟩ <;> rfl

end SessionOp

namespace Flow

/-- What the browser told, or nothing if it failed. -/
def orEmpty (outcome : Except BrowserError String) : String :=
  match outcome with
  | .ok text => text
  | .error _ => ""

/-- The browser is asked once for what it is to tell, and its failing is no failure. -/
theorem tellOrEmpty_apply (rig : Rig W) (c : Call) (text : c.Answer → String) (s : Stage W) :
    tellOrEmpty rig c text s =
      .ok (orEmpty ((s.call rig c).1.map text)) (s.call rig c).2 := by
  simp only [tellOrEmpty, bind_apply, attempt_apply]
  rcases s.call rig c with ⟨_ | _, t⟩ <;> rfl

/-- The stage in which the report is made: the browser has told the title and the address. -/
def reporting (rig : Rig W) (s : Stage W) : Stage W :=
  ((s.call rig .title).2.call rig .url).2

/-- The report of a run. -/
def reported (rig : Rig W) (config : RunConfig) (s : Stage W) : ReportDocument :=
  report config (reporting rig s).session (orEmpty (s.call rig .title).1)
    (orEmpty ((s.call rig .title).2.call rig .url).1) (rig.clock (reporting rig s).elapsed)

/-- What the store makes of a report. -/
def kept (rig : Rig W) (store : Report.Store W) (document : ReportDocument) (format : ReportFormat)
    (s : Stage W) : Except ErrorChain Path :=
  match store document format (document.render format) (rig.clock s.elapsed) s.world with
  | .ok path _ => .ok path
  | .error e _ => .error e

/-- The world after the store has been given a report. -/
def keptWorld (rig : Rig W) (store : Report.Store W) (document : ReportDocument)
    (format : ReportFormat) (s : Stage W) : W :=
  match store document format (document.render format) (rig.clock s.elapsed) s.world with
  | .ok _ world => world
  | .error _ world => world

/-- A report is given away once, what becomes of it is noted, and the world may change. -/
theorem persist_apply (rig : Rig W) (store : Report.Store W) (document : ReportDocument)
    (format : ReportFormat) (s : Stage W) :
    persist rig store document format s =
      let outcome := kept rig store document format s
      let t := { s with world := keptWorld rig store document format s }.note
        (.persisted document format (document.render format) outcome)
      match outcome with
      | .ok path => .ok path t
      | .error e => .error (.report e) t := by
  unfold persist kept keptWorld
  dsimp only
  cases store document format (document.render format) (rig.clock s.elapsed) s.world <;> rfl

/-- The report of a run is given away once, and that fails exactly if the store does. -/
theorem persist_spec (rig : Rig W) (store : Report.Store W) (document : ReportDocument)
    (format : ReportFormat) (s : Stage W) :
    (persist rig store document format).result s =
        (kept rig store document format s).mapError .report ∧
      s.Advances ((persist rig store document format).reached s)
        [.persisted document format (document.render format) (kept rig store document format s)]
        [] := by
  unfold result reached
  rw [persist_apply]
  dsimp only
  cases kept rig store document format s <;> exact ⟨rfl, rfl, rfl, rfl, rfl, rfl⟩

/-- The event that the report was kept, if it was. -/
def savedEvents : Except ErrorChain Path → List Event
  | .ok path => [.reportSaved path]
  | .error _ => []

/-- What happens when the report is written in a stage. -/
def reportTold (rig : Rig W) (config : RunConfig) (store : Report.Store W) (s : Stage W) :
    List Occurrence :=
  let document := reported rig config s
  let outcome := kept rig store document config.reportFormat (reporting rig s)
  [.called .title (s.call rig .title).1, .called .url ((s.call rig .title).2.call rig .url).1,
    .persisted document config.reportFormat (document.render config.reportFormat) outcome] ++
    (savedEvents outcome).map .emitted

/-- How writing the report in a stage ends. -/
def reportOutcome (rig : Rig W) (config : RunConfig) (store : Report.Store W) (s : Stage W) :
    Except RunError Unit :=
  match kept rig store (reported rig config s) config.reportFormat (reporting rig s) with
  | .ok _ => .ok ()
  | .error e => .error (.report e)

/-- Writing the report asks for the title and the address and gives the report away, and what is
left to do then is to tell that it was kept. -/
theorem writeReport_apply (rig : Rig W) (config : RunConfig) (store : Report.Store W)
    (s : Stage W) : writeReport rig config store s =
      match persist rig store (reported rig config s) config.reportFormat (reporting rig s) with
      | .ok path t => .ok () (t.emit (.reportSaved path))
      | .error e t => .error e t := by
  simp only [writeReport, bind_apply, tellOrEmpty_apply, get_apply, now_apply, Except.map_id, id]
  unfold reported reporting
  cases persist rig store _ _ ((s.call rig .title).2.call rig .url).2 <;> rfl

/-- Writing the report tells what happens then, and fails exactly if the store does. -/
theorem writeReport_spec (rig : Rig W) (config : RunConfig) (store : Report.Store W) (s : Stage W) :
    (writeReport rig config store).result s = reportOutcome rig config store s ∧
      s.Advances ((writeReport rig config store).reached s) (reportTold rig config store s) [] := by
  have hcalls := (s.call_advances rig .title).trans ((s.call rig .title).2.call_advances rig .url)
  have hwrite := writeReport_apply rig config store s
  -- The store's answer decides both how this ends and whether there is an event at the end.
  have hpersist := persist_spec rig store (reported rig config s) config.reportFormat
    (reporting rig s)
  simp only [reportTold, reportOutcome]
  generalize kept rig store (reported rig config s) config.reportFormat (reporting rig s) = outcome
    at hpersist ⊢
  rcases hp : persist rig store (reported rig config s) config.reportFormat (reporting rig s) with
    ⟨path, t⟩ | ⟨e, t⟩
  all_goals
    simp only [hp] at hwrite
    simp only [result, reached, hp, hwrite] at hpersist ⊢
    obtain ⟨hres, hadv⟩ := hpersist
    cases outcome <;> cases hres
  · exact ⟨rfl, (hcalls.trans hadv).trans (t.emit_advances _)⟩
  · exact ⟨rfl, hcalls.trans hadv⟩

/-- Of the session, writing the report changes only what is heard while the browser is asked. -/
theorem writeReport_session (rig : Rig W) (config : RunConfig) (store : Report.Store W)
    (s : Stage W) :
    ((writeReport rig config store).reached s).session = (reporting rig s).session := by
  rw [reached, writeReport_apply, persist_apply]
  dsimp only
  cases kept rig store (reported rig config s) config.reportFormat (reporting rig s) <;> rfl

/-- Running groups and writing the report: the duration is noted in any case, the report is written
unless the browser was lost. -/
theorem drive_apply (rig : Rig W) (config : RunConfig) (store : Report.Store W)
    (groups : List Group) (s : Stage W) :
    drive rig config store groups s =
      let t := ((Group.runAll rig config groups).reached s).time s.elapsed
      match (Group.runAll rig config groups).result s with
      | .ok _ => writeReport rig config store t
      | .error e => .error e t := by
  simp only [drive, bind_apply, elapsed_apply, outcomeOf_apply, since_apply, update_apply]
  cases (Group.runAll rig config groups).result s <;> rfl

/-- What happens when the browser is sent away in a stage. -/
def closingTold (rig : Rig W) (s : Stage W) : List Occurrence :=
  [.called .close (s.close.call rig .close).1]

/-- How sending the browser away in a stage ends. -/
def closingOutcome (rig : Rig W) (s : Stage W) : Except RunError Unit :=
  match (s.close.call rig .close).1 with
  | .ok _ => .ok ()
  | .error e => .error (.sessionLost e.message)

/-- Finishing sends the browser away and closes the session, unless the browser is to stay open. -/
theorem finish_apply (rig : Rig W) (config : RunConfig) {s : Stage W}
    (isOpen : s.session.closed = false) :
    finish rig config s =
      if config.keepOpen then .ok () s
      else match closingOutcome rig s with
        | .ok _ => .ok () (s.close.call rig .close).2
        | .error e => .error e (s.close.call rig .close).2 := by
  unfold finish closingOutcome
  split
  · rfl
  · rw [close_apply rig isOpen]
    rcases s.close.call rig .close with ⟨_ | _, t⟩ <;> rfl

/-- The first stage of a run: the session is claimed, and the run has said what is ahead. -/
def begun (s : Stage W) (text : String) : Stage W :=
  s.claim.emit (.runStarted s.session.id (Flow.read text).length (stepCount (Flow.read text)))

/-- What a run tells at its end, if it succeeds. -/
def finishedEvents : Except RunError Results → List Event
  | .ok results =>
    [.runFinished results.successCount results.failureCount results.totalDurationMs]
  | .error _ => []

/-- A run that begins executes the groups, writes the report and finishes; the first failure is its
outcome. -/
theorem run_apply (rig : Rig W) (config : RunConfig) (store : Report.Store W) (text : String)
    {s : Stage W} (isOpen : s.session.closed = false) (unused : s.session.used = false) :
    run rig config store text s =
      let driven := drive rig config store (Flow.read text)
      let t := driven.reached (begun s text)
      let u := (finish rig config).reached t
      match driven.result (begun s text), (finish rig config).result t with
      | .error e, _ => .error e u
      | .ok _, .error e => .error e u
      | .ok _, .ok _ => .ok u.session.results (u.emit (.runFinished u.session.results.successCount
          u.session.results.failureCount u.session.results.totalDurationMs)) := by
  simp only [run, bind_apply, claim_apply isOpen unused, get_apply, emit_apply, outcomeOf_apply]
  rw [show (s.claim.emit (.runStarted s.claim.session.id _ _)) = begun s text from rfl]
  cases (drive rig config store (Flow.read text)).result (begun s text) with
  | error e => rfl
  | ok _ => cases (finish rig config).result _ <;> rfl

variable {rig : Rig W} {config : RunConfig}

/-- A tour is what running the groups of a flow was in a run that began in a stage. -/
structure Toured (text : String) (s : Stage W) (tour : Tour rig config) : Prop where
  /-- The tour covers the groups of the flow. -/
  covers : tour.Covers (Flow.read text)
  /-- The tour took place when the groups were run. -/
  leads : tour.Leads (begun s text)
    ((Group.runAll rig config (Flow.read text)).reached (begun s text))
  /-- Running the groups fails exactly if the tour was cut short. -/
  ran : (Group.runAll rig config (Flow.read text)).result (begun s text) = tour.outcome

/-- What is to be said about a run that began. -/
structure Account (rig : Rig W) (config : RunConfig) where
  /-- The tour through the groups. -/
  tour : Tour rig config
  /-- The stage in which the report was written, unless the browser was lost. -/
  report : Option (Stage W)
  /-- The stage in which the browser was sent away, unless it was to stay open. -/
  closing : Option (Stage W)

namespace Account

/-- Everything that happened between the first and the last event of the run. -/
def told (account : Account rig config) (store : Report.Store W) : List Occurrence :=
  account.tour.told ++ account.report.elim [] (reportTold rig config store) ++
    account.closing.elim [] (closingTold rig)

/-- Everything that happened in a run that began in a stage and ended with this result. -/
def history (account : Account rig config) (store : Report.Store W) (text : String) (s : Stage W)
    (result : Except RunError Results) : List Occurrence :=
  .emitted (.runStarted s.session.id (Flow.read text).length (stepCount (Flow.read text))) ::
    account.told store ++ (finishedEvents result).map .emitted

/-- The first failure in the run, if there is one. -/
def outcome (account : Account rig config) (store : Report.Store W) : Except RunError Unit :=
  match account.tour.outcome, account.report.elim (.ok ()) (reportOutcome rig config store) with
  | .error e, _ => .error e
  | .ok _, .error e => .error e
  | .ok _, .ok _ => account.closing.elim (.ok ()) (closingOutcome rig)

/-- The account is true of a run that led from one stage to another with this result. -/
structure Describes (account : Account rig config) (store : Report.Store W) (text : String)
    (s t : Stage W) (result : Except RunError Results) : Prop
    extends Toured text s account.tour where
  /-- The report was written unless the browser was lost. -/
  report_isSome : account.report.isSome = true ↔ account.tour.outcome = .ok ()
  /-- The browser was sent away unless it was to stay open. -/
  closing_isSome : account.closing.isSome = !config.keepOpen
  /-- What was noted is what the account tells. -/
  trace : t.trace = (begun s text).trace ++ account.told store ++
    (finishedEvents result).map .emitted
  /-- The results are those from before with the records of the tour, and with a duration. -/
  results : ∃ ms, t.session.results =
    { account.tour.records.foldl Results.record s.session.results with totalDurationMs := ms }
  /-- The session was closed unless the browser was to stay open. -/
  closed : t.session.closed = !config.keepOpen
  /-- The run ended with its first failure, or with the results. -/
  result : result = (account.outcome store).map fun _ => t.session.results

section Outcome

variable {account : Account rig config} {store : Report.Store W}

/-- The loss of the browser comes before every other failure. -/
theorem outcome_of_lost {e : RunError} (htour : account.tour.outcome = .error e) :
    account.outcome store = .error e := by
  unfold outcome
  rw [htour]

/-- The failure of the report comes next. -/
theorem outcome_of_not_kept {v : Stage W} {e : RunError} (htour : account.tour.outcome = .ok ())
    (hreport : account.report = some v) (hfail : reportOutcome rig config store v = .error e) :
    account.outcome store = .error e := by
  unfold outcome
  rw [htour, hreport, Option.elim_some, hfail]

/-- If nothing failed before, sending the browser away decides. -/
theorem outcome_of_kept {v : Stage W} (htour : account.tour.outcome = .ok ())
    (hreport : account.report = some v) (hkept : reportOutcome rig config store v = .ok ()) :
    account.outcome store = account.closing.elim (.ok ()) (closingOutcome rig) := by
  unfold outcome
  rw [htour, hreport, Option.elim_some, hkept]

end Outcome

namespace Describes

variable {account : Account rig config} {store : Report.Store W} {text : String} {s t : Stage W}
  {result : Except RunError Results}

/-- What a run adds to the trace is its history. -/
theorem trace_eq (h : account.Describes store text s t result) :
    t.trace = s.trace ++ account.history store text s result := by
  rw [h.trace]
  simp [begun, Stage.claim, Stage.emit, Stage.note, history]

/-- A run with a failure ends with it. -/
theorem result_of_error (h : account.Describes store text s t result) {e : RunError}
    (hout : account.outcome store = .error e) : result = .error e := by
  rw [h.result, hout]
  rfl

/-- A run without failures succeeds. -/
theorem ok_iff (h : account.Describes store text s t result) :
    (∃ results, result = .ok results) ↔ account.outcome store = .ok () := by
  rw [h.result]
  cases account.outcome store <;> simp [Except.map]

/-- The results that a run returns are those of the session. -/
theorem results_eq (h : account.Describes store text s t result) {results : Results}
    (hok : result = .ok results) : results = t.session.results := by
  have hresult := h.result
  rw [h.ok_iff.mp ⟨results, hok⟩, hok] at hresult
  exact Except.ok.inj hresult

/-- There is no report if the browser was lost. -/
theorem report_eq_none (h : account.Describes store text s t result) {e : RunError}
    (htour : account.tour.outcome = .error e) : account.report = none := by
  have hreport := h.report_isSome
  rw [htour] at hreport
  simpa using hreport

/-- There is a report if the browser was not lost. -/
theorem exists_report (h : account.Describes store text s t result)
    (htour : account.tour.outcome = .ok ()) : ∃ v, account.report = some v :=
  Option.isSome_iff_exists.mp (h.report_isSome.mpr htour)

/-- The browser is not sent away if it is to stay open. -/
theorem closing_eq_none (h : account.Describes store text s t result)
    (hkeep : config.keepOpen = true) : account.closing = none := by
  simpa [hkeep] using h.closing_isSome

/-- The browser is sent away if it is not to stay open. -/
theorem exists_closing (h : account.Describes store text s t result)
    (hkeep : config.keepOpen = false) : ∃ v, account.closing = some v :=
  Option.isSome_iff_exists.mp (by rw [h.closing_isSome, hkeep, Bool.not_false])

end Describes

end Account

/-- The stage in which the groups have been run and their duration noted. -/
def driven (rig : Rig W) (config : RunConfig) (groups : List Group) (s : Stage W) : Stage W :=
  ((Group.runAll rig config groups).reached s).time s.elapsed

/-- The stage in which a run that begins in a stage makes its report: the groups have been run,
their duration was noted, and the browser has told title and address. -/
def summing (rig : Rig W) (config : RunConfig) (text : String) (s : Stage W) : Stage W :=
  reporting rig (driven rig config (Flow.read text) (begun s text))

/-- The report that a run makes that begins in a stage. -/
def summary (rig : Rig W) (config : RunConfig) (text : String) (s : Stage W) : ReportDocument :=
  reported rig config (driven rig config (Flow.read text) (begun s text))

/-- After the groups the report is written if the browser was not lost, and nothing else happens. -/
theorem drive_spec (rig : Rig W) (config : RunConfig) (store : Report.Store W)
    (groups : List Group) (s : Stage W) :
    let ran := (Group.runAll rig config groups).result s
    let t := driven rig config groups s
    ∃ report : Option (Stage W), (report.isSome = true ↔ ran = .ok ()) ∧
      (∀ v, report = some v → v = t) ∧
      (drive rig config store groups).result s =
        (match ran with
          | .ok _ => report.elim (.ok ()) (reportOutcome rig config store)
          | .error e => .error e) ∧
      t.Advances ((drive rig config store groups).reached s)
        (report.elim [] (reportTold rig config store)) [] := by
  intro ran t
  have hdrive := drive_apply rig config store groups s
  dsimp only at hdrive
  cases hran : ran with
  | ok _ =>
    have hwrite : drive rig config store groups s = writeReport rig config store t := by
      rw [hdrive, show (Group.runAll rig config groups).result s = _ from hran]
      rfl
    rw [result_congr hwrite, reached_congr hwrite]
    exact ⟨some t, by simp, fun v hv => (Option.some.inj hv).symm,
      writeReport_spec rig config store t⟩
  | error e =>
    have hend : drive rig config store groups s = .error e t := by
      rw [hdrive, show (Group.runAll rig config groups).result s = _ from hran]
      rfl
    refine ⟨none, by simp, by simp, ?_, ?_⟩
    · rw [result, hend]
    · rw [reached, hend]
      exact .refl t

/-- The browser is sent away once and the session closed, or neither. -/
theorem finish_spec (rig : Rig W) (config : RunConfig) {s : Stage W}
    (isOpen : s.session.closed = false) :
    let t := (finish rig config).reached s
    ∃ closing : Option (Stage W), closing.isSome = (!config.keepOpen) ∧
      (∀ v, closing = some v → v = s) ∧
      (finish rig config).result s = closing.elim (.ok ()) (closingOutcome rig) ∧
      t.trace = s.trace ++ closing.elim [] (closingTold rig) ∧
      t.session.results = s.session.results ∧ t.session.closed = !config.keepOpen := by
  intro t
  -- Either the session is kept open and nothing is done, or the browser is sent away.
  have hfinish := finish_apply rig config isOpen
  cases hkeep : config.keepOpen with
  | true =>
    rw [if_pos hkeep] at hfinish
    have ht : t = s := by simp only [t, reached, hfinish]
    rw [ht]
    exact ⟨none, rfl, by simp, by rw [result, hfinish]; rfl, (List.append_nil _).symm, rfl, isOpen⟩
  | false =>
    rw [if_neg (by simp [hkeep])] at hfinish
    have hcall := s.close.call_advances rig .close
    refine ⟨some s, rfl, fun v hv => (Option.some.inj hv).symm, ?_⟩
    simp only [t, result, reached, hfinish]
    cases hout : closingOutcome rig s <;>
      exact ⟨hout.symm, hcall.trace, hcall.results, hcall.closed⟩

/-- A run that begins ends like the first of its two halves that fails. After the browser has gone,
a final event is all that can come. -/
theorem run_spec (rig : Rig W) (config : RunConfig) (store : Report.Store W) (text : String)
    {s : Stage W} (isOpen : s.session.closed = false) (unused : s.session.used = false) :
    let t := (drive rig config store (Flow.read text)).reached (begun s text)
    let u := (finish rig config).reached t
    let outcome := (drive rig config store (Flow.read text)).result (begun s text) >>= fun _ =>
      (finish rig config).result t
    (run rig config store text).result s = outcome.map (fun _ => u.session.results) ∧
      (run rig config store text).reached s =
        u.tell (finishedEvents ((run rig config store text).result s)) := by
  intro t u outcome
  have hrun := run_apply rig config store text isOpen unused
  dsimp only at hrun
  simp only [outcome]
  rw [result, reached, hrun]
  cases (drive rig config store (Flow.read text)).result (begun s text) with
  | error e => exact ⟨rfl, u.tell_nil.symm⟩
  | ok _ =>
    simp only [t]
    cases (finish rig config).result ((drive rig config store (Flow.read text)).reached _) with
    | error e => exact ⟨rfl, u.tell_nil.symm⟩
    | ok _ => exact ⟨rfl, rfl⟩

/-- Every run that begins has an account, whose report was written when the groups had been run, and
in which the browser was sent away after that. -/
theorem exists_account_driven (rig : Rig W) (config : RunConfig) (store : Report.Store W)
    (text : String) {s : Stage W} (isOpen : s.session.closed = false)
    (unused : s.session.used = false) :
    ∃ account : Account rig config,
      (∀ v, account.report = some v → v = driven rig config (Flow.read text) (begun s text)) ∧
      (∀ v, account.closing = some v →
        v = (drive rig config store (Flow.read text)).reached (begun s text)) ∧
      account.Describes store text s ((run rig config store text).reached s)
        ((run rig config store text).result s) := by
  obtain ⟨hresult, hreached⟩ := run_spec rig config store text isOpen unused
  rw [hreached]
  -- The three parts of the account come from the three parts of the run.
  obtain ⟨tour, covers, leads, hran⟩ :=
    Group.exists_tour rig config (Flow.read text) (begun s text)
  obtain ⟨report, hreport, hwhere, hdriven, hdrive⟩ :=
    drive_spec rig config store (Flow.read text) (begun s text)
  rw [driven] at hdrive
  have hgroups := leads.advances
  generalize hr : (Group.runAll rig config (Flow.read text)).reached (begun s text) = ran
    at leads hgroups hdrive
  generalize (drive rig config store (Flow.read text)).reached (begun s text) = t
    at hresult hdrive ⊢
  have tOpen : t.session.closed = false := hdrive.closed.trans (hgroups.closed.trans isOpen)
  obtain ⟨closing, hclosing, hwhere', hfinished, htrace, hresults, hclosed⟩ :=
    finish_spec rig config tOpen
  generalize (finish rig config).reached t = u at hresult htrace hresults hclosed ⊢
  rw [hran] at hreport hdriven
  -- The outcome of the account is that of the two halves of the run.
  let account : Account rig config := ⟨tour, report, closing⟩
  have hout : account.outcome store =
      ((drive rig config store (Flow.read text)).result (begun s text) >>= fun _ =>
        (finish rig config).result t) := by
    rw [hdriven, hfinished]
    unfold Account.outcome
    cases tour.outcome with
    | error e => rfl
    | ok _ => cases report.elim (.ok ()) (reportOutcome rig config store) <;> rfl
  rw [← hout] at hresult
  refine ⟨account, hwhere, hwhere',
    ⟨covers, hr ▸ leads, hran⟩, hreport, hclosing, ?_, ?_, hclosed, hresult⟩
  · show u.trace ++ _ = _
    rw [htrace, hdrive.trace, show (ran.time (begun s text).elapsed).trace = ran.trace from rfl,
      hgroups.trace]
    simp only [Account.told, account, List.append_assoc]
  · refine ⟨UInt64.ofNat (ran.elapsed - (begun s text).elapsed), ?_⟩
    show u.session.results = _
    -- The duration is set between the groups and the report, which leaves the results alone.
    rw [hresults, hdrive.results]
    show ({ ran.session.results with totalDurationMs := _ } : Results) = _
    rw [hgroups.results]
    rfl

/-- Every run that begins has an account. -/
theorem exists_account (rig : Rig W) (config : RunConfig) (store : Report.Store W) (text : String)
    {s : Stage W} (isOpen : s.session.closed = false) (unused : s.session.used = false) :
    ∃ account : Account rig config,
      account.Describes store text s ((run rig config store text).reached s)
        ((run rig config store text).result s) :=
  have ⟨account, _, _, h⟩ := exists_account_driven rig config store text isOpen unused
  ⟨account, h⟩

end Flow

/-- A rig with the scripted browser and a clock that starts with 1970. -/
def Rig.scripted : Rig ScriptedState where
  browser := Scripted.browser
  clock ms := ⟨ms⟩

/-- The first stage of a session on the scripted browser, among no files. -/
def Stage.scripted : Stage ScriptedState :=
  .first .scripted "first" { files := ⟨[], []⟩ }

/-- A session on the scripted browser whose first page has been opened, which left a record. -/
def Flow.started : Stage ScriptedState :=
  (start .scripted "https://example.org").reached .scripted

/-- A flow of two groups. One step of the first group fails, and a run that stops at failures leaves
out the one behind it. -/
def Flow.interrupted : String := "# A\n1. Volte\n2. Nada\n3. Atualize\n# B\n4. Volte"

end BrowserFlow
