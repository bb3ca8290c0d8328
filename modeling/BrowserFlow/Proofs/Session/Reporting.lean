import BrowserFlow.Proofs.Session.Captures
import BrowserFlow.Proofs.Session.Tally

/-!
# What reports show

A report is put together from what the session has gathered at different times: records, also those
from before the run, images and texts of steps, messages. The reference is the history of turns. The
turns since the last reset did some deeds (`Turn.Since`), and `Stage.after_gathers` says that the
session holds what these deeds captured; `Flow.Reports` compares a report with them, with the
session after the run, and with what the run returns.
-/

namespace BrowserFlow

open SessionOp

variable {W : Type}

namespace Turn

/-- What steps are executed in a turn that begins in a stage. -/
inductive Does (rig : Rig W) (s : Stage W) : Turn W → List (Deed W) → Prop
  /-- A run that begins makes a tour. -/
  | run {config : RunConfig} {store : Report.Store W} {text : String} {tour : Tour rig config}
    (isOpen : s.session.closed = false) (unused : s.session.used = false)
    (toured : Flow.Toured text s tour) : Does rig s (.run config store text) tour.deeds
  /-- A run that is refused does nothing. -/
  | refused {config : RunConfig} {store : Report.Store W} {text : String}
    (refused : ¬ (s.session.closed = false ∧ s.session.used = false)) :
    Does rig s (.run config store text) []
  /-- A single step is executed. -/
  | execute (config : RunConfig) (group : String) (step : Step) :
    Does rig s (.execute config group step) [⟨config, step, s⟩]
  /-- Opening the first page is no step. -/
  | start (url : String) : Does rig s (.start url) []
  /-- Messages arrive. -/
  | hear (messages : List Message) : Does rig s (.hear messages) []
  /-- What was gathered is forgotten. -/
  | reset : Does rig s .reset []
  /-- The session is closed. -/
  | close : Does rig s .close []

/-- What steps were executed since the last reset, in order, in turns that began in a stage. -/
inductive Since (rig : Rig W) (first : Stage W) : List (Turn W) → List (Deed W) → Prop
  /-- At first nothing has been done. -/
  | nothing : Since rig first [] []
  /-- A turn does something after the others. -/
  | turn {turns : List (Turn W)} {deeds new : List (Deed W)} {turn : Turn W}
    (earlier : Since rig first turns deeds) (noReset : turn ≠ .reset)
    (does : turn.Does rig (first.after rig turns) new) :
    Since rig first (turns ++ [turn]) (deeds ++ new)
  /-- A reset forgets what was done. -/
  | reset (turns : List (Turn W)) : Since rig first (turns ++ [.reset]) []

end Turn

/-! ## What the session holds -/

/-- The session but for the messages on its console and whether it is closed. -/
def Session.gathered (session : Session) : Session :=
  { session with console := .opened, closed := false }

/-- During a call only messages arrive. -/
theorem Stage.call_gathered (rig : Rig W) (c : Call) (s : Stage W) :
    (s.call rig c).2.session.gathered = s.session.gathered := rfl

namespace Flow

variable (rig : Rig W) (config : RunConfig) (store : Report.Store W) (text : String) {s : Stage W}

/-- After the groups only messages arrive while the report is written. -/
theorem drive_gathered (groups : List Group) (t : Stage W) :
    ((drive rig config store groups).reached t).session.gathered =
      (driven rig config groups t).session.gathered := by
  have hdrive := drive_apply rig config store groups t
  cases hran : (Group.runAll rig config groups).result t with
  | ok _ =>
    simp only [hran] at hdrive
    rw [reached_congr hdrive, writeReport_session, reporting, Stage.call_gathered,
      Stage.call_gathered, driven]
  | error e =>
    simp only [hran] at hdrive
    rw [reached, hdrive, driven]

/-- When the browser is sent away, only messages arrive. -/
theorem finish_gathered {t : Stage W} (isOpen : t.session.closed = false) :
    ((finish rig config).reached t).session.gathered = t.session.gathered := by
  rw [finish_reached rig config isOpen]
  split
  · rfl
  · rw [Stage.call_gathered]
    rfl

/-- After the groups of a run only messages arrive. -/
theorem run_gathered (isOpen : s.session.closed = false) (unused : s.session.used = false) :
    ((run rig config store text).reached s).session.gathered =
      (driven rig config (Flow.read text) (begun s text)).session.gathered := by
  have hflags := (drive_flags rig config store (Flow.read text) (begun s text)).2
  rw [run_session rig config store text isOpen unused,
    finish_gathered rig config (hflags.trans isOpen), drive_gathered]

/-- A run that begins gathers what its tour captures. -/
theorem run_gathers {rig : Rig W} {config : RunConfig} (store : Report.Store W) {text : String}
    {s : Stage W} (isOpen : s.session.closed = false) (unused : s.session.used = false)
    {tour : Tour rig config} (toured : Toured text s tour) :
    s.Gathers rig ((run rig config store text).reached s) tour.deeds := by
  have hbegin : s.Gathers rig (begun s text) [] := .nothing rfl rfl
  have htour := hbegin.trans toured.leads.gathers
  have hrun := run_gathered rig config store text isOpen unused
  rw [driven] at hrun
  generalize (Group.runAll rig config (Flow.read text)).reached (begun s text) = u at htour hrun
  generalize (run rig config store text).reached s = t at hrun ⊢
  exact ⟨(congrArg Session.screenshots hrun).trans htour.screenshots,
    (congrArg Session.extractions hrun).trans htour.extractions⟩

end Flow

/-- Every turn but a reset gathers what the steps capture that are executed in it. -/
theorem Turn.next_gathers (rig : Rig W) (s : Stage W) (turn : Turn W) (noReset : turn ≠ .reset) :
    ∃ deeds, turn.Does rig s deeds ∧ s.Gathers rig (turn.next rig s) deeds := by
  cases turn with
  | start url =>
    refine ⟨[], .start url, ?_⟩
    rw [next]
    obtain h | h | ⟨record, -, h⟩ := start_reached rig url s <;> rw [h] <;>
      exact .nothing rfl rfl
  | run config store text =>
    by_cases begins : s.session.closed = false ∧ s.session.used = false
    · obtain ⟨account, h⟩ := Flow.exists_account rig config store text begins.1 begins.2
      exact ⟨_, .run begins.1 begins.2 h.toToured,
        Flow.run_gathers store begins.1 begins.2 h.toToured⟩
    · rw [next, Flow.run_reached_of_refused rig config store text begins]
      exact ⟨[], .refused begins, .nothing rfl rfl⟩
  | execute config group step =>
    exact ⟨_, .execute config group step, step.execute_gathers rig config group s⟩
  | hear messages => exact ⟨[], .hear messages, .nothing rfl rfl⟩
  | reset => exact absurd rfl noReset
  | close =>
    refine ⟨[], .close, ?_⟩
    rw [next, close_reached]
    split <;> exact .nothing rfl rfl

/-- After any turns the session holds what the steps captured that were executed since the last
reset, if it held nothing before. -/
theorem Stage.after_gathers (rig : Rig W) (turns : List (Turn W)) {s : Stage W}
    (screenshots : s.session.screenshots = []) (extractions : s.session.extractions = []) :
    ∃ deeds, Turn.Since rig s turns deeds ∧
      (s.after rig turns).session.screenshots = deeds.filterMap (·.screenshot? rig) ∧
      (s.after rig turns).session.extractions = deeds.filterMap (·.extraction? rig) := by
  -- That the stage is the one after the turns is carried along.
  refine (after_induction (P := fun turns t => t = s.after rig turns ∧
    ∃ deeds, Turn.Since rig s turns deeds ∧
      t.session.screenshots = deeds.filterMap (·.screenshot? rig) ∧
      t.session.extractions = deeds.filterMap (·.extraction? rig)) ?_ ?_ turns).2
  · exact ⟨rfl, [], .nothing, screenshots, extractions⟩
  · rintro turns t turn ⟨rfl, deeds, since, hscreenshots, hextractions⟩
    refine ⟨(after_concat rig s turns turn).symm, ?_⟩
    by_cases reset : turn = .reset
    · rw [reset]
      exact ⟨[], .reset turns, rfl, rfl⟩
    · obtain ⟨new, does, h⟩ := turn.next_gathers rig (s.after rig turns) reset
      refine ⟨deeds ++ new, .turn since reset does, ?_, ?_⟩
      · rw [h.screenshots, hscreenshots, List.filterMap_append]
      · rw [h.extractions, hextractions, List.filterMap_append]

/-! ## What the report shows -/

/-- The report that an occurrence gives away. -/
def Occurrence.report? : Occurrence → Option ReportDocument
  | .persisted document _ _ _ => some document
  | _ => none

/-- The results that a report shows. -/
def ReportDocument.results (document : ReportDocument) : Results :=
  ⟨document.steps, document.successCount, document.failureCount, document.durationMs⟩

namespace Flow

/-- What the report of a run shows, which led from one stage to another and ended with a result,
when the deeds are the steps that were executed since the last reset, in the run and before it. -/
structure Reports (rig : Rig W) (config : RunConfig) (text : String) (s t : Stage W)
    (result : Except RunError Results) (deeds : List (Deed W)) (document : ReportDocument) :
    Prop where
  /-- It shows the session's results. -/
  results : document.results = t.session.results
  /-- If the run succeeds, it returns these results. -/
  of_ok : ∀ results, result = .ok results → document.results = results
  /-- The records from before the run come first. -/
  earlier : s.session.results.steps <+: document.steps
  /-- The counts are those of the records that it shows, in 32 bits. -/
  tallies : document.results.Tallies
  /-- It says that the run passed exactly if the count of the failures is zero in 32 bits. -/
  passed_iff : document.status = ReportDocument.statusPassed ↔
    UInt32.size ∣ document.steps.countP (·.status == .failure)
  /-- As long as 32 bits hold the counts, they are right as numbers, and it says that the run passed
  exactly if every record is that of a success. -/
  of_few : document.steps.length < UInt32.size → document.results.Agree ∧
    (document.status = ReportDocument.statusPassed ↔
      ∀ record ∈ document.steps, record.status = .success)
  /-- It shows the images that were captured, in order. -/
  screenshots : document.screenshots = deeds.filterMap (·.screenshot? rig)
  /-- It shows the texts that were captured, in order. -/
  extractions : document.extractions = deeds.filterMap (·.extraction? rig)
  /-- It shows the messages that had arrived when it was made, if it is to show messages. -/
  logs : document.logs =
    if config.captureLogs then (summing rig config text s).session.transcript else []
  /-- It is under the session's name. -/
  sessionId : document.sessionId = t.session.id

end Flow

/-- A report that was given away in a run is the one that was made of the session. -/
theorem Flow.Account.of_persisted_mem {rig : Rig W} {config : RunConfig}
    {account : Account rig config} {store : Report.Store W} {text : String} {s : Stage W}
    {result : Except RunError Results} {document : ReportDocument} {format : ReportFormat}
    {rendered : String} {outcome : Except ErrorChain Path}
    (h : .persisted document format rendered outcome ∈ account.history store text s result) :
    ∃ v, account.report = some v ∧ document = reported rig config v ∧
      format = config.reportFormat ∧ rendered = document.render format ∧
      outcome = kept rig store document format (reporting rig v) := by
  have htour := account.tour.persisted_not_mem_told document format rendered outcome
  have hclosing : Occurrence.persisted document format rendered outcome ∉
      account.closing.elim [] (closingTold rig) := by
    cases account.closing <;> simp [closingTold]
  simp only [history, told, List.cons_append, List.mem_cons, List.mem_append, htour, hclosing,
    List.mem_map, reduceCtorEq, and_false, exists_false, false_or, or_false] at h
  -- Neither the tour nor the closing saves anything, which leaves the report.
  cases hreport : account.report with
  | none => simp [hreport] at h
  | some v =>
    rw [hreport] at h
    simp only [Option.elim_some, reportTold, List.cons_append, List.mem_cons, List.nil_append,
      List.mem_map, reduceCtorEq, and_false, exists_false, false_or, or_false,
      Occurrence.persisted.injEq] at h
    obtain ⟨rfl, rfl, rfl, rfl⟩ := h
    exact ⟨v, rfl, rfl, rfl, rfl, rfl⟩

namespace Flow

/-- The report of a run shows the results that the session has when it is made. -/
theorem reported_results (rig : Rig W) (config : RunConfig) (s : Stage W) :
    (reported rig config s).results = s.session.results := rfl

/-- The report of a run says that it passed exactly if no failure was counted. -/
theorem reported_status_iff (rig : Rig W) (config : RunConfig) (s : Stage W) :
    (reported rig config s).status = ReportDocument.statusPassed ↔
      s.session.results.failureCount = 0 := by
  show (if s.session.results.failureCount == 0 then ReportDocument.statusPassed
    else ReportDocument.statusFailed) = _ ↔ _
  by_cases h : s.session.results.failureCount = 0
  · simp [h]
  · simp [h, ReportDocument.statusPassed, ReportDocument.statusFailed]

end Flow

/-- The count of the failures is zero if 32 bits do not tell their number from zero. -/
theorem Results.Tallies.failureCount_eq_zero_iff {results : Results} (h : results.Tallies) :
    results.failureCount = 0 ↔ UInt32.size ∣ results.steps.countP (·.status == .failure) := by
  rw [h.failures, ← UInt32.toNat_inj, UInt32.toNat_zero, Nat.dvd_iff_mod_eq_zero]
  exact Iff.rfl

namespace Flow

variable {rig : Rig W} {config : RunConfig} {store : Report.Store W} {text : String} {s : Stage W}

/-- The report that a run gives away is made and given away in one moment. -/
theorem Account.Describes.summing_trace {account : Account rig config} {t : Stage W}
    {result : Except RunError Results} (h : account.Describes store text s t result)
    (hreport : account.report = some (driven rig config (Flow.read text) (begun s text))) :
    let document := summary rig config text s
    (summing rig config text s).trace ++ [.persisted document config.reportFormat
      (document.render config.reportFormat)
      (kept rig store document config.reportFormat (summing rig config text s))] <+: t.trace := by
  have htour := h.leads.advances.trace
  have htrace := h.trace
  rw [Account.told, hreport, Option.elim_some, reportTold, ← List.append_assoc (begun s text).trace,
    ← List.append_assoc (begun s text).trace, ← htour] at htrace
  dsimp only
  rw [htrace, summing, summary]
  generalize hv : driven rig config (Flow.read text) (begun s text) = v
  have hbefore : ((Group.runAll rig config (Flow.read text)).reached (begun s text)).trace =
      v.trace := by
    rw [← hv, driven, Stage.time]
  have hreporting : (reporting rig v).trace = v.trace ++
      [.called .title (v.call rig .title).1,
        .called .url ((v.call rig .title).2.call rig .url).1] := by
    rw [reporting, ((v.call rig .title).2.call_advances rig .url).trace,
      (v.call_advances rig .title).trace, List.append_assoc]
    rfl
  simp only [hbefore, hreporting, List.append_assoc, List.cons_append, List.nil_append,
    List.prefix_append_right_inj]
  exact ⟨_, rfl⟩

/-- The report that a run makes when its groups have been run shows the session as the run leaves
it. -/
theorem Account.Describes.reports {account : Account rig config} {t : Stage W}
    {result : Except RunError Results} {deeds : List (Deed W)}
    (h : account.Describes store text s t result) (gathered : t.session.gathered =
      (driven rig config (Flow.read text) (begun s text)).session.gathered)
    (tallies : t.session.results.Tallies)
    (screenshots : t.session.screenshots = deeds.filterMap (·.screenshot? rig))
    (extractions : t.session.extractions = deeds.filterMap (·.extraction? rig)) :
    Reports rig config text s t result deeds (summary rig config text s) := by
  have hlogs : (summary rig config text s).logs =
      if config.captureLogs then (summing rig config text s).session.transcript else [] := rfl
  rw [summary] at hlogs ⊢
  -- What the report shows was read off the stage after the tour, and nothing has been gathered
  -- since.
  generalize driven rig config (Flow.read text) (begun s text) = v at gathered hlogs ⊢
  have hresults : (reported rig config v).results = t.session.results :=
    (congrArg Session.results gathered).symm
  have hsteps : (reported rig config v).steps = t.session.results.steps :=
    congrArg Results.steps hresults
  have hstatus := reported_status_iff rig config v
  rw [← reported_results rig config v] at hstatus
  exact {
    results := hresults
    of_ok := fun results hok => hresults.trans (h.results_eq hok).symm
    earlier := by
      rw [hsteps, h.steps_eq]
      exact List.prefix_append _ _
    tallies := hresults ▸ tallies
    passed_iff := by
      rw [hstatus, hresults, tallies.failureCount_eq_zero_iff, hsteps]
    of_few := by
      intro few
      have hagree : (reported rig config v).results.Agree := (hresults ▸ tallies).agree few
      have hpassed := hagree.passed_iff
      rw [Results.passed, beq_iff_eq, ← hstatus] at hpassed
      exact ⟨hagree, hpassed⟩
    screenshots := (congrArg Session.screenshots gathered).symm.trans screenshots
    extractions := (congrArg Session.extractions gathered).symm.trans extractions
    logs := hlogs
    sessionId := (congrArg Session.id gathered).symm }

/-- Every report that a run gives away shows the session as it is, and what the steps captured that
were executed since the last reset. -/
theorem run_reports (rig : Rig W) (id : String) (world : W) (turns : List (Turn W))
    (config : RunConfig) (store : Report.Store W) (text : String) :
    let s := (Stage.first rig id world).after rig turns
    let t := (run rig config store text).reached s
    ∃ told, t.trace = s.trace ++ told ∧
      ∀ document format rendered outcome, .persisted document format rendered outcome ∈ told →
        format = config.reportFormat ∧ rendered = document.render format ∧
        outcome = kept rig store document format (summing rig config text s) ∧
        (summing rig config text s).trace ++ [.persisted document format rendered outcome] <+:
          t.trace ∧
        ∃ deeds, Turn.Since rig (.first rig id world) (turns ++ [.run config store text]) deeds ∧
          Reports rig config text s t ((run rig config store text).result s) deeds document := by
  -- What the session holds after the run is what it holds after one more turn.
  obtain ⟨deeds, since, screenshots, extractions⟩ :=
    Stage.after_gathers rig (turns ++ [.run config store text]) (s := .first rig id world) rfl rfl
  have tallies := Stage.after_tallies rig (turns ++ [.run config store text])
    (s := .first rig id world) Results.Tallies.empty
  rw [Stage.after_concat] at screenshots extractions tallies
  intro s
  by_cases begins : s.session.closed = false ∧ s.session.used = false
  · obtain ⟨account, hwhere, -, h⟩ :=
      exists_account_driven rig config store text begins.1 begins.2
    refine ⟨_, h.trace_eq, fun document format rendered outcome hm => ?_⟩
    obtain ⟨v, hreport, rfl, rfl, rfl, rfl⟩ := account.of_persisted_mem hm
    obtain rfl := hwhere v hreport
    exact ⟨rfl, rfl, rfl, h.summing_trace hreport, deeds, since,
      h.reports (run_gathered rig config store text begins.1 begins.2) tallies screenshots
        extractions⟩
  · obtain ⟨e, h⟩ := run_refused rig config store text begins
    rw [reached, h]
    exact ⟨[], (List.append_nil _).symm, by simp⟩

/-- After a reset an image is taken, and the sample flow is run once more: the report shows the two
images from after the reset, and not those from before. -/
theorem run_reports_sample :
    let turns := Turn.sample ++ [.reset, .execute {} "Geral" ⟨1, "1. Capture screenshot"⟩]
    let store : Report.Store ScriptedState := fun _ _ _ _ => pure "memory/report.json"
    let s := Stage.scripted.after .scripted turns
    ∃ document deeds,
      Turn.Since .scripted .scripted (turns ++ [.run {} store Flow.sample]) deeds ∧
      Reports .scripted {} Flow.sample s ((run .scripted {} store Flow.sample).reached s)
        ((run .scripted {} store Flow.sample).result s) deeds document ∧
      document.screenshots = ["shots/2.png", "shots/3.png"] := by
  intro turns store s
  have hrun := run_reports .scripted "first" { files := ⟨[], []⟩ } turns {} store Flow.sample
  rw [show Stage.first .scripted "first" { files := ⟨[], []⟩ } = Stage.scripted from rfl] at hrun
  obtain ⟨told, htrace, hreports⟩ := hrun
  have hbefore : (s.trace.filterMap Occurrence.report?).map (·.screenshots) =
      [["shots/0.png", "shots/1.png"]] := by decide +kernel
  have hafter : ((((run .scripted {} store Flow.sample).reached s).trace).filterMap
      Occurrence.report?).map (·.screenshots) =
      [["shots/0.png", "shots/1.png"], ["shots/2.png", "shots/3.png"]] := by decide +kernel
  rw [htrace, List.filterMap_append, List.map_append, hbefore,
    show [["shots/0.png", "shots/1.png"], ["shots/2.png", "shots/3.png"]] =
      [["shots/0.png", "shots/1.png"]] ++ [["shots/2.png", "shots/3.png"]] from rfl] at hafter
  have htold : ["shots/2.png", "shots/3.png"] ∈
      (told.filterMap Occurrence.report?).map (·.screenshots) := by
    rw [List.append_cancel_left hafter]
    exact List.mem_singleton_self _
  obtain ⟨document, hdocument, hscreenshots⟩ := List.mem_map.mp htold
  obtain ⟨o, ho, hreport⟩ := List.mem_filterMap.mp hdocument
  cases o with
  | persisted document' format rendered outcome =>
    cases hreport
    obtain ⟨-, -, -, -, deeds, since, h⟩ := hreports document format rendered outcome ho
    exact ⟨document, deeds, since, h, hscreenshots⟩
  | _ => cases hreport

end Flow

end BrowserFlow
