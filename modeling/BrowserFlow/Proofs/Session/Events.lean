import BrowserFlow.Proofs.Session.Records

/-!
# The events of a run

The events that a run emits, in order, read off its tour: `Tour.events`. They are well bracketed,
every step's own between the beginnings of the steps, and tell the records: what a watcher learns
from the events about how steps ended is what the records say (`Tour.filterMap_verdict?_events`),
and the counts of the results grow by the numbers of these events (`foldl_record_successCount`,
`foldl_record_failureCount`).
-/

namespace BrowserFlow

open SessionOp

variable {W : Type} {rig : Rig W} {config : RunConfig}

/-! ## In which order they come -/

/-- The events of a step with this index that left a record. -/
def Execution.events (x : Execution rig config) (index : Nat) : List Event :=
  .stepStarted x.group index x.step.sentence :: x.step.logs x.before.session ++
    [x.record.event index]

namespace Visit

/-- The events of a group until it is left. -/
def events (visit : Visit rig config) : List Event :=
  .groupStarted visit.group.name visit.group.steps.length ::
    (visit.executions.zipIdx.flatMap fun (x, index) => x.events index)

/-- The events of a finished group. -/
def allEvents (visit : Visit rig config) : List Event :=
  visit.events ++ visit.abandonment

end Visit

/-- The events of a tour. -/
def Tour.events : Tour rig config → List Event
  | .whole visits => visits.flatMap Visit.allEvents
  | .lost visits visit loss =>
    visits.flatMap Visit.allEvents ++ visit.events ++
      [.stepStarted visit.group.name visit.executions.length loss.step.sentence]

/-- The events among what happens during a step. -/
theorem Execution.told_events (x : Execution rig config) (index : Nat) :
    (x.told index).filterMap Occurrence.event? = x.events index := by
  have hduring : x.during.filterMap Occurrence.event? = x.step.logs x.before.session :=
    x.step.told_events rig config x.before
  -- Pauses and records are no events, so that those of the execution are what is left.
  have hpauses : config.pauses.filterMap Occurrence.event? = [] := by
    unfold RunConfig.pauses
    split
    · split <;> rfl
    · rfl
  have hrest : (if x.record.isSuccess then config.pauses else []).filterMap Occurrence.event? =
      [] := by
    split
    · exact hpauses
    · rfl
  simp only [told, events, List.cons_append, List.filterMap_cons, List.filterMap_append, hduring,
    hrest, Occurrence.event?, List.filterMap_nil, List.append_nil]

namespace Visit

/-- The events among what happens in a group until it is left. -/
theorem told_events (visit : Visit rig config) :
    visit.told.filterMap Occurrence.event? = visit.events := by
  simp only [told, events, Execution.allTold, List.filterMap_cons, Occurrence.event?,
    List.filterMap_flatMap, Execution.told_events]

/-- The events among what happens in finished groups. -/
theorem flatMap_told_events (visits : List (Visit rig config)) :
    (visits.flatMap fun visit => visit.told ++ visit.abandonment.map .emitted).filterMap
      Occurrence.event? = visits.flatMap allEvents := by
  have hemitted (events : List Event) :
      (events.map Occurrence.emitted).filterMap Occurrence.event? = events := by
    rw [List.filterMap_map]
    exact List.filterMap_some
  simp only [List.filterMap_flatMap, List.filterMap_append, told_events, hemitted]
  rfl

end Visit

/-- The events among what happens on a tour. -/
theorem Tour.told_events (tour : Tour rig config) :
    tour.told.filterMap Occurrence.event? = tour.events := by
  cases tour with
  | whole visits => exact Visit.flatMap_told_events visits
  | lost visits visit loss =>
    obtain ⟨c, reason, htold, -⟩ := Step.execute_error loss.lost
    simp only [told, events, htold, List.filterMap_append, Visit.flatMap_told_events,
      Visit.told_events, List.filterMap_cons, Occurrence.event?, List.filterMap_nil]

/-! ## What they tell about the steps -/

/-- How a step ended. -/
structure Verdict where
  /-- The name of the step's group. -/
  group : String
  /-- Whether it passed. -/
  status : StepStatus
  /-- Why it failed. -/
  error : Option String
  /-- How long it took. -/
  durationMs : UInt64

/-- How a step ended by its record. -/
def StepRecord.verdict (record : StepRecord) : Verdict :=
  ⟨record.group, record.status, record.error, record.durationMs⟩

namespace Event

/-- How a step ended by an event that tells it. -/
def verdict? : Event → Option Verdict
  | .stepPassed group _ ms => some ⟨group, .success, none, ms⟩
  | .stepFailed group _ error ms => some ⟨group, .failure, some error, ms⟩
  | _ => none

/-- A step has passed. -/
def isPassed : Event → Bool
  | .stepPassed .. => true
  | _ => false

/-- A step has failed. -/
def isFailed : Event → Bool
  | .stepFailed .. => true
  | _ => false

/-- The events that steps have passed are those whose verdict says so. -/
theorem countP_isPassed (events : List Event) :
    events.countP isPassed = (events.filterMap verdict?).countP (·.status == .success) := by
  rw [List.countP_filterMap]
  exact List.countP_congr fun event _ => by cases event <;> simp [isPassed, verdict?]

/-- The events that steps have failed are those whose verdict says so. -/
theorem countP_isFailed (events : List Event) :
    events.countP isFailed = (events.filterMap verdict?).countP (·.status == .failure) := by
  rw [List.countP_filterMap]
  exact List.countP_congr fun event _ => by cases event <;> simp [isFailed, verdict?]

end Event

/-- The event about a step tells what its record says. -/
theorem StepRecord.verdict?_event (group : String) (step : Step) (outcome : Except StepError Unit)
    (ms : UInt64) (at_ : Timestamp) (index : Nat) :
    ((ofOutcome group step outcome ms at_).event index).verdict? =
      some (ofOutcome group step outcome ms at_).verdict := by
  cases outcome <;> rfl

/-- What steps have to say is not how they ended. -/
theorem Step.filterMap_verdict?_logs (step : Step) (session : Session) :
    (step.logs session).filterMap Event.verdict? = [] := by
  unfold logs
  split <;> rfl

/-- The events of a step tell what its record says. -/
theorem Execution.filterMap_verdict?_events (x : Execution rig config) (index : Nat) :
    (x.events index).filterMap Event.verdict? = [x.record.verdict] := by
  obtain ⟨⟨outcome, ms, at_, hrecord⟩, -⟩ := Step.execute_ok x.executed
  have hverdict : (x.record.event index).verdict? = some x.record.verdict := by
    rw [hrecord]
    exact StepRecord.verdict?_event x.group x.step outcome ms at_ index
  rw [events, List.cons_append, List.filterMap_cons_none rfl, List.filterMap_append,
    Step.filterMap_verdict?_logs, List.nil_append, List.filterMap_cons_some hverdict,
    List.filterMap_nil]

namespace Visit

/-- The events of a group tell what its records say. -/
theorem filterMap_verdict?_events (visit : Visit rig config) :
    visit.events.filterMap Event.verdict? = visit.records.map StepRecord.verdict := by
  simp only [events, List.filterMap_cons, Event.verdict?, List.filterMap_flatMap,
    Execution.filterMap_verdict?_events]
  rw [← List.map_eq_flatMap, records, List.map_map]
  have hfst := congrArg (List.map fun x => x.record.verdict)
    (List.zipIdx_map_fst 0 visit.executions)
  rwa [List.map_map] at hfst

/-- What is left out of groups is not how steps ended. -/
theorem filterMap_verdict?_allEvents (visit : Visit rig config) :
    visit.allEvents.filterMap Event.verdict? = visit.records.map StepRecord.verdict := by
  have habandon : visit.abandonment.filterMap Event.verdict? = [] := by
    unfold abandonment
    split <;> rfl
  rw [allEvents, List.filterMap_append, filterMap_verdict?_events, habandon, List.append_nil]

end Visit

/-- The events of a tour tell what its records say. -/
theorem Tour.filterMap_verdict?_events (tour : Tour rig config) :
    tour.events.filterMap Event.verdict? = tour.records.map StepRecord.verdict := by
  cases tour <;>
    simp only [events, records, visits, List.filterMap_append, List.filterMap_flatMap,
      Visit.filterMap_verdict?_allEvents, Visit.filterMap_verdict?_events, List.map_flatMap,
      List.map_append, List.flatMap_append, List.flatMap_cons, List.flatMap_nil, List.append_nil,
      List.filterMap_cons, Event.verdict?, List.filterMap_nil]

namespace Results

/-- Every record of a step that passed counts. -/
theorem foldl_record_successCount (records : List StepRecord) (results : Results) :
    (records.foldl record results).successCount =
      results.successCount + .ofNat (records.countP (·.status == .success)) := by
  induction records generalizing results with
  | nil => simp
  | cons step records ih =>
    rw [List.foldl_cons, ih, List.countP_cons, UInt32.ofNat_add]
    unfold record
    cases hs : step.status <;> simp [UInt32.add_assoc, UInt32.add_comm]

/-- Every record of a step that failed counts. -/
theorem foldl_record_failureCount (records : List StepRecord) (results : Results) :
    (records.foldl record results).failureCount =
      results.failureCount + .ofNat (records.countP (·.status == .failure)) := by
  induction records generalizing results with
  | nil => simp
  | cons step records ih =>
    rw [List.foldl_cons, ih, List.countP_cons, UInt32.ofNat_add]
    unfold record
    cases hs : step.status <;> simp [UInt32.add_assoc, UInt32.add_comm]

end Results

/-! ## The events of a run -/

namespace Flow

/-- Where the report was kept, if it was. -/
def Account.saved (account : Account rig config) (store : Report.Store W) : Option Path :=
  account.report.bind fun s =>
    (kept rig store (reported rig config s) config.reportFormat (reporting rig s)).toOption

/-- The events of an account are those of its tour, and that the report was saved. -/
theorem Account.told_events (account : Account rig config) (store : Report.Store W) :
    (account.told store).filterMap Occurrence.event? =
      account.tour.events ++ ((account.saved store).map .reportSaved).toList := by
  unfold told saved
  rw [List.filterMap_append, List.filterMap_append, account.tour.told_events]
  have hclosing : (account.closing.elim [] (closingTold rig)).filterMap Occurrence.event? = [] := by
    cases account.closing <;> rfl
  rw [hclosing, List.append_nil]
  congr 1
  cases account.report with
  | none => rfl
  | some s =>
    simp only [Option.elim_some, Option.bind_some, reportTold]
    cases kept rig store (reported rig config s) config.reportFormat (reporting rig s) <;> rfl

/-- The events of a run are those of its account between the first one and the last one. -/
theorem Account.history_events (account : Account rig config) (store : Report.Store W)
    (text : String) (s : Stage W) (result : Except RunError Results) :
    (account.history store text s result).filterMap Occurrence.event? =
      .runStarted s.session.id (Flow.read text).length (stepCount (Flow.read text)) ::
        account.tour.events ++ ((account.saved store).map .reportSaved).toList ++
          finishedEvents result := by
  have hfinished : ((finishedEvents result).map Occurrence.emitted).filterMap Occurrence.event? =
      finishedEvents result := by
    rw [List.filterMap_map]
    exact List.filterMap_some
  simp only [history, List.filterMap_append, List.filterMap_cons, Occurrence.event?,
    account.told_events, hfinished, List.cons_append, List.append_assoc]

/-- The events of a run tell what the records of its tour say. -/
theorem Account.history_verdicts (account : Account rig config) (store : Report.Store W)
    (text : String) (s : Stage W) (result : Except RunError Results) :
    ((account.history store text s result).filterMap Occurrence.event?).filterMap Event.verdict? =
      account.tour.records.map StepRecord.verdict := by
  -- Neither the first event nor those behind the tour are about steps.
  have hsaved : (((account.saved store).map Event.reportSaved).toList).filterMap Event.verdict? =
      [] := by
    cases account.saved store <;> rfl
  have hfinished : (finishedEvents result).filterMap Event.verdict? = [] := by
    cases result <;> rfl
  rw [history_events, List.cons_append, List.cons_append, List.filterMap_cons_none rfl,
    List.filterMap_append, List.filterMap_append, hsaved, hfinished, List.append_nil,
    List.append_nil, account.tour.filterMap_verdict?_events]

/-- The report was saved where the store kept it. -/
theorem Account.saved_eq_some_iff (account : Account rig config) (store : Report.Store W)
    (text : String) (s : Stage W) (result : Except RunError Results) (path : Path) :
    account.saved store = some path ↔ ∃ document format rendered,
      .persisted document format rendered (.ok path) ∈ account.history store text s result := by
  -- Only the part about the report can have such an occurrence.
  have htour (document format rendered) :=
    account.tour.persisted_not_mem_told document format rendered (.ok path)
  have hclosing (document format rendered) : Occurrence.persisted document format rendered
      (.ok path) ∉ account.closing.elim [] (closingTold rig) := by
    cases account.closing <;> simp [closingTold]
  have hfinished (document format rendered) : Occurrence.persisted document format rendered
      (.ok path) ∉ (finishedEvents result).map Occurrence.emitted := by
    simp
  simp only [history, told, saved, List.cons_append, List.mem_cons, List.mem_append, htour,
    hclosing, hfinished, reduceCtorEq, false_or, or_false]
  cases account.report with
  | none => simp
  | some s =>
    simp only [Option.elim_some, Option.bind_some, reportTold]
    cases kept rig store (reported rig config s) config.reportFormat (reporting rig s) with
    | error e => simp [savedEvents, Except.toOption]
    | ok path' => simp [savedEvents, Except.toOption, eq_comm]

/-- What happened in a run that begins in a stage tells its events, and the events tell its tour
and its results. -/
structure Tells (store : Report.Store W) (text : String) (s : Stage W) (tour : Tour rig config)
    (saved : Option Path) (told : List Occurrence) : Prop extends Toured text s tour where
  /-- This is what happened. -/
  trace : ((run rig config store text).reached s).trace = s.trace ++ told
  /-- The report was saved if the store kept it. -/
  saved_iff : ∀ path, saved = some path ↔
    ∃ document format rendered, .persisted document format rendered (.ok path) ∈ told
  /-- The events are that the run begins, those of the tour, that the report was saved, and that the
  run succeeded, with the counts of its results. -/
  events : told.filterMap Occurrence.event? =
    .runStarted s.session.id (Flow.read text).length (stepCount (Flow.read text)) ::
      tour.events ++ (saved.map .reportSaved).toList ++
        finishedEvents ((run rig config store text).result s)
  /-- When the browser was lost, the last event is that the losing step began. -/
  of_lost : ∀ visits visit loss, tour = .lost visits visit loss →
    (told.filterMap Occurrence.event?).getLast? =
      some (.stepStarted visit.group.name visit.executions.length loss.step.sentence)
  /-- The records that were added are those of the tour. -/
  records : ((run rig config store text).reached s).session.results.steps =
    s.session.results.steps ++ tour.records
  /-- They say what the events told about the steps. -/
  verdicts : (told.filterMap Occurrence.event?).filterMap Event.verdict? =
    tour.records.map StepRecord.verdict
  /-- The counts of the results are those from before and the numbers of the events. -/
  counts : ∀ results, (run rig config store text).result s = .ok results →
    results.successCount = s.session.results.successCount +
        .ofNat ((told.filterMap Occurrence.event?).countP Event.isPassed) ∧
      results.failureCount = s.session.results.failureCount +
        .ofNat ((told.filterMap Occurrence.event?).countP Event.isFailed)

/-- A run that begins tells its events. -/
theorem exists_tells (rig : Rig W) (config : RunConfig) (store : Report.Store W) (text : String)
    {s u : Stage W} (begins : claim s = .ok () u) :
    ∃ (tour : Tour rig config) (saved : Option Path) (told : List Occurrence),
      Tells store text s tour saved told := by
  obtain ⟨isOpen, unused, -⟩ := of_claim_eq_ok begins
  obtain ⟨account, h⟩ := exists_account rig config store text isOpen unused
  refine ⟨account.tour, account.saved store, account.history store text s _, h.toToured,
    h.trace_eq, account.saved_eq_some_iff store text s _, account.history_events store text s _,
    ?_, h.steps_eq, account.history_verdicts store text s _, ?_⟩
  · intro visits visit loss htour
    have hlost : account.tour.outcome = .error loss.error := by
      rw [htour]
      rfl
    have hresult := h.result_of_error (account.outcome_of_lost hlost)
    -- Nothing is saved and nothing succeeds, so that the events of the tour are the last ones.
    rw [account.history_events, htour, Account.saved, h.report_eq_none hlost, hresult]
    simp only [Tour.events, Option.bind_none, Option.map_none, Option.toList_none,
      finishedEvents, List.append_nil, ← List.cons_append, List.getLast?_concat]
  · intro results hok
    obtain ⟨ms, hresults⟩ := h.results
    rw [h.results_eq hok, hresults, Event.countP_isPassed, Event.countP_isFailed,
      account.history_verdicts, List.countP_map, List.countP_map]
    exact ⟨Results.foldl_record_successCount .., Results.foldl_record_failureCount ..⟩

/-- On the scripted browser, a run that stops at failures tells which steps it leaves out, and how
many records the session has, also from before. -/
theorem exists_tells_interrupted :
    let config : RunConfig := { stopOnFailure := true }
    claim started = .ok () started.claim ∧
      .groupAbandoned "A" 1 ∈
        ((run .scripted config (.directory "out") interrupted).reached started).events ∧
      .runFinished 3 1 0 ∈
        ((run .scripted config (.directory "out") interrupted).reached started).events ∧
      ∃ (tour : Tour .scripted config) (saved : Option Path) (told : List Occurrence),
        Tells (.directory "out") interrupted started tour saved told := by
  intro config
  have begins : claim started = .ok () started.claim :=
    claim_apply (by decide +kernel) (by decide +kernel)
  exact ⟨begins, by decide +kernel, by decide +kernel,
    exists_tells .scripted config (.directory "out") interrupted begins⟩

/-- The counts that a run tells are not the numbers of its own events: what the session had before
counts as well. Here a flow without steps has one success, that the first page was opened. -/
theorem counts_ne_numbers_started :
    claim started = .ok () started.claim ∧
    ∃ told : List Occurrence,
      ((run .scripted {} (fun _ _ _ _ => pure "memory/report.json") "").reached started).trace =
        started.trace ++ told ∧
      .runFinished 1 0 0 ∈ told.filterMap Occurrence.event? ∧
      1 ≠ UInt32.ofNat ((told.filterMap Occurrence.event?).countP Event.isPassed) := by
  have isOpen : started.session.closed = false := by decide +kernel
  have unused : started.session.used = false := by decide +kernel
  obtain ⟨account, h⟩ := exists_account .scripted {}
    (fun _ _ _ _ => pure "memory/report.json") "" isOpen unused
  have hevents : ((run .scripted {} (fun _ _ _ _ => pure "memory/report.json") "").reached
      started).events =
        [.runStarted "first" 0 0, .reportSaved "memory/report.json", .runFinished 1 0 0] := by
    decide +kernel
  have hbefore : started.events = [] := by decide +kernel
  rw [Stage.events, h.trace_eq, List.filterMap_append, ← Stage.events, hbefore,
    List.nil_append] at hevents
  refine ⟨claim_apply isOpen unused, _, h.trace_eq, ?_⟩
  rw [hevents]
  decide

end Flow

end BrowserFlow
