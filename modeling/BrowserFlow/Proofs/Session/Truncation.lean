import BrowserFlow.Proofs.Session.Essence
import BrowserFlow.Proofs.Session.Events
import BrowserFlow.Proofs.Session.Hearing
import Mathlib.Data.List.Basic
import Mathlib.Data.List.Flatten

/-!
# Stopping at failures

A run that stops at failures leaves out the rest of a group whose step fails. On a browser whose
answers depend only on what it is asked, that is never lost and that is silent on the console, this
is all: `Flow.run_truncates` compares the run with the one from the same stage that goes on.

What carries the comparison is that a step sees nothing of the steps before it but what they left on
the console (`Step.outcome_congr`). If nothing arrives there, what a step comes to is settled before
the run begins, by its group's name and its sentence (`Step.foretold`), so that the records of a
finished group are the foretold ones up to the first failure (`Visit.records_of_stopping`), or all
of them (`Visit.records_of_going`).
-/

namespace BrowserFlow

open SessionOp

variable {W : Type}

/-! ## Up to the first failure -/

namespace StepRecord

/-- The records up to the first one of a failure, with that one. -/
def untilFailure : List StepRecord → List StepRecord
  | [] => []
  | record :: records => if record.isSuccess then record :: untilFailure records else [record]

/-- Where to cut does not depend on times. -/
theorem untilFailure_map_essence (records : List StepRecord) :
    untilFailure (records.map (·.essence)) = (untilFailure records).map (·.essence) := by
  induction records with
  | nil => rfl
  | cons record records ih =>
    simp only [List.map_cons, untilFailure, essence_isSuccess, ih]
    split <;> rfl

/-- What is left has a failure if there was one. -/
theorem forall_untilFailure_iff (records : List StepRecord) :
    (∀ record ∈ untilFailure records, record.isSuccess = true) ↔
      ∀ record ∈ records, record.isSuccess = true := by
  induction records with
  | nil => rfl
  | cons record records ih =>
    unfold untilFailure
    split
    case isTrue passed => simp only [List.forall_mem_cons, ih]
    case isFalse failed => simp [failed]

/-- A beginning of records, of which only the last one may be of a failure, and which is all of them
if none is, ends with the first failure. -/
theorem untilFailure_eq {records all : List StepRecord} (isPrefix : records <+: all)
    (passed : ∀ record ∈ records.dropLast, record.isSuccess = true)
    (whole : (∀ record ∈ records, record.isSuccess = true) → records = all) :
    untilFailure all = records := by
  induction records generalizing all with
  | nil => rw [← whole (by simp), untilFailure]
  | cons record records ih =>
    obtain ⟨rest, rfl⟩ := isPrefix
    rw [List.cons_append, untilFailure]
    split
    case isTrue success =>
      refine congrArg (record :: ·) (ih (List.prefix_append ..) (fun r hr => ?_) fun h => ?_)
      · cases records with
        | nil => simp at hr
        | cons next records => exact passed r (List.mem_cons_of_mem record hr)
      · exact (List.cons.inj (whole (List.forall_mem_cons.mpr ⟨success, h⟩))).2
    case isFalse failure =>
      -- Behind a failure nothing is left, since it would not be the last one.
      cases records with
      | nil => rfl
      | cons next records => exact absurd (passed record List.mem_cons_self) failure

/-- Up to the first failure is a beginning. -/
theorem untilFailure_isPrefix (records : List StepRecord) : untilFailure records <+: records := by
  induction records with
  | nil => exact List.prefix_rfl
  | cons record records ih =>
    unfold untilFailure
    split
    · exact (List.prefix_cons_inj record).mpr ih
    · exact List.cons_prefix_cons.mpr ⟨rfl, List.nil_prefix⟩

/-- How many of some records are of failures. -/
def failures (records : List StepRecord) : Nat :=
  records.countP (·.status == .failure)

/-- No record is of a failure exactly if every one is of a step that passed. -/
theorem failures_eq_zero_iff (records : List StepRecord) :
    failures records = 0 ↔ ∀ record ∈ records, record.isSuccess = true := by
  rw [failures, List.countP_eq_zero]
  refine forall₂_congr fun record _ => ?_
  unfold isSuccess
  cases record.status <;> simp

/-- What is left of lists of records that are cut after their first failures, but for times, has not
more failures, and has none exactly if there was none. -/
theorem failures_of_cut {cut whole : List (List StepRecord)}
    (h : cut.map (·.map (·.essence)) =
      whole.map fun records => (untilFailure records).map (·.essence)) :
    failures cut.flatten ≤ failures whole.flatten ∧
      ((∀ record ∈ cut.flatten, record.isSuccess = true) ↔
        ∀ record ∈ whole.flatten, record.isSuccess = true) := by
  -- Neither the failures nor what passed can be seen by the times.
  have hcut : cut.flatten.map (·.essence) =
      (whole.flatMap untilFailure).map (·.essence) := by
    rw [List.map_flatten, h, List.map_flatMap, List.flatMap_def]
  have hfailures : failures cut.flatten = failures (whole.flatMap untilFailure) := by
    have hcount := congrArg (List.countP (·.status == .failure)) hcut
    rwa [List.countP_map, List.countP_map] at hcount
  refine ⟨?_, ?_⟩
  · rw [hfailures, ← List.flatMap_id]
    exact (List.Sublist.flatMap_right whole fun records _ =>
      (untilFailure_isPrefix records).sublist).countP_le
  · rw [← failures_eq_zero_iff, hfailures, failures_eq_zero_iff]
    simp only [List.forall_mem_flatMap, List.forall_mem_flatten, forall_untilFailure_iff]

end StepRecord

/-! ## What a step comes to -/

/-- The browser's answers depend only on what it is asked, and it is never lost. -/
structure Rig.Steady (rig : Rig W) (answer : (c : Call) → Except BrowserError c.Answer) :
    Prop where
  /-- The answers depend only on the question. -/
  answers : ∀ c world, (rig.browser.call c world).1.outcome = answer c
  /-- The browser is not lost. -/
  stays : ∀ c reason, answer c ≠ .error (.sessionLost reason)

variable {rig : Rig W} {answer : (c : Call) → Except BrowserError c.Answer}

/-- A call ends in every stage as its question wants. -/
theorem Rig.Steady.call_eq (steady : rig.Steady answer) (c : Call) (s : Stage W) :
    (s.call rig c).1 = answer c :=
  steady.answers c s.world

/-- A plan that looks at nothing in the session but the messages on the console. -/
inductive Plan.Attentive : Plan → Prop
  /-- The verdict of the session depends on the messages only. -/
  | unasked {told : Session → List Event} {verdict : Session → Except StepError Unit}
    (h : ∀ session session', session.transcript = session'.transcript →
      verdict session = verdict session') : Attentive (.unasked told verdict)
  /-- The browser's answer decides. -/
  | asking (c : Call) (verdict : c.Answer → Except StepError Capture) :
    Attentive (.asking c verdict)

/-- Such a plan comes to the same end where the same messages are on the console. -/
theorem Plan.Attentive.outcome_congr {plan : Plan} (h : plan.Attentive)
    (steady : rig.Steady answer) {s t : Stage W}
    (transcript : s.session.transcript = t.session.transcript) :
    plan.outcome rig s = plan.outcome rig t := by
  cases h with
  | unasked h => exact h _ _ transcript
  | asking c verdict => rw [outcome, outcome, steady.call_eq, steady.call_eq]

/-- The configuration of a run that stops at failures or does not, and otherwise is the same. -/
def RunConfig.withStop (config : RunConfig) (stop : Bool) : RunConfig :=
  { config with stopOnFailure := stop }

namespace Step

/-- The plans of steps look at nothing else. -/
theorem plan_attentive (config : RunConfig) (step : Step) : (step.plan config).Attentive := by
  unfold plan
  cases Action.ofSentence step.sentence with
  | error e => exact .unasked fun _ _ _ => rfl
  | ok action =>
    cases action with
    | verify assertion =>
      rcases assertion with _ | ⟨target, _ | _ | _⟩ | _ | expected
      -- The only assertion that the session decides looks at nothing but the transcript.
      case log =>
        exact .unasked fun session session' h => by rw [h]
      all_goals exact .asking _ _
    | screenshot =>
      simp only [Action.plan]
      split
      · exact .asking _ _
      · exact .unasked fun _ _ _ => rfl
    | captureLogs => exact .unasked fun _ _ _ => rfl
    | extract description target =>
      cases target with
      | none => exact .unasked fun _ _ _ => rfl
      | some target => exact .asking _ _
    | scroll target => cases target <;> exact .asking _ _
    | _ => exact .asking _ _

/-- A step of a group comes to the same end where the same messages are on the console. -/
theorem outcome_congr (steady : rig.Steady answer) (config : RunConfig) (step : Step)
    {s t : Stage W} (transcript : s.session.transcript = t.session.transcript) :
    (step.plan config).outcome rig s = (step.plan config).outcome rig t :=
  (step.plan_attentive config).outcome_congr steady transcript

/-- What a step comes to does not depend on whether the run stops at failures. -/
theorem plan_withStop (config : RunConfig) (stop : Bool) (step : Step) :
    step.plan (config.withStop stop) = step.plan config := by
  unfold plan
  cases Action.ofSentence step.sentence with
  | ok action => cases action <;> rfl
  | error e => rfl

/-- The record, but for its times, that a step of a group would leave if it began in a stage. -/
def foretold (rig : Rig W) (config : RunConfig) (s : Stage W) (group : String) (step : Step) :
    StepRecord :=
  (StepRecord.ofOutcome group step ((step.plan config).outcome rig s) 0 ⟨0⟩).essence

end Step

/-- The records, but for their times, that the steps of a group would leave if each began in the
same stage. -/
def Group.foretold (rig : Rig W) (config : RunConfig) (s : Stage W) (group : Group) :
    List StepRecord :=
  group.steps.map (Step.foretold rig config s group.name)

/-- What is foretold does not depend on whether the run stops at failures. -/
theorem Group.foretold_withStop (rig : Rig W) (config : RunConfig) (stop : Bool) (s : Stage W) :
    Group.foretold rig (config.withStop stop) s = Group.foretold rig config s := by
  funext group
  unfold foretold Step.foretold
  simp only [Step.plan_withStop]

/-- But for its times the record of a step is what was to be expected when the step began. -/
theorem Execution.record_essence {config : RunConfig} (x : Execution rig config) :
    x.record.essence = x.step.foretold rig config x.before x.group := by
  have hresult := x.step.execute_result rig config x.group x.before
  rw [result, x.executed] at hresult
  unfold Step.foretold
  dsimp only at hresult
  split at hresult
  · cases hresult
  · rw [Except.ok.inj hresult]
    cases (x.step.plan config).outcome rig x.before <;> rfl

/-! ## What a tour comes to -/

section Tour

variable {config : RunConfig} {text : String} {s : Stage W}

/-- A browser that is never lost is not lost on a tour. -/
theorem Tour.exists_whole (steady : rig.Steady answer) (tour : Tour rig config) :
    ∃ visits, tour = .whole visits := by
  cases tour with
  | whole visits => exact ⟨visits, rfl⟩
  | lost visits visit loss =>
    have hlost : (loss.step.execute rig config loss.group).result loss.before =
        .error loss.error := by rw [result, loss.lost]
    obtain ⟨c, reason, -, failed, -⟩ :=
      (loss.step.execute_error_iff rig config loss.group loss.before _).mp hlost
    exact absurd ((steady.call_eq c loss.before).symm.trans failed) (steady.stays c reason)

namespace Visit

variable (steady : rig.Steady answer) {visit : Visit rig config} (complete : visit.Complete)
  (silent : ∀ x ∈ visit.executions, x.before.session.transcript = s.session.transcript)

include steady silent

/-- If nothing has arrived on the console, the records of a group are those foretold. -/
theorem records_map_essence : visit.records.map (·.essence) =
    visit.steps.map (Step.foretold rig config s visit.group.name) := by
  unfold records steps
  rw [List.map_map, List.map_map]
  refine List.map_congr_left fun x hx => ?_
  rw [Function.comp_apply, Function.comp_apply, x.record_essence, visit.group_eq x hx,
    Step.foretold, Step.foretold, x.step.outcome_congr steady config (silent x hx)]

include complete

/-- A run that does not stop at failures leaves all records that were foretold. -/
theorem records_of_going (going : config.stopOnFailure = false) :
    visit.records.map (·.essence) = visit.group.foretold rig config s := by
  rw [records_map_essence steady silent, steps, complete.all_of_not_stopping going, Group.foretold]

/-- A run that stops at failures leaves those up to the first failure. -/
theorem records_of_stopping (stopping : config.stopOnFailure = true) :
    visit.records.map (·.essence) =
      StepRecord.untilFailure (visit.group.foretold rig config s) := by
  have hrecords := records_map_essence steady silent
  refine (StepRecord.untilFailure_eq ?_ ?_ fun passing => ?_).symm
  · rw [hrecords]
    exact visit.steps_isPrefix.map _
  · rw [records, List.map_map, ← List.map_dropLast]
    exact List.forall_mem_map.mpr (complete.only_last_fails stopping)
  · rw [records, List.map_map] at passing
    rw [hrecords, steps, complete.all_of_passing (List.forall_mem_map.mp passing), Group.foretold]

end Visit

namespace Flow

variable {store : Report.Store W} {tour : Tour rig config}

/-- If a run leaves the messages on the console as they are, every step finds them so. -/
theorem Toured.transcript_before (h : Toured text s tour) (isOpen : s.session.closed = false)
    (unused : s.session.used = false)
    (silent : ((run rig config store text).reached s).session.transcript = s.session.transcript) :
    ∀ visit ∈ tour.visits, ∀ x ∈ visit.executions,
      x.before.session.transcript = s.session.transcript := by
  intro visit hvisit x hx
  obtain ⟨⟨first, hto⟩, ⟨second, hfrom⟩⟩ := (hears_kept rig).leads_mem h.leads visit hvisit x hx
  have hrun := run_hears_driven rig config store text isOpen unused
  -- What arrives on the way to the step stays there until the end of the run.
  have hbefore : x.before.session.transcript = s.session.transcript ++ first := by
    rw [hto.transcript, (s.begun_quiet text).hears.transcript, List.append_nil]
  have hdriven : (driven rig config (Flow.read text) (begun s text)).session.transcript =
      x.before.session.transcript ++ second := by
    rw [driven, (hfrom.before_quiet (Stage.time_quiet _ _)).transcript]
  have hend := hrun.transcript
  rw [silent, hdriven, hbefore, List.append_assoc, List.append_assoc] at hend
  rw [hbefore, (List.append_eq_nil_iff.mp (List.self_eq_append_right.mp hend)).1, List.append_nil]

end Flow

/-! ## The calls of a tour -/

/-- Events are no calls. -/
theorem Occurrence.filterMap_call?_emitted (events : List Event) :
    (events.map emitted).filterMap call? = [] := by
  rw [List.filterMap_map]
  exact List.filterMap_eq_nil_iff.mpr fun _ _ => rfl

/-- The call among what happens when a plan is carried out is the plan's. -/
theorem Plan.told_calls (rig : Rig W) (s : Stage W) (plan : Plan) :
    (plan.told rig s).filterMap Occurrence.call? = plan.call?.toList := by
  cases plan with
  | unasked events verdict => exact Occurrence.filterMap_call?_emitted (events s.session)
  | asking c verdict => rfl

namespace Execution

/-- The call among what happens from the beginning of a step until the run goes on is the step's. -/
theorem told_calls (x : Execution rig config) (index : Nat) :
    (x.told index).filterMap Occurrence.call? = (x.step.call? config).toList := by
  have hduring : x.during.filterMap Occurrence.call? = (x.step.call? config).toList :=
    Plan.told_calls rig x.before (x.step.plan config)
  have hrest : (if x.record.isSuccess then config.pauses else []).filterMap Occurrence.call? =
      [] := by
    unfold RunConfig.pauses
    split
    · split
      · split <;> rfl
      · rfl
    · rfl
  simp only [told, List.cons_append, List.filterMap_cons, List.filterMap_append, hduring, hrest,
    Occurrence.call?, List.filterMap_nil, List.append_nil]

/-- The calls among what happens while some steps are executed are those of the steps. -/
theorem allTold_calls (index : Nat) (xs : List (Execution rig config)) :
    (allTold index xs).filterMap Occurrence.call? =
      (xs.map (·.step)).filterMap (Step.call? config) := by
  induction xs generalizing index with
  | nil => rfl
  | cons x xs ih =>
    have htold : allTold index (x :: xs) = x.told index ++ allTold (index + 1) xs := rfl
    rw [htold, List.filterMap_append, told_calls, ih, List.map_cons, List.filterMap_cons]
    cases x.step.call? config <;> rfl

end Execution

namespace Visit

/-- The calls of the executed steps. -/
def calls (visit : Visit rig config) : List Call :=
  visit.steps.filterMap (Step.call? config)

/-- The calls among what happens in finished groups are those of the executed steps. -/
theorem flatMap_told_calls (visits : List (Visit rig config)) :
    (visits.flatMap fun visit => visit.told ++ visit.abandonment.map .emitted).filterMap
      Occurrence.call? = visits.flatMap calls := by
  simp only [List.filterMap_flatMap, List.filterMap_append, Occurrence.filterMap_call?_emitted,
    List.append_nil, told, List.filterMap_cons, Occurrence.call?, Execution.allTold_calls]
  rfl

end Visit

/-- The calls of a group of whose steps none is left out. -/
def Group.calls (config : RunConfig) (group : Group) : List Call :=
  group.steps.filterMap (Step.call? config)

/-- Which calls there are does not depend on whether the run stops at failures. -/
theorem Group.calls_withStop (config : RunConfig) (stop : Bool) :
    Group.calls (config.withStop stop) = Group.calls config := by
  funext group
  unfold calls Step.call?
  simp only [Step.plan_withStop]

/-- When groups are executed, the calls are some of those of the groups, in the same order. -/
theorem Visit.flatMap_calls_sublist (visits : List (Visit rig config)) :
    (visits.flatMap calls).Sublist ((visits.map (·.group)).flatMap (Group.calls config)) := by
  rw [List.flatMap_map]
  exact List.Sublist.flatMap_right visits fun visit _ =>
    visit.steps_isPrefix.sublist.filterMap _

/-- If no step is left out, they are all of them. -/
theorem Visit.flatMap_calls_eq (going : config.stopOnFailure = false)
    {visits : List (Visit rig config)} (complete : ∀ visit ∈ visits, visit.Complete) :
    visits.flatMap calls = (visits.map (·.group)).flatMap (Group.calls config) := by
  rw [List.flatMap_map]
  refine List.flatMap_congr fun visit hvisit => ?_
  rw [calls, steps, (complete visit hvisit).all_of_not_stopping going, Group.calls]

end Tour

/-! ## Two runs -/

namespace Flow

section Run

variable {config : RunConfig} {text : String} {s : Stage W} {store : Report.Store W}

/-- A run goes through all groups of its flow. -/
structure RunsThrough (store : Report.Store W) (text : String) (s : Stage W)
    (visits : List (Visit rig config)) : Prop extends Toured text s (.whole visits) where
  /-- The groups that are entered are those of the flow. -/
  groups : visits.map (·.group) = Flow.read text
  /-- The run adds the records of the steps that are executed in them. -/
  records : ((run rig config store text).reached s).session.results.steps =
    s.session.results.steps ++ visits.flatMap Visit.records
  /-- Every record of a failure counts. -/
  failures : ((run rig config store text).reached s).session.results.failureCount =
    s.session.results.failureCount + .ofNat (StepRecord.failures (visits.flatMap Visit.records))
  /-- If the run returns results, they are those of the session. -/
  returned : ∀ results, (run rig config store text).result s = .ok results →
    results = ((run rig config store text).reached s).session.results
  /-- While the groups are run, the calls are those of the executed steps. -/
  calls : ((Group.runAll rig config (Flow.read text)).reached (begun s text)).calls =
    s.calls ++ visits.flatMap Visit.calls

/-- On a browser that is never lost a run goes through all groups of its flow. -/
theorem exists_runsThrough (steady : rig.Steady answer) (config : RunConfig)
    (store : Report.Store W) (text : String) {s : Stage W} (isOpen : s.session.closed = false)
    (unused : s.session.used = false) :
    ∃ visits : List (Visit rig config), RunsThrough store text s visits := by
  obtain ⟨⟨tour, report, closing⟩, h⟩ := exists_account rig config store text isOpen unused
  obtain ⟨visits, rfl⟩ := tour.exists_whole steady
  refine ⟨visits, h.toToured, h.covers.1, h.steps_eq, ?_, fun results hok => h.results_eq hok, ?_⟩
  · obtain ⟨ms, hresults⟩ := h.results
    rw [hresults]
    exact Results.foldl_record_failureCount ..
  · have hbegun : (begun s text).calls = s.calls := by
      simp [Stage.calls, begun, Stage.claim, Stage.emit, Stage.note, Occurrence.call?]
    rw [← hbegun, Stage.calls, h.leads.advances.trace, List.filterMap_append]
    exact congrArg _ (Visit.flatMap_told_calls visits)

namespace RunsThrough

variable {visits : List (Visit rig config)} (h : RunsThrough store text s visits)

include h

/-- If every step of a run passed, a session passed exactly if it had passed before. -/
theorem passed_of_passing (passing : ∀ record ∈ visits.flatMap Visit.records,
      record.isSuccess = true) :
    ((run rig config store text).reached s).session.results.passed = s.session.results.passed := by
  unfold Results.passed
  rw [h.failures, (StepRecord.failures_eq_zero_iff _).mpr passing]
  simp

/-- As long as 32 bits hold the number of failures, a session passed exactly if it had passed before
the run and every step of the run passed. -/
theorem passed_iff (few : s.session.results.failureCount.toNat +
      StepRecord.failures (visits.flatMap Visit.records) < UInt32.size) :
    ((run rig config store text).reached s).session.results.passed = true ↔
      s.session.results.passed = true ∧
        ∀ record ∈ visits.flatMap Visit.records, record.isSuccess = true := by
  have hsize : UInt32.size = 2 ^ 32 := rfl
  rw [← StepRecord.failures_eq_zero_iff]
  unfold Results.passed
  simp only [beq_iff_eq, ← UInt32.toNat_inj, h.failures, UInt32.toNat_add, UInt32.toNat_zero]
  rw [UInt32.toNat_ofNat_of_lt' (by omega), Nat.mod_eq_of_lt (by omega), Nat.add_eq_zero_iff]

variable (steady : rig.Steady answer) (isOpen : s.session.closed = false)
  (unused : s.session.used = false)
  (silent : ((run rig config store text).reached s).session.transcript = s.session.transcript)

include steady isOpen unused silent

/-- A run that goes on leaves the records that are foretold for the groups when it begins. -/
theorem records_of_going (going : config.stopOnFailure = false) :
    visits.map (fun visit => visit.records.map (·.essence)) =
      (Flow.read text).map (Group.foretold rig config s) := by
  have hbefore := h.transcript_before isOpen unused silent
  rw [← h.groups, List.map_map]
  exact List.map_congr_left fun visit hvisit =>
    Visit.records_of_going steady (h.covers.2 visit hvisit) (hbefore visit hvisit) going

/-- A run that stops leaves those up to the first failures in each of them. -/
theorem records_of_stopping (stopping : config.stopOnFailure = true) :
    visits.map (fun visit => visit.records.map (·.essence)) =
      (Flow.read text).map fun group =>
        StepRecord.untilFailure (group.foretold rig config s) := by
  have hbefore := h.transcript_before isOpen unused silent
  rw [← h.groups, List.map_map]
  exact List.map_congr_left fun visit hvisit =>
    Visit.records_of_stopping steady (h.covers.2 visit hvisit) (hbefore visit hvisit) stopping

end RunsThrough

end Run

/-- Of two runs from the same stage, through these groups, the one that stops at failures is the
other one cut short in every group. -/
structure Truncates (rig : Rig W) (config : RunConfig) (store : Report.Store W) (text : String)
    (s : Stage W) (visits : List (Visit rig (config.withStop true)))
    (visits' : List (Visit rig (config.withStop false))) : Prop where
  /-- The one run goes through all groups. -/
  stopping : RunsThrough store text s visits
  /-- So does the other. -/
  going : RunsThrough store text s visits'
  /-- Group by group, the records are those of the other run up to the first failure, but for
  times. -/
  cut : visits.map (fun visit => visit.records.map (·.essence)) =
    visits'.map fun visit => (StepRecord.untilFailure visit.records).map (·.essence)
  /-- Every step passes in the one run exactly if every step does in the other. -/
  passing_iff : (∀ record ∈ visits.flatMap Visit.records, record.isSuccess = true) ↔
    ∀ record ∈ visits'.flatMap Visit.records, record.isSuccess = true
  /-- The results agree on whether all passed. Only where steps fail does that take a counter that
  holds the failures: it has 32 bits, and what is counted beyond them begins again with zero. -/
  passed_eq : ((∃ record ∈ visits'.flatMap Visit.records, record.isSuccess = false) →
      s.session.results.failureCount.toNat +
        StepRecord.failures (visits'.flatMap Visit.records) < UInt32.size) →
    ((run rig (config.withStop true) store text).reached s).session.results.passed =
      ((run rig (config.withStop false) store text).reached s).session.results.passed
  /-- The calls for steps are some of those of the other run, in the same order. -/
  calls : (visits.flatMap Visit.calls).Sublist (visits'.flatMap Visit.calls)

/-- On a browser whose answers depend only on what it is asked, and that is never lost, a run that
stops at failures is the one that goes on, cut short in every group, if nothing arrives on the
console in either. -/
theorem run_truncates (steady : rig.Steady answer) (config : RunConfig) (store : Report.Store W)
    (text : String) {s : Stage W} (isOpen : s.session.closed = false)
    (unused : s.session.used = false)
    (silent : ∀ stop, ((run rig (config.withStop stop) store text).reached s).session.transcript =
      s.session.transcript) :
    ∃ visits visits', Truncates rig config store text s visits visits' := by
  obtain ⟨visits, h⟩ := exists_runsThrough steady (config.withStop true) store text isOpen unused
  obtain ⟨visits', h'⟩ := exists_runsThrough steady (config.withStop false) store text isOpen unused
  have hcut : visits.map (fun visit => visit.records.map (·.essence)) =
      visits'.map fun visit => (StepRecord.untilFailure visit.records).map (·.essence) := by
    have hrecords := h.records_of_stopping steady isOpen unused (silent true) rfl
    have hrecords' := h'.records_of_going steady isOpen unused (silent false) rfl
    rw [Group.foretold_withStop] at hrecords hrecords'
    calc visits.map (fun visit => visit.records.map (·.essence))
      _ = ((Flow.read text).map (Group.foretold rig config s)).map StepRecord.untilFailure := by
        rw [hrecords, List.map_map]
        rfl
      _ = (visits'.map fun visit => visit.records.map (·.essence)).map StepRecord.untilFailure := by
        rw [hrecords']
      _ = visits'.map fun visit => (StepRecord.untilFailure visit.records).map (·.essence) := by
        rw [List.map_map]
        exact List.map_congr_left fun visit _ => StepRecord.untilFailure_map_essence visit.records
  have hlists : (visits.map Visit.records).map (·.map (·.essence)) =
      (visits'.map Visit.records).map fun records =>
        (StepRecord.untilFailure records).map (·.essence) := by
    rwa [List.map_map, List.map_map]
  obtain ⟨hfailures, hpassing⟩ := StepRecord.failures_of_cut hlists
  rw [← List.flatMap_def, ← List.flatMap_def] at hfailures hpassing
  refine ⟨visits, visits', h, h', hcut, hpassing, fun few => ?_, ?_⟩
  · by_cases passing : ∀ record ∈ visits'.flatMap Visit.records, record.isSuccess = true
    · rw [h.passed_of_passing (hpassing.mpr passing), h'.passed_of_passing passing]
    · simp only [not_forall, Bool.not_eq_true] at passing
      obtain ⟨record, hmem, hfails⟩ := passing
      have few := few ⟨record, hmem, hfails⟩
      have few' := Nat.lt_of_le_of_lt (Nat.add_le_add_left hfailures _) few
      rw [Bool.eq_iff_iff, h.passed_iff few', h'.passed_iff few, hpassing]
  · have hsome := Visit.flatMap_calls_sublist visits
    rwa [Group.calls_withStop, h.groups, ← h'.groups, ← Group.calls_withStop config false,
      ← Visit.flatMap_calls_eq rfl h'.covers.2] at hsome

end Flow

/-- What a browser answers that does everything it is told and sees nothing. -/
def Call.blindAnswer : (c : Call) → Except BrowserError c.Answer
  | .title | .url | .textContent _ | .screenshot => .ok ""
  | .isVisible _ | .isPresent _ => .ok false
  | .subscribeConsole | .navigate _ | .goBack | .reload | .wait _ | .click _ | .fill _ _
  | .selectOption _ _ | .check _ | .uncheck _ | .pressKey _ | .scrollToBottom | .scrollIntoView _
  | .close => .ok ()

/-- A rig with such a browser, in a world in which nothing changes. -/
def Rig.blind : Rig Unit where
  browser :=
    { name := "blind", call c _ := ({ outcome := c.blindAnswer }, ()), idle _ _ := ([], ()) }
  clock ms := ⟨ms⟩

/-- The first stage of a session on it. -/
def Stage.blind : Stage Unit :=
  .first .blind "first" ()

namespace Flow

/-- Two groups; on the blind browser the first step of the first one fails, so that a run that stops
at failures leaves out the second one. -/
def blindText : String :=
  "# A\n1. Verifique se o botão \"Sair\" está visível\n2. Volte\n# B\n3. Volte"

/-- On the blind browser nothing arrives on the console, so that the runs can be compared. -/
theorem run_truncates_blind :
    let store : Report.Store Unit := fun _ _ _ _ => pure ""
    Rig.blind.Steady Call.blindAnswer ∧ Stage.blind.session.closed = false ∧
      Stage.blind.session.used = false ∧
      (∀ stop, ((run .blind (RunConfig.withStop {} stop) store blindText).reached
        .blind).session.transcript = Stage.blind.session.transcript) ∧
      ∃ visits visits', Truncates .blind {} store blindText .blind visits visits' := by
  intro store
  have steady : Rig.blind.Steady Call.blindAnswer :=
    ⟨fun _ _ => rfl, fun c reason => by cases c <;> exact nofun⟩
  have silent : ∀ stop, ((run .blind (RunConfig.withStop {} stop) store blindText).reached
      .blind).session.transcript = Stage.blind.session.transcript := by decide +kernel
  exact ⟨steady, rfl, rfl, silent, run_truncates steady {} store blindText rfl rfl silent⟩

end Flow

end BrowserFlow
