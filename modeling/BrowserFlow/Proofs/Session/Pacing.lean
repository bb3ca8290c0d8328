import BrowserFlow.Proofs.Session.Life
import BrowserFlow.Proofs.Session.Punctual
import BrowserFlow.Proofs.Session.Records

/-!
# The pace of a run

After each step that passes there is a pause, if the configuration wants one. `Occurrence.Paced`
says of what happened in a run that each record of a step that passed has its pause directly behind
it, and that there is no other pause. It is read off the account of the run, part by part: what is told
of a step, of a visit, of a tour, of everything.

So the pauses are as many as the steps that passed, and as a run is punctual, they are all the time
that it takes (`Flow.run_paces`). Whatever comes next, a call to the browser or the end, comes after
the pause.
-/

namespace BrowserFlow

open SessionOp Occurrence

variable {W : Type}

/-! ## Where the pauses are -/

/-- A pause takes no time only if it was to take none. -/
theorem pauseLength_eq_zero_iff (ms : UInt64) : pauseLength ms = 0 ↔ ms = 0 := by
  have hzero : ms = 0 ↔ ms.toNat = 0 := UInt64.toNat_inj.symm
  rw [hzero]
  unfold pauseLength longestPause
  omega

/-- There is a pause after a step that passed if it takes any time. -/
theorem RunConfig.pauses_eq (config : RunConfig) :
    config.pauses = if config.pause = 0 then [] else [.paused config.pause] := by
  unfold pauses pause
  cases config.stepDelayMs with
  | none => rfl
  | some ms => simp [pauseLength_eq_zero_iff]

/-- The pauses after a step that passed take as long as they are to. -/
theorem Occurrence.waited_pauses (config : RunConfig) : waited config.pauses = config.pause := by
  rw [config.pauses_eq]
  split
  · rename_i h
    exact h.symm
  · simp [waited, wait]

/-- The pause after a step that left this record, if there is one. -/
def RunConfig.pausesAfter (config : RunConfig) (record : StepRecord) : List Occurrence :=
  if record.isSuccess then config.pauses else []

/-- There is at most one pause after a step, and only if the step passed. -/
theorem RunConfig.pausesAfter_cases (config : RunConfig) (record : StepRecord) :
    config.pausesAfter record = [] ∨ (record.isSuccess = true ∧ 0 < config.pause ∧
      config.pausesAfter record = [.paused config.pause]) := by
  unfold pausesAfter
  rw [config.pauses_eq]
  split
  · split
    · exact .inl rfl
    · exact .inr ⟨‹_›, Nat.pos_of_ne_zero ‹_›, rfl⟩
  · exact .inl rfl

namespace Occurrence

/-- The record that an occurrence is. -/
def record? : Occurrence → Option StepRecord
  | .recorded record => some record
  | _ => none

/-- Neither a record nor a pause. -/
def Neutral (o : Occurrence) : Prop :=
  o.record? = none ∧ ∀ ms, o ≠ .paused ms

/-- Among what happens there are these records. Behind each of them there is its pause, if the step
passed and the configuration wants one, and nowhere else. -/
inductive Paced (config : RunConfig) : List StepRecord → List Occurrence → Prop
  /-- Nothing happens. -/
  | nil : Paced config [] []
  /-- Something else happens. -/
  | neutral {o : Occurrence} {records : List StepRecord} {told : List Occurrence}
    (neutral : o.Neutral) (tail : Paced config records told) : Paced config records (o :: told)
  /-- A step has left a record. -/
  | recorded (record : StepRecord) {records : List StepRecord} {told : List Occurrence}
    (tail : Paced config records told) :
    Paced config (record :: records) (.recorded record :: (config.pausesAfter record ++ told))

variable {config : RunConfig} {records : List StepRecord} {told before after : List Occurrence}
  {o : Occurrence}

/-- Events are neither records nor pauses. -/
theorem neutral_emitted (event : Event) : Neutral (.emitted event) :=
  ⟨rfl, nofun⟩

/-- Calls are neither records nor pauses. -/
theorem neutral_called (c : Call) (outcome : Except BrowserError c.Answer) :
    Neutral (.called c outcome) :=
  ⟨rfl, nofun⟩

/-- Giving a report away is neither a record nor a pause. -/
theorem neutral_persisted (document : ReportDocument) (format : ReportFormat) (rendered : String)
    (outcome : Except ErrorChain Path) : Neutral (.persisted document format rendered outcome) :=
  ⟨rfl, nofun⟩

/-- Where there are neither records nor pauses, every pause is where it is to be. -/
theorem paced_of_neutral (h : ∀ o ∈ told, o.Neutral) : Paced config [] told := by
  induction told with
  | nil => exact .nil
  | cons o told ih =>
    rw [List.forall_mem_cons] at h
    exact .neutral h.1 (ih h.2)

/-- Among events there are neither records nor pauses. -/
theorem paced_events (events : List Event) : Paced config [] (events.map .emitted) :=
  paced_of_neutral (List.forall_mem_map.mpr fun event _ => neutral_emitted event)

/-- While a plan is carried out there are neither records nor pauses. -/
theorem paced_told (rig : Rig W) (s : Stage W) (plan : Plan) :
    Paced config [] (plan.told rig s) := by
  cases plan with
  | unasked told verdict => exact paced_events _
  | asking c verdict => exact .neutral (neutral_called _ _) .nil

namespace Paced

/-- What happens next may be put behind what happens first. -/
theorem append {later : List StepRecord} {next : List Occurrence} (h : Paced config records told)
    (hnext : Paced config later next) : Paced config (records ++ later) (told ++ next) := by
  induction h with
  | nil => exact hnext
  | neutral neutral _ ih => exact .neutral neutral ih
  | recorded record _ ih =>
    rw [List.cons_append, List.cons_append, List.append_assoc]
    exact .recorded record ih

/-- The records are those that were noted. -/
theorem filterMap_record? (h : Paced config records told) : told.filterMap record? = records := by
  induction h with
  | nil => rfl
  | neutral neutral _ ih => rw [List.filterMap_cons, neutral.1, ih]
  | recorded record _ ih =>
    have hpauses : (config.pausesAfter record).filterMap record? = [] := by
      obtain hnone | ⟨-, -, hone⟩ := config.pausesAfter_cases record
      · rw [hnone]
        rfl
      · rw [hone]
        rfl
    rw [List.filterMap_cons, List.filterMap_append, hpauses, ih]
    rfl

/-- The pauses take as long as one pause for each step that passed. -/
theorem waited_eq (h : Paced config records told) :
    waited told = records.countP (·.isSuccess) * config.pause := by
  have hcons (o : Occurrence) (told : List Occurrence) :
      waited (o :: told) = o.wait + waited told := by simp [waited]
  -- Neutral occurrences take no time; each record brings its own pauses with it.
  induction h with
  | nil => exact (Nat.zero_mul _).symm
  | @neutral o records told neutral _ ih =>
    have hwait : o.wait = 0 := by
      cases o with
      | paused ms => exact absurd rfl (neutral.2 ms)
      | _ => rfl
    rw [hcons, hwait, ih, Nat.zero_add]
  | recorded record _ ih =>
    have hafter : waited (config.pausesAfter record) =
        (if record.isSuccess then 1 else 0) * config.pause := by
      unfold RunConfig.pausesAfter
      cases record.isSuccess with
      | true => simpa using waited_pauses config
      | false => simp [waited]
    rw [hcons, waited_append, ih, hafter, List.countP_cons, Nat.add_mul]
    show 0 + _ = _
    omega

/-- What comes behind a record's pause, if that is no pause, comes behind all of it. -/
theorem exists_append_of_pausesAfter {record : StepRecord}
    (heq : config.pausesAfter record ++ told = before ++ o :: after) (ho : ∀ ms, o ≠ .paused ms) :
    ∃ between, before = config.pausesAfter record ++ between ∧ told = between ++ o :: after := by
  obtain hnone | ⟨-, -, hone⟩ := config.pausesAfter_cases record
  · rw [hnone] at heq ⊢
    exact ⟨before, rfl, heq⟩
  · rw [hone] at heq ⊢
    cases before with
    | nil => exact absurd (List.cons.inj heq).1.symm (ho _)
    | cons pause between =>
      obtain ⟨rfl, htold⟩ := List.cons.inj heq
      exact ⟨between, rfl, htold⟩

/-- What happens may be cut before anything but a pause. -/
theorem split (h : Paced config records told) (heq : told = before ++ o :: after)
    (ho : ∀ ms, o ≠ .paused ms) :
    ∃ earlier later, Paced config earlier before ∧ Paced config later (o :: after) := by
  -- Since no pause is at the cut, it does not part a record from its pauses.
  induction h generalizing before with
  | nil => simp at heq
  | @neutral o' records told neutral tail ih =>
    cases before with
    | nil =>
      rw [List.nil_append] at heq
      exact ⟨[], records, .nil, heq ▸ .neutral neutral tail⟩
    | cons first before =>
      obtain ⟨rfl, htail⟩ := List.cons.inj heq
      obtain ⟨earlier, later, hbefore, hafter⟩ := ih htail
      exact ⟨earlier, later, .neutral neutral hbefore, hafter⟩
  | @recorded record records told tail ih =>
    cases before with
    | nil =>
      rw [List.nil_append] at heq
      exact ⟨[], record :: records, .nil, heq ▸ .recorded record tail⟩
    | cons first before =>
      obtain ⟨rfl, htail⟩ := List.cons.inj heq
      obtain ⟨between, rfl, htold⟩ := exists_append_of_pausesAfter htail ho
      obtain ⟨earlier, later, hbefore, hafter⟩ := ih htold
      exact ⟨record :: earlier, later, .recorded record hbefore, hafter⟩

/-- A pause is right behind the record of a step that passed, and takes as long as it is to. -/
theorem of_pause {ms : Nat} (h : Paced config records told)
    (heq : told = before ++ .paused ms :: after) :
    ms = config.pause ∧ 0 < ms ∧ ∃ earlier record,
      before = earlier ++ [.recorded record] ∧ record.isSuccess = true := by
  induction h generalizing before with
  | nil => simp at heq
  | neutral neutral _ ih =>
    cases before with
    | nil => exact absurd (List.cons.inj heq).1 (neutral.2 ms)
    | cons first before =>
      obtain ⟨rfl, htail⟩ := List.cons.inj heq
      obtain ⟨hms, hpos, earlier, record, rfl, passed⟩ := ih htail
      exact ⟨hms, hpos, _ :: earlier, record, rfl, passed⟩
  | @recorded record records told _ ih =>
    cases before with
    | nil => cases heq
    | cons first before =>
      obtain ⟨rfl, htail⟩ := List.cons.inj heq
      -- The pause is the one of this record, or it is behind that.
      have hcases : (ms = config.pause ∧ 0 < ms ∧ before = [] ∧ record.isSuccess = true) ∨
          ∃ between, before = config.pausesAfter record ++ between ∧
            told = between ++ .paused ms :: after := by
        obtain hnone | ⟨passed, hpos, hone⟩ := config.pausesAfter_cases record
        · rw [hnone] at htail ⊢
          exact .inr ⟨before, rfl, htail⟩
        · rw [hone] at htail ⊢
          cases before with
          | nil =>
            cases htail
            exact .inl ⟨rfl, hpos, rfl, passed⟩
          | cons pause between =>
            obtain ⟨rfl, htold⟩ := List.cons.inj htail
            exact .inr ⟨between, rfl, htold⟩
      obtain ⟨rfl, hpos, rfl, passed⟩ | ⟨between, rfl, htold⟩ := hcases
      · exact ⟨rfl, hpos, [], record, rfl, passed⟩
      · obtain ⟨hms, hpos, earlier, record', rfl, passed'⟩ := ih htold
        exact ⟨hms, hpos, .recorded record :: (config.pausesAfter record ++ earlier), record',
          by simp, passed'⟩

/-- Right behind the record of a step there is its pause. -/
theorem of_record {record : StepRecord} (h : Paced config records told)
    (heq : told = before ++ .recorded record :: after) :
    ∃ next, after = config.pausesAfter record ++ next := by
  obtain ⟨-, later, -, hlater⟩ := h.split heq nofun
  cases hlater with
  | neutral neutral => exact absurd neutral.1 nofun
  | recorded record tail => exact ⟨_, rfl⟩

end Paced

end Occurrence

section Account

variable {rig : Rig W} {config : RunConfig}

/-- What is told of a step has its record and then its pause. -/
theorem Execution.told_paced (x : Execution rig config) (index : Nat) :
    Paced config [x.record] (x.told index) := by
  have hduring : Paced config [] x.during := paced_told rig x.before _
  have hrecord : Paced config [x.record]
      (.recorded x.record :: (config.pausesAfter x.record ++ [])) := .recorded x.record .nil
  have hbegin : Paced config [] [.emitted (.stepStarted x.group index x.step.sentence)] :=
    paced_events [_]
  have hend := (hbegin.append hduring).append ((paced_events [x.record.event index]).append hrecord)
  simpa [told, RunConfig.pausesAfter] using hend

/-- What is told of a visit has the records of the steps, each with its pause. -/
theorem Visit.told_paced (visit : Visit rig config) : Paced config visit.records visit.told := by
  have hall (index : Nat) (xs : List (Execution rig config)) :
      Paced config (xs.map (·.record)) (Execution.allTold index xs) := by
    induction xs generalizing index with
    | nil => exact .nil
    | cons x xs ih => exact (x.told_paced index).append (ih (index + 1))
  exact .neutral (neutral_emitted _) (hall 0 visit.executions)

/-- What is told of a tour has the records of the steps, each with its pause. -/
theorem Tour.told_paced (tour : Tour rig config) : Paced config tour.records tour.told := by
  have hvisits (visits : List (Visit rig config)) :
      Paced config (visits.flatMap Visit.records)
        (visits.flatMap fun visit => visit.told ++ visit.abandonment.map .emitted) := by
    induction visits with
    | nil => exact .nil
    | cons visit visits ih =>
      have hvisit := visit.told_paced.append (paced_events visit.abandonment)
      rw [List.append_nil] at hvisit
      exact hvisit.append ih
  cases tour with
  | whole visits => exact hvisits visits
  | lost visits visit loss =>
    -- The step in which the browser is lost leaves no record.
    have hplan : Paced config [] ((loss.step.plan config).told rig loss.before) :=
      paced_told rig loss.before _
    have hloss := hplan.neutral
      (neutral_emitted (.stepStarted visit.group.name visit.executions.length loss.step.sentence))
    simpa [records, Tour.visits, told] using ((hvisits visits).append visit.told_paced).append hloss

/-- What happens in a run has the records of the tour, each with its pause. -/
theorem Flow.Account.history_paced (account : Account rig config) (store : Report.Store W)
    (text : String) (s : Stage W) (result : Except RunError Results) :
    Paced config account.tour.records (account.history store text s result) := by
  -- Behind the tour there are no more records and no more pauses.
  have hreport : Paced config [] (account.report.elim [] (reportTold rig config store)) := by
    cases account.report with
    | none => exact .nil
    | some v => exact .neutral (neutral_called _ _) (.neutral (neutral_called _ _)
        (.neutral (neutral_persisted _ _ _ _) (paced_events _)))
  have hclosing : Paced config [] (account.closing.elim [] (closingTold rig)) := by
    cases account.closing with
    | none => exact .nil
    | some v => exact .neutral (neutral_called _ _) .nil
  have htold := (account.tour.told_paced.append hreport).append hclosing
  rw [List.append_nil, List.append_nil] at htold
  have hhistory := (Paced.neutral (neutral_emitted (.runStarted s.session.id
    (Flow.read text).length (stepCount (Flow.read text)))) htold).append
    (paced_events (finishedEvents result))
  rwa [List.append_nil] at hhistory

end Account

/-! ## Runs -/

/-- What happened between two stages, and which records were added, in a session that pauses after
each step that passed and otherwise takes no time. -/
structure Stage.Paces (config : RunConfig) (s t : Stage W) (told : List Occurrence)
    (records : List StepRecord) : Prop where
  /-- What happened was noted. -/
  trace : t.trace = s.trace ++ told
  /-- The records were added to those from before. -/
  steps : t.session.results.steps = s.session.results.steps ++ records
  /-- They are those that were noted. -/
  recorded : told.filterMap record? = records
  /-- The time that has passed is that of one pause for each step that passed. -/
  elapsed : t.elapsed = s.elapsed + records.countP (·.isSuccess) * config.pause
  /-- Every pause is right behind the record of a step that passed. -/
  of_pause : ∀ before ms after, told = before ++ .paused ms :: after →
    ms = config.pause ∧ 0 < ms ∧
      ∃ earlier record, before = earlier ++ [.recorded record] ∧ record.isSuccess = true
  /-- Right behind the record of a step that passed there is its pause, if there is to be one. -/
  of_passed : ∀ before record after, told = before ++ .recorded record :: after →
    record.isSuccess = true → ∃ later, after = config.pauses ++ later
  /-- There is no pause behind the record of a step that failed. -/
  of_failed : ∀ before record after, told = before ++ .recorded record :: after →
    record.isSuccess = false → ∀ ms, after.head? ≠ some (.paused ms)
  /-- Whenever the browser is called, there have been the pauses for all steps before. -/
  of_call : ∀ before c outcome after, told = before ++ .called c outcome :: after →
    waited before = (before.filterMap record?).countP (·.isSuccess) * config.pause

/-- If every pause is where it is to be and nothing else takes any time, the pauses are the pace. -/
theorem Occurrence.Paced.paces {config : RunConfig} {s t : Stage W} {told : List Occurrence}
    {records : List StepRecord} (h : Paced config records told) (trace : t.trace = s.trace ++ told)
    (steps : t.session.results.steps = s.session.results.steps ++ records) (inTime : s.InTime t) :
    s.Paces config t told records where
  trace := trace
  steps := steps
  recorded := h.filterMap_record?
  elapsed := by rw [inTime.elapsed_eq trace, h.waited_eq]
  of_pause _ _ _ heq := h.of_pause heq
  of_passed before record after heq passed := by
    have hnext := h.of_record heq
    rwa [RunConfig.pausesAfter, if_pos passed] at hnext
  of_failed before record after heq failed ms hhead := by
    obtain ⟨after, rfl⟩ := List.head?_eq_some_iff.mp hhead
    have htold : told = (before ++ [.recorded record]) ++ .paused ms :: after := by simpa using heq
    obtain ⟨-, -, earlier, record', hbefore, passed⟩ := h.of_pause htold
    obtain ⟨-, hlast⟩ := List.append_inj' hbefore rfl
    cases hlast
    rw [failed] at passed
    cases passed
  of_call before c outcome after heq := by
    obtain ⟨earlier, -, hbefore, -⟩ := h.split heq nofun
    rw [hbefore.waited_eq, hbefore.filterMap_record?]

namespace Flow

/-- A run on a rig whose browser takes no time takes as long as one pause for each step that passed
in it, wherever steps failed and however it ended, and the pauses are right behind these steps. -/
theorem run_paces {rig : Rig W} (instant : rig.Instant) (config : RunConfig)
    (store : Report.Store W) (text : String) (s : Stage W) :
    ∃ told records, s.Paces config ((run rig config store text).reached s) told records := by
  have hrun := punctual_run instant config store text s
  by_cases begins : s.session.closed = false ∧ s.session.used = false
  · obtain ⟨account, h⟩ := exists_account rig config store text begins.1 begins.2
    exact ⟨_, _, (account.history_paced store text s _).paces h.trace_eq h.steps_eq hrun⟩
  · -- A run that is refused leaves everything as it is.
    obtain ⟨e, he⟩ := run_refused rig config store text begins
    have hreached : (run rig config store text).reached s = s := by rw [reached, he]
    rw [hreached]
    exact ⟨[], [], Paced.nil.paces (by simp) (by simp) (.refl s)⟩

/-- The scripted browser takes no time, so that a run there takes as long as its pauses. -/
theorem run_paces_scripted :
    Rig.scripted.Instant ∧ ∃ told records, Stage.scripted.Paces { stepDelayMs := some 5 }
      ((run .scripted { stepDelayMs := some 5 } (.directory "out") Flow.sample).reached .scripted)
      told records :=
  ⟨Rig.scripted_instant, run_paces Rig.scripted_instant { stepDelayMs := some 5 }
    (.directory "out") Flow.sample .scripted⟩

/-- A pause does not take longer than the longest one, whatever the configuration wants. Here one
step passes, and the run takes less than the one pause was to take. -/
theorem run_pauses_shortened :
    Rig.scripted.Instant ∧
      let t := (run .scripted { stepDelayMs := some 946080000001 } (.directory "out")
        "1. Volte").reached .scripted
      Stage.scripted.session.results.steps = [] ∧
        t.session.results.steps.countP (·.isSuccess) = 1 ∧
        t.elapsed ≠ Stage.scripted.elapsed + 946080000001 * 1 :=
  ⟨Rig.scripted_instant, by decide +kernel⟩

-- Two of the three steps pass.
example : ((run .scripted { stepDelayMs := some 5 } (.directory "out") Flow.sample).reached
    .scripted).elapsed = 10 := by
  decide +kernel

end Flow

end BrowserFlow
