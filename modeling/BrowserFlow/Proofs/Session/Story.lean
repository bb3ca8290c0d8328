import BrowserFlow.Proofs.Session.Tour

/-!
# What happens on a tour

Everything that happens on a tour, in order, read off its executions: `Tour.told`. A tour that leads
from one stage to another adds exactly this to the trace and exactly its records to the results
(`Tour.Leads.advances`), by induction on the executions of a group and on the groups.
-/

namespace BrowserFlow

open SessionOp

variable {W : Type} {rig : Rig W} {config : RunConfig}

/-- The pause after a step that passed, if there is one. -/
def RunConfig.pauses (config : RunConfig) : List Occurrence :=
  match config.stepDelayMs with
  | some ms => if ms = 0 then [] else [.paused (pauseLength ms)]
  | none => []

/-- How long the pause after a step that passed takes, in milliseconds. -/
def RunConfig.pause (config : RunConfig) : Nat :=
  match config.stepDelayMs with
  | some ms => pauseLength ms
  | none => 0

/-- After a step that passed a pause is noted, if there is one, and nothing else is. -/
theorem Stage.rest_advances (rig : Rig W) (config : RunConfig) (passed : Bool) (s : Stage W) :
    s.Advances (s.rest rig config passed) (if passed then config.pauses else []) [] := by
  unfold Stage.rest RunConfig.pauses
  cases passed with
  | false => exact s.idle_advances rig 0
  | true =>
    simp only [↓reduceIte]
    cases config.stepDelayMs with
    | none => exact s.idle_advances rig 0
    | some ms =>
      dsimp only
      split
      · exact s.idle_advances rig 0
      · exact ⟨rfl, rfl, rfl, rfl, rfl⟩

namespace Execution

/-- What happens while the step is executed. -/
def during (x : Execution rig config) : List Occurrence :=
  (x.step.plan config).told rig x.before

/-- What happens from the beginning of the step until the run goes on. -/
def told (x : Execution rig config) (index : Nat) : List Occurrence :=
  .emitted (.stepStarted x.group index x.step.sentence) :: x.during ++
    [.emitted (x.record.event index), .recorded x.record] ++
    if x.record.isSuccess then config.pauses else []

/-- Executing the step does what it tells. -/
theorem after_advances (x : Execution rig config) : x.before.Advances x.after x.during [] := by
  have h := x.step.execute_advances rig config x.group x.before
  rwa [reached, x.executed] at h

/-- A step that begins in a stage adds its record, and what it tells. -/
theorem settled_advances (x : Execution rig config) {s : Stage W} {index : Nat}
    (h : x.before = s.emit (.stepStarted x.group index x.step.sentence)) :
    s.Advances (x.settled index) (x.told index) [x.record] := by
  have hbegin := s.emit_advances (.stepStarted x.group index x.step.sentence)
  rw [← h] at hbegin
  -- The step begins, is executed, told and recorded; after one that passed there may be a pause.
  have hend := ((hbegin.trans x.after_advances).trans
    (x.after.emit_advances (x.record.event index))).trans (Stage.record_advances _ x.record)
  simpa [settled, told] using hend.trans (Stage.rest_advances rig config x.record.isSuccess _)

end Execution

/-- What happens while some steps are executed that are counted from an index. -/
def Execution.allTold (index : Nat) (xs : List (Execution rig config)) : List Occurrence :=
  (xs.zipIdx index).flatMap fun (x, i) => x.told i

/-- Executing steps adds their records, and what they tell. -/
theorem Course.advances {name : String} {index : Nat} {s t : Stage W}
    {xs : List (Execution rig config)} (h : Course name index s xs t) :
    s.Advances t (Execution.allTold index xs) (xs.map (·.record)) := by
  induction h with
  | done => exact .refl _
  | @step index s t x xs group_eq before_eq _ ih =>
    subst group_eq
    exact (x.settled_advances before_eq).trans ih

namespace Visit

/-- What happens while the group is entered and its steps are executed. -/
def told (visit : Visit rig config) : List Occurrence :=
  .emitted (.groupStarted visit.group.name visit.group.steps.length) ::
    Execution.allTold 0 visit.executions

/-- The event that tells how many steps are left out, if there are any. -/
def abandonment (visit : Visit rig config) : List Event :=
  if visit.executions.length < visit.group.steps.length then
    [.groupAbandoned visit.group.name (visit.group.steps.length - visit.executions.length)]
  else []

/-- Entering a group and executing its steps adds their records, and what they tell. -/
theorem advances (visit : Visit rig config) {s t : Stage W}
    (h : Course visit.group.name 0
      (s.emit (.groupStarted visit.group.name visit.group.steps.length)) visit.executions t) :
    s.Advances t visit.told visit.records :=
  (s.emit_advances _).trans h.advances

/-- Leaving a group tells what is left out, and changes nothing else. -/
theorem leave_advances (visit : Visit rig config) (s : Stage W) :
    s.Advances (s.leave visit.group visit.executions.length)
      (visit.abandonment.map .emitted) [] := by
  unfold Stage.leave abandonment
  split
  · exact s.emit_advances _
  · exact .refl s

end Visit

/-- Entering and leaving groups adds the records of their steps, and what they tell. -/
theorem Round.advances {s t : Stage W} {visits : List (Visit rig config)} (h : Round s visits t) :
    s.Advances t (visits.flatMap fun visit => visit.told ++ visit.abandonment.map .emitted)
      (visits.flatMap Visit.records) := by
  induction h with
  | done => exact .refl _
  | @visit s t u visit visits course _ ih =>
    simpa using ((visit.advances course).trans (visit.leave_advances t)).trans ih

namespace Tour

/-- Everything that happens on a tour. -/
def told : Tour rig config → List Occurrence
  | .whole visits => visits.flatMap fun visit => visit.told ++ visit.abandonment.map .emitted
  | .lost visits visit loss =>
    (visits.flatMap fun visit => visit.told ++ visit.abandonment.map .emitted) ++ visit.told ++
      .emitted (.stepStarted visit.group.name visit.executions.length loss.step.sentence) ::
      (loss.step.plan config).told rig loss.before

/-- A tour adds its records, and what it tells. -/
theorem Leads.advances {s t : Stage W} {tour : Tour rig config} (h : Leads s tour t) :
    s.Advances t tour.told tour.records := by
  cases h with
  | whole round => exact round.advances
  | @lost t u visits visit loss round course before_eq =>
    have hbegin := u.emit_advances
      (.stepStarted visit.group.name visit.executions.length loss.step.sentence)
    rw [← before_eq] at hbegin
    have hend := loss.step.execute_advances rig config loss.group loss.before
    rw [reached, loss.lost] at hend
    simpa [records, Tour.visits, told] using
      ((round.advances.trans (visit.advances course)).trans hbegin).trans hend

end Tour

/-! ## What can happen on a tour -/

section Forall

variable {P : Occurrence → Prop} (emitted : ∀ event, P (.emitted event))
  (recorded : ∀ record, P (.recorded record)) (paused : ∀ ms, P (.paused ms))

include emitted recorded paused

/-- Apart from what happens while the step is executed, there are events, a record and a pause. -/
theorem Execution.forall_mem_told {x : Execution rig config} (during : ∀ o ∈ x.during, P o)
    (index : Nat) : ∀ o ∈ x.told index, P o := by
  have hpauses : ∀ o ∈ config.pauses, P o := by
    unfold RunConfig.pauses
    split
    · split <;> simp [paused]
    · simp
  intro o ho
  simp only [told, List.cons_append, List.mem_cons, List.mem_append, List.not_mem_nil,
    or_false] at ho
  rcases ho with rfl | (ho | rfl | rfl) | ho
  · exact emitted _
  · exact during o ho
  · exact emitted _
  · exact recorded _
  · split at ho
    · exact hpauses o ho
    · simp at ho

/-- Apart from what happens while steps are executed, there are events, records and pauses. -/
theorem Visit.forall_mem_told {visit : Visit rig config}
    (during : ∀ x ∈ visit.executions, ∀ o ∈ x.during, P o) : ∀ o ∈ visit.told, P o := by
  intro o ho
  rcases List.mem_cons.mp ho with rfl | ho
  · exact emitted _
  · obtain ⟨⟨x, index⟩, hx, ho⟩ := List.mem_flatMap.mp ho
    exact Execution.forall_mem_told emitted recorded paused
      (during x (List.fst_mem_of_mem_zipIdx hx)) index o ho

/-- What holds of events, records and pauses and of everything that happens while steps are
executed holds of everything that happens on a tour. -/
theorem Tour.forall_mem_told {tour : Tour rig config}
    (during : ∀ visit ∈ tour.visits, ∀ x ∈ visit.executions, ∀ o ∈ x.during, P o)
    (losing : ∀ visits visit loss, tour = .lost visits visit loss →
      ∀ o ∈ (loss.step.plan config).told rig loss.before, P o) : ∀ o ∈ tour.told, P o := by
  -- Groups that were finished, in either case.
  have hvisits (visits : List (Visit rig config))
      (h : ∀ visit ∈ visits, ∀ x ∈ visit.executions, ∀ o ∈ x.during, P o) :
      ∀ o ∈ visits.flatMap fun visit => visit.told ++ visit.abandonment.map .emitted, P o := by
    intro o ho
    obtain ⟨visit, hv, ho⟩ := List.mem_flatMap.mp ho
    rcases List.mem_append.mp ho with ho | ho
    · exact Visit.forall_mem_told emitted recorded paused (h visit hv) o ho
    · obtain ⟨event, -, rfl⟩ := List.mem_map.mp ho
      exact emitted event
  cases tour with
  | whole visits => exact hvisits visits during
  | lost visits visit loss =>
    simp only [Tour.visits, List.forall_mem_append, List.forall_mem_singleton] at during
    intro o ho
    rcases List.mem_append.mp ho with ho | ho
    · rcases List.mem_append.mp ho with ho | ho
      · exact hvisits visits during.1 o ho
      · exact Visit.forall_mem_told emitted recorded paused during.2 o ho
    · rcases List.mem_cons.mp ho with rfl | ho
      · exact emitted _
      · exact losing visits visit loss rfl o ho

end Forall

namespace Tour

/-- On a tour the browser is not sent away. -/
theorem close_not_mem_told (tour : Tour rig config) (outcome : Except BrowserError Unit) :
    .called .close outcome ∉ tour.told := by
  have h : ∀ o ∈ tour.told, o ≠ .called .close outcome :=
    forall_mem_told (by simp) (by simp) (by simp)
      (fun _ _ x _ o ho => fun e => x.step.close_not_mem_told rig config x.before outcome (e ▸ ho))
      (fun _ _ loss _ o ho =>
        fun e => loss.step.close_not_mem_told rig config loss.before outcome (e ▸ ho))
  exact fun ho => h _ ho rfl

/-- On a tour no report is given away. -/
theorem persisted_not_mem_told (tour : Tour rig config) (document : ReportDocument)
    (format : ReportFormat) (rendered : String) (kept : Except ErrorChain Path) :
    .persisted document format rendered kept ∉ tour.told := by
  have h : ∀ o ∈ tour.told, o ≠ .persisted document format rendered kept :=
    forall_mem_told (by simp) (by simp) (by simp)
      (fun _ _ x _ o ho => fun e => x.step.persisted_not_mem_told rig config x.before (e ▸ ho))
      (fun _ _ loss _ o ho =>
        fun e => loss.step.persisted_not_mem_told rig config loss.before (e ▸ ho))
  exact fun ho => h _ ho rfl

/-- If a call on a tour lost the browser, the tour ended with just that. -/
theorem outcome_of_mem_told (tour : Tour rig config) {c : Call} {reason : String}
    (h : .called c (.error (.sessionLost reason)) ∈ tour.told) :
    tour.outcome = .error (.sessionLost (BrowserError.sessionLost reason).message) := by
  have hall : ∀ o ∈ tour.told, o = .called c (.error (.sessionLost reason)) →
      tour.outcome = .error (.sessionLost (BrowserError.sessionLost reason).message) := by
    refine forall_mem_told (by simp) (by simp) (by simp) ?_ ?_
    · rintro _ _ x _ o ho rfl
      exact absurd ho ((Step.execute_ok x.executed).2 c reason)
    · -- In the losing step this call is all that happened.
      rintro visits visit loss rfl o ho rfl
      obtain ⟨c', reason', htold, herror⟩ := Step.execute_error loss.lost
      rw [htold, List.mem_singleton] at ho
      cases ho
      exact congrArg Except.error herror
  exact hall _ h rfl

/-- If a tour was cut short, a call on it lost the browser. -/
theorem exists_mem_told (tour : Tour rig config) (h : tour.outcome ≠ .ok ()) :
    ∃ c reason, .called c (.error (.sessionLost reason)) ∈ tour.told := by
  cases tour with
  | whole visits => exact absurd rfl h
  | lost visits visit loss =>
    obtain ⟨c, reason, htold, -⟩ := Step.execute_error loss.lost
    refine ⟨c, reason, ?_⟩
    rw [told, htold]
    simp

end Tour

end BrowserFlow
