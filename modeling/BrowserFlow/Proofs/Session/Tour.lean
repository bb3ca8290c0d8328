import BrowserFlow.Proofs.Session.Plan
import BrowserFlow.Session.Run

/-!
# Tours through a flow

The reference for what a run does with the groups of a flow, as data: a tour is the list of the
groups that were entered, each with the steps that were executed and their records, and at its end
perhaps the step in which the browser was lost. `Tour.Covers` says which steps a tour must execute,
by the flow and the records alone. `Tour.Leads` says that its executions really took place one after
the other, with nothing in between that could ask the browser or touch the session's results.

`Group.exists_tour` shows that running groups is making a tour, whatever the browser does. The
proof goes bottom up: the steps of a group by induction on the steps (`runSteps_ok_or_lost`), the
groups by induction on the groups.
-/

namespace BrowserFlow

open SessionOp

variable {W : Type}

/-! ## What a tour consists of -/

/-- A step of a group that was executed and left a record. -/
structure Execution (rig : Rig W) (config : RunConfig) where
  /-- The name of the group. -/
  group : String
  /-- The step. -/
  step : Step
  /-- The stage in which the step began. -/
  before : Stage W
  /-- The record that it left. -/
  record : StepRecord
  /-- The stage in which it ended. -/
  after : Stage W
  /-- Executing the step in the one stage leads to the other, with this record. -/
  executed : step.execute rig config group before = .ok record after

/-- A step of a group in which the browser was lost. -/
structure Loss (rig : Rig W) (config : RunConfig) where
  /-- The name of the group. -/
  group : String
  /-- The step. -/
  step : Step
  /-- The stage in which the step began. -/
  before : Stage W
  /-- Why there is no record. -/
  error : RunError
  /-- The stage in which the browser was lost. -/
  after : Stage W
  /-- Executing the step in the one stage leads to the other, and fails. -/
  lost : step.execute rig config group before = .error error after

/-- A group that was entered, with the first ones of its steps, which were executed. -/
structure Visit (rig : Rig W) (config : RunConfig) where
  /-- The group. -/
  group : Group
  /-- The executions of its steps, in order. -/
  executions : List (Execution rig config)
  /-- The executions belong to the group. -/
  group_eq : ∀ x ∈ executions, x.group = group.name
  /-- The executed steps are the first ones of the group. -/
  steps_isPrefix : executions.map (·.step) <+: group.steps

/-- The groups that were entered, all of them finished or the last one cut short. -/
inductive Tour (rig : Rig W) (config : RunConfig)
  /-- Every group was finished. -/
  | whole (visits : List (Visit rig config))
  /-- The browser was lost in the last group. -/
  | lost (visits : List (Visit rig config)) (visit : Visit rig config) (loss : Loss rig config)

variable {rig : Rig W} {config : RunConfig}

/-- Executions that suffice for the steps of a group: all of them, unless the run is to stop at
failures; then it is the shortest beginning that ends with a failure, or all if none fails. -/
structure Suffice (steps : List Step) (executions : List (Execution rig config)) : Prop where
  /-- A run that does not stop at failures executes all steps. -/
  all_of_not_stopping : config.stopOnFailure = false → executions.map (·.step) = steps
  /-- In a run that stops at failures only the last executed step may have failed. -/
  only_last_fails : config.stopOnFailure = true →
    ∀ x ∈ executions.dropLast, x.record.isSuccess = true
  /-- If no step fails, all are executed. -/
  all_of_passing : (∀ x ∈ executions, x.record.isSuccess = true) →
    executions.map (·.step) = steps

namespace Visit

/-- The executed steps. -/
def steps (visit : Visit rig config) : List Step :=
  visit.executions.map (·.step)

/-- The records of the executed steps. -/
def records (visit : Visit rig config) : List StepRecord :=
  visit.executions.map (·.record)

/-- The group was finished. -/
def Complete (visit : Visit rig config) : Prop :=
  Suffice visit.group.steps visit.executions

end Visit

namespace Tour

/-- All groups that were entered. -/
def visits : Tour rig config → List (Visit rig config)
  | .whole visits => visits
  | .lost visits visit _ => visits ++ [visit]

/-- The records of all executed steps. -/
def records (tour : Tour rig config) : List StepRecord :=
  tour.visits.flatMap Visit.records

/-- How the tour ended. -/
def outcome : Tour rig config → Except RunError Unit
  | .whole _ => .ok ()
  | .lost _ _ loss => .error loss.error

/-- The tour enters the groups in order and finishes each; if the browser is lost, it ends in the
group of the losing step, just before that step, and no group behind it is entered. -/
def Covers (groups : List Group) : Tour rig config → Prop
  | .whole visits => visits.map (·.group) = groups ∧ ∀ visit ∈ visits, visit.Complete
  | .lost visits visit loss =>
    (∃ later, groups = visits.map (·.group) ++ visit.group :: later) ∧
      (∀ visit ∈ visits, visit.Complete) ∧
      (∃ later, visit.group.steps = visit.steps ++ loss.step :: later) ∧
      (config.stopOnFailure = true → ∀ x ∈ visit.executions, x.record.isSuccess = true) ∧
      loss.group = visit.group.name

end Tour

/-! ## How a tour takes place -/

namespace Stage

/-- The stage after what lies between a step and what follows it. -/
def rest (rig : Rig W) (config : RunConfig) (passed : Bool) (s : Stage W) : Stage W :=
  match if passed then config.stepDelayMs else none with
  | some ms =>
    if ms = 0 then s.idle rig 0
    else (s.idle rig (pauseLength ms)).note (.paused (pauseLength ms))
  | none => s.idle rig 0

/-- The stage when a group is left after so many executed steps. -/
def leave (s : Stage W) (group : Group) (executed : Nat) : Stage W :=
  if executed < group.steps.length then
    s.emit (.groupAbandoned group.name (group.steps.length - executed))
  else s

end Stage

/-- The stage in which the run goes on after the step with this index. -/
def Execution.settled (x : Execution rig config) (index : Nat) : Stage W :=
  ((x.after.emit (x.record.event index)).record x.record).rest rig config x.record.isSuccess

/-- Steps of a group, counted from an index, are executed one after the other from one stage to
another. -/
inductive Course (name : String) : Nat → Stage W → List (Execution rig config) → Stage W → Prop
  /-- Executing nothing leads nowhere. -/
  | done (index : Nat) (s : Stage W) : Course name index s [] s
  /-- A step begins where the one before it has left the run. -/
  | step {index : Nat} {s t : Stage W} {x : Execution rig config} {xs : List (Execution rig config)}
    (group_eq : x.group = name)
    (before_eq : x.before = s.emit (.stepStarted name index x.step.sentence))
    (later : Course name (index + 1) (x.settled index) xs t) : Course name index s (x :: xs) t

/-- Groups are entered and left one after the other from one stage to another. -/
inductive Round : Stage W → List (Visit rig config) → Stage W → Prop
  /-- Entering no group leads nowhere. -/
  | done (s : Stage W) : Round s [] s
  /-- A group is entered where the one before it was left. -/
  | visit {s t u : Stage W} {visit : Visit rig config} {visits : List (Visit rig config)}
    (course : Course visit.group.name 0
      (s.emit (.groupStarted visit.group.name visit.group.steps.length)) visit.executions t)
    (later : Round (t.leave visit.group visit.executions.length) visits u) :
    Round s (visit :: visits) u

/-- A tour takes place from one stage to another. -/
inductive Tour.Leads : Stage W → Tour rig config → Stage W → Prop
  /-- All groups were entered and left. -/
  | whole {s t : Stage W} {visits : List (Visit rig config)} (round : Round s visits t) :
    Leads s (.whole visits) t
  /-- The browser was lost in a step that began where the one before it had left the run. -/
  | lost {s t u : Stage W} {visits : List (Visit rig config)} {visit : Visit rig config}
    {loss : Loss rig config} (round : Round s visits t)
    (course : Course visit.group.name 0
      (t.emit (.groupStarted visit.group.name visit.group.steps.length)) visit.executions u)
    (before_eq : loss.before =
      u.emit (.stepStarted visit.group.name visit.executions.length loss.step.sentence)) :
    Leads s (.lost visits visit loss) loss.after

/-! ## Running is making a tour -/

namespace SessionOp

/-- What lies between a step and what follows it never fails. -/
theorem rest_apply (rig : Rig W) (config : RunConfig) (passed : Bool) (s : Stage W) :
    (Group.rest rig config passed) s = .ok () (s.rest rig config passed) := by
  unfold Group.rest Stage.rest
  cases if passed then config.stepDelayMs else none with
  | none => rfl
  | some ms =>
    dsimp only
    split <;> rfl

/-- Leaving a group early is told if there is something left. -/
theorem abandon_apply (name : String) (remaining : List Step) (s : Stage W) :
    (Group.abandon name remaining) s = .ok () (if remaining.isEmpty then s else
      s.emit (.groupAbandoned name remaining.length)) := by
  unfold Group.abandon
  split <;> rfl

end SessionOp

namespace Suffice

/-- A step is executed after which the run goes on. -/
theorem cons {x : Execution rig config} {steps : List Step} {xs : List (Execution rig config)}
    (hx : x.record.isSuccess = true ∨ config.stopOnFailure = false) (h : Suffice steps xs) :
    Suffice (x.step :: steps) (x :: xs) where
  all_of_not_stopping hs := by rw [List.map_cons, h.all_of_not_stopping hs]
  only_last_fails hs y hy := by
    cases xs with
    | nil => simp at hy
    | cons z zs =>
      rw [List.dropLast_cons_cons, List.mem_cons] at hy
      rcases hy with rfl | hy
      · exact hx.resolve_right (by simp [hs])
      · exact h.only_last_fails hs y hy
  all_of_passing hp := by
    rw [List.map_cons, h.all_of_passing fun y hy => hp y (List.mem_cons_of_mem x hy)]

/-- A run stops after a step that fails. -/
theorem of_failure {x : Execution rig config} (steps : List Step) (hx : x.record.isSuccess = false)
    (hs : config.stopOnFailure = true) : Suffice (x.step :: steps) [x] where
  all_of_not_stopping hs' := by simp [hs] at hs'
  only_last_fails _ y hy := by simp at hy
  all_of_passing hp := by simp [hx] at hp

end Suffice

namespace Group

/-- After a step that left a record, the group is left if the run is to stop at failures and this
was one; else the run goes on with the next step. -/
theorem runSteps_cons (x : Execution rig config) {index : Nat} {s : Stage W}
    (hx : x.before = s.emit (.stepStarted x.group index x.step.sentence)) (remaining : List Step) :
    runSteps rig config x.group index (x.step :: remaining) s =
      if x.record.isSuccess = false ∧ config.stopOnFailure = true then
        abandon x.group remaining (x.settled index)
      else runSteps rig config x.group (index + 1) remaining (x.settled index) := by
  have he := x.executed
  rw [hx] at he
  simp only [runSteps, bind_apply, emit_apply, he, record_apply, rest_apply]
  unfold Execution.settled
  cases x.record.isSuccess with
  | true => simp
  | false => by_cases hs : config.stopOnFailure = true <;> simp [hs]

/-- Executing the steps of a group either executes as many as suffice, or loses the browser in one
of them, everything before it having been executed. -/
theorem runSteps_ok_or_lost (rig : Rig W) (config : RunConfig) (name : String) (steps : List Step)
    (index : Nat) (s : Stage W) :
    ∃ (xs : List (Execution rig config)) (t : Stage W), Course name index s xs t ∧
      ((xs.map (·.step) <+: steps ∧ Suffice steps xs ∧
          runSteps rig config name index steps s = .ok () (if xs.length < steps.length then
            t.emit (.groupAbandoned name (steps.length - xs.length)) else t)) ∨
        ∃ (loss : Loss rig config) (later : List Step),
          steps = xs.map (·.step) ++ loss.step :: later ∧
          (config.stopOnFailure = true → ∀ x ∈ xs, x.record.isSuccess = true) ∧
          loss.group = name ∧
          loss.before = t.emit (.stepStarted name (index + xs.length) loss.step.sentence) ∧
          runSteps rig config name index steps s = .error loss.error loss.after) := by
  -- The induction is on the steps that are left; each begins where the one before it has settled.
  induction steps generalizing index s with
  | nil =>
    exact ⟨[], s, .done index s, .inl ⟨List.prefix_rfl, ⟨fun _ => rfl, by simp, fun _ => rfl⟩, rfl⟩⟩
  | cons step remaining ih =>
    cases hx : step.execute rig config name (s.emit (.stepStarted name index step.sentence)) with
    | error e t =>
      refine ⟨[], s, .done index s, .inr ⟨⟨name, step, _, e, t, hx⟩, remaining, rfl, by simp, rfl,
        rfl, ?_⟩⟩
      simp only [runSteps, bind_apply, emit_apply, hx]
    | ok record t =>
      let x : Execution rig config := ⟨name, step, _, record, t, hx⟩
      have hstep := runSteps_cons x rfl remaining
      by_cases hstop : x.record.isSuccess = false ∧ config.stopOnFailure = true
      · -- The group is left; what remains of it is told.
        rw [if_pos hstop, abandon_apply] at hstep
        refine ⟨[x], _, .step rfl rfl (.done ..), .inl ⟨by simp [x], .of_failure _ hstop.1 hstop.2,
          hstep.trans ?_⟩⟩
        cases remaining <;> simp [x]
      · rw [if_neg hstop] at hstep
        have hgo : x.record.isSuccess = true ∨ config.stopOnFailure = false := by
          cases hp : x.record.isSuccess with
          | true => exact .inl rfl
          | false => exact .inr (by simpa [hp] using hstop)
        obtain ⟨xs, u, hc, h⟩ := ih (index + 1) (x.settled index)
        refine ⟨x :: xs, u, .step rfl rfl hc, ?_⟩
        rcases h with ⟨hpre, hs, hr⟩ | ⟨loss, later, hsteps, hall, hg, hb, hr⟩
        · refine .inl ⟨by simpa [x] using hpre, hs.cons hgo, hstep.trans (hr.trans ?_)⟩
          simp
        · refine .inr ⟨loss, later, by simp [hsteps, x], ?_, hg, ?_, hstep.trans hr⟩
          · intro hs y hy
            rcases List.mem_cons.mp hy with rfl | hy
            · exact hgo.resolve_right (by simp [hs])
            · exact hall hs y hy
          · rw [hb, List.length_cons, Nat.add_right_comm, Nat.add_assoc]

end Group

/-- The executions of a course belong to its group. -/
theorem Course.group_eq_of_mem {name : String} {index : Nat} {s t : Stage W}
    {xs : List (Execution rig config)} (h : Course name index s xs t) :
    ∀ x ∈ xs, x.group = name := by
  induction h with
  | done => simp
  | step group_eq _ _ ih => exact List.forall_mem_cons.mpr ⟨group_eq, ih⟩

namespace Group

/-- Running groups is making a tour that covers them. -/
theorem exists_tour (rig : Rig W) (config : RunConfig) (groups : List Group) (s : Stage W) :
    ∃ tour : Tour rig config, tour.Covers groups ∧
      Tour.Leads s tour ((runAll rig config groups).reached s) ∧
      (runAll rig config groups).result s = tour.outcome := by
  induction groups generalizing s with
  | nil => exact ⟨.whole [], ⟨rfl, by simp⟩, .whole (.done s), rfl⟩
  | cons group groups ih =>
    obtain ⟨xs, t, hc, h⟩ := runSteps_ok_or_lost rig config group.name group.steps 0
      (s.emit (.groupStarted group.name group.steps.length))
    rcases h with ⟨hpre, hs, hr⟩ | ⟨loss, later, hsteps, hall, hg, hb, hr⟩
    · -- The group is finished, and the tour through the other groups begins where it is left.
      let visit : Visit rig config := ⟨group, xs, hc.group_eq_of_mem, hpre⟩
      have hrun : runAll rig config (group :: groups) s =
          runAll rig config groups (t.leave group xs.length) := by
        simp only [runAll, Group.run, bind_apply, emit_apply, hr]
        rfl
      obtain ⟨tour, hcovers, hleads, hout⟩ := ih (t.leave group xs.length)
      rw [result_congr hrun, reached_congr hrun]
      generalize (runAll rig config groups).reached (t.leave group xs.length) = u at hleads ⊢
      cases hleads with
      | @whole _ visits round =>
        exact ⟨.whole (visit :: visits), ⟨by simp [hcovers.1, visit],
          List.forall_mem_cons.mpr ⟨hs, hcovers.2⟩⟩, .whole (.visit hc round), hout⟩
      | @lost _ _ visits last loss round course before_eq =>
        obtain ⟨⟨later, hgroups⟩, hcomplete, hrest⟩ := hcovers
        exact ⟨.lost (visit :: visits) last loss, ⟨⟨later, by simp [hgroups, visit]⟩,
          List.forall_mem_cons.mpr ⟨hs, hcomplete⟩, hrest⟩,
          .lost (.visit hc round) course before_eq, hout⟩
    · -- The browser is lost in the group, and no other group is entered.
      let visit : Visit rig config := ⟨group, xs, hc.group_eq_of_mem, ⟨_, hsteps.symm⟩⟩
      have hrun : runAll rig config (group :: groups) s = .error loss.error loss.after := by
        simp only [runAll, Group.run, bind_apply, emit_apply, hr]
      have hleads : Tour.Leads s (.lost [] visit loss) loss.after :=
        .lost (.done s) hc (by rw [hb, Nat.zero_add])
      refine ⟨.lost [] visit loss, ⟨⟨groups, rfl⟩, by simp, ⟨later, hsteps⟩, hall, hg⟩, ?_, ?_⟩
      · rw [reached, hrun]
        exact hleads
      · rw [result, hrun]
        rfl

end Group

end BrowserFlow
