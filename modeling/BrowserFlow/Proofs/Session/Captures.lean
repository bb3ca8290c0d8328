import BrowserFlow.Proofs.Session.Story

/-!
# What steps capture

The images and the texts that a session holds were captured by steps. A deed is a step that was
executed, with the stage in which it began: its sentence, its configuration and what the browser
answered decide whether it captured something. `Stage.Gathers` says that from one stage to another
some deeds were done and what they captured is all that the session gathered; single steps do so
(`Step.execute_gathers`), and so do tours (`Tour.Leads.gathers`), by induction on their executions.
-/

namespace BrowserFlow

open SessionOp

variable {W : Type}

/-- A step that was executed. -/
structure Deed (W : Type) where
  /-- The configuration under which it was executed. -/
  config : RunConfig
  /-- The step. -/
  step : Step
  /-- The stage in which it began. -/
  before : Stage W

namespace Deed

variable (rig : Rig W) (deed : Deed W)

/-- How the step ended. -/
def outcome : Except StepError Unit :=
  (Step.perform rig deed.config deed.step.sentence).result deed.before

/-- The reference that the browser returned, if the step asks for an image, images are to be taken,
and the step passed. -/
def screenshot? : Option String :=
  match Action.ofSentence deed.step.sentence, deed.outcome rig with
  | .ok .screenshot, .ok _ =>
    if deed.config.captureScreenshots then (deed.before.call rig .screenshot).1.toOption else none
  | _, _ => none

/-- The element's label and the text that the browser returned, if the step asks for the text of an
element, and the step passed. -/
def extraction? : Option Extraction :=
  match Action.ofSentence deed.step.sentence, deed.outcome rig with
  | .ok (.extract _ (some target)), .ok _ =>
    (deed.before.call rig (.textContent target)).1.toOption.map (⟨target.label, ·⟩)
  | _, _ => none

end Deed

/-! ## What single steps capture -/

namespace Capture

/-- The images that are left. -/
def screenshots : Capture → List String
  | .screenshot reference => [reference]
  | _ => []

/-- The texts that are left. -/
def extractions : Capture → List Extraction
  | .extraction text => [text]
  | _ => []

/-- What is left in a session is added to its images. -/
theorem addTo_screenshots (session : Session) (capture : Capture) :
    (capture.addTo session).screenshots = session.screenshots ++ capture.screenshots := by
  cases capture <;> simp [addTo, screenshots, Session.addScreenshot, Session.addExtraction]

/-- What is left in a session is added to its texts. -/
theorem addTo_extractions (session : Session) (capture : Capture) :
    (capture.addTo session).extractions = session.extractions ++ capture.extractions := by
  cases capture <;> simp [addTo, extractions, Session.addScreenshot, Session.addExtraction]

end Capture

namespace Plan

/-- A plan leaves what it captures among the images and the texts, and changes neither otherwise. -/
theorem carryOut_captured (rig : Rig W) (plan : Plan) (s : Stage W) :
    let session := ((plan.carryOut rig).reached s).session
    session.screenshots = s.session.screenshots ++ (plan.captured rig s).screenshots ∧
      session.extractions = s.session.extractions ++ (plan.captured rig s).extractions := by
  cases plan with
  | unasked told verdict =>
    rw [unasked_reached]
    exact ⟨(List.append_nil _).symm, (List.append_nil _).symm⟩
  | asking c verdict =>
    rw [asking_reached]
    exact ⟨Capture.addTo_screenshots _ _, Capture.addTo_extractions _ _⟩

/-- Nothing is captured by an order. -/
theorem order_captured (rig : Rig W) (c : Call) (s : Stage W) :
    (order c).captured rig s = .nothing := by
  simp only [order, captured]
  cases (s.call rig c).1 <;> rfl

/-- Nothing is captured to find out whether a condition holds. -/
theorem judge_captured {condition : Bool} {subject expected actual : String} :
    ((judge .nothing condition subject expected actual).toOption.getD .nothing : Capture) =
      .nothing := by
  unfold judge
  split <;> rfl

end Plan

/-- Nothing is captured by assertions. -/
theorem Assertion.plan_captured (assertion : Assertion) (rig : Rig W) (s : Stage W) :
    assertion.plan.captured rig s = .nothing := by
  rcases assertion with _ | ⟨target, _ | _ | _⟩ | _ | _
  case log => rfl
  all_goals
    simp only [Assertion.plan, Plan.captured]
    split
    · exact Plan.judge_captured
    · rfl

/-- From a list of one element at most one is made. -/
theorem filterMap_singleton {α β : Type} (f : α → Option β) (a : α) :
    [a].filterMap f = (f a).toList := rfl

/-- What the plan of a deed leaves is the image and the text of the deed. -/
theorem Deed.plan_captured (rig : Rig W) (deed : Deed W) :
    let captured := (deed.step.plan deed.config).captured rig deed.before
    captured.screenshots = (deed.screenshot? rig).toList ∧
      captured.extractions = (deed.extraction? rig).toList := by
  unfold screenshot? extraction? outcome
  rw [Step.perform_eq_carryOut]
  unfold Step.plan
  cases Action.ofSentence deed.step.sentence with
  | error e => exact ⟨rfl, rfl⟩
  | ok action =>
    -- Only two actions capture something; both do if the browser answers, and then they pass.
    cases action with
    | screenshot =>
      simp only [Action.plan]
      split
      · simp only [Plan.captured, Plan.carryOut, result]
        rcases deed.before.call rig .screenshot with ⟨_ | _, t⟩ <;> exact ⟨rfl, rfl⟩
      · exact ⟨rfl, rfl⟩
    | extract description target =>
      cases target with
      | none => exact ⟨rfl, rfl⟩
      | some target =>
        simp only [Action.plan, Plan.captured, Plan.carryOut, result]
        rcases hc : deed.before.call rig (.textContent target) with ⟨_ | _, t⟩
        · exact ⟨rfl, rfl⟩
        · dsimp only
          rw [hc]
          exact ⟨rfl, rfl⟩
    | verify assertion =>
      simp only [Action.plan, assertion.plan_captured]
      exact ⟨rfl, rfl⟩
    | scroll target =>
      cases target <;> simp only [Action.plan, Plan.order_captured] <;> exact ⟨rfl, rfl⟩
    | captureLogs => exact ⟨rfl, rfl⟩
    | _ =>
      simp only [Action.plan, Plan.order_captured]
      exact ⟨rfl, rfl⟩

/-! ## What is gathered on the way -/

namespace Stage

/-- From one stage to another some deeds were done, and of images and texts the session gathered
what they captured, in order, and nothing else. -/
structure Gathers (rig : Rig W) (s t : Stage W) (deeds : List (Deed W)) : Prop where
  /-- The images were added in order. -/
  screenshots : t.session.screenshots =
    s.session.screenshots ++ deeds.filterMap (·.screenshot? rig)
  /-- The texts were added in order. -/
  extractions : t.session.extractions =
    s.session.extractions ++ deeds.filterMap (·.extraction? rig)

variable {rig : Rig W} {s t u : Stage W}

/-- Nothing is gathered where images and texts stay as they are. -/
theorem Gathers.nothing (screenshots : t.session.screenshots = s.session.screenshots)
    (extractions : t.session.extractions = s.session.extractions) : s.Gathers rig t [] :=
  ⟨by simpa using screenshots, by simpa using extractions⟩

/-- What is gathered first and what is gathered next add up. -/
theorem Gathers.trans {deeds deeds' : List (Deed W)} (h : s.Gathers rig t deeds)
    (h' : t.Gathers rig u deeds') : s.Gathers rig u (deeds ++ deeds') where
  screenshots := by rw [h'.screenshots, h.screenshots, List.filterMap_append, List.append_assoc]
  extractions := by rw [h'.extractions, h.extractions, List.filterMap_append, List.append_assoc]

/-- Nothing is gathered between a step and what follows it. -/
theorem rest_gathers (rig : Rig W) (config : RunConfig) (passed : Bool) (s : Stage W) :
    s.Gathers rig (s.rest rig config passed) [] := by
  unfold rest
  split
  · split <;> exact .nothing rfl rfl
  · exact .nothing rfl rfl

/-- Nothing is gathered when a group is left. -/
theorem leave_gathers (rig : Rig W) (s : Stage W) (group : Group) (executed : Nat) :
    s.Gathers rig (s.leave group executed) [] := by
  unfold leave
  split <;> exact .nothing rfl rfl

end Stage

/-- Executing a step is one deed. -/
theorem Step.execute_gathers (rig : Rig W) (config : RunConfig) (group : String) (step : Step)
    (s : Stage W) :
    s.Gathers rig ((step.execute rig config group).reached s) [⟨config, step, s⟩] := by
  obtain ⟨hscreenshots, hextractions⟩ := Plan.carryOut_captured rig (step.plan config) s
  obtain ⟨hscreenshot, hextraction⟩ := Deed.plan_captured rig ⟨config, step, s⟩
  rw [execute_reached]
  constructor
  · rw [hscreenshots, hscreenshot, filterMap_singleton]
  · rw [hextractions, hextraction, filterMap_singleton]

variable {rig : Rig W} {config : RunConfig}

/-- The deed that an execution is. -/
def Execution.deed (x : Execution rig config) : Deed W :=
  ⟨config, x.step, x.before⟩

/-- The deeds in a group. -/
def Visit.deeds (visit : Visit rig config) : List (Deed W) :=
  visit.executions.map (·.deed)

/-- The deeds on a tour; one in which the browser was lost is a deed as well. -/
def Tour.deeds : Tour rig config → List (Deed W)
  | .whole visits => visits.flatMap Visit.deeds
  | .lost visits visit loss =>
    visits.flatMap Visit.deeds ++ visit.deeds ++ [⟨config, loss.step, loss.before⟩]

/-- A step that begins in a stage gathers what it captures until the run goes on. -/
theorem Execution.settled_gathers (x : Execution rig config) {s : Stage W} {index : Nat}
    (h : x.before = s.emit (.stepStarted x.group index x.step.sentence)) :
    s.Gathers rig (x.settled index) [x.deed] := by
  have hbegin : s.Gathers rig x.before [] := by
    rw [h]
    exact .nothing rfl rfl
  have hstep := x.step.execute_gathers rig config x.group x.before
  rw [reached, x.executed] at hstep
  have hend : x.after.Gathers rig ((x.after.emit (x.record.event index)).record x.record) [] :=
    .nothing rfl rfl
  exact ((hbegin.trans hstep).trans hend).trans (Stage.rest_gathers rig config _ _)

/-- Executing steps gathers what they capture. -/
theorem Course.gathers {name : String} {index : Nat} {s t : Stage W}
    {xs : List (Execution rig config)} (h : Course name index s xs t) :
    s.Gathers rig t (xs.map (·.deed)) := by
  -- Each execution begins where the pause after the one before it ended.
  induction h with
  | done => exact .nothing rfl rfl
  | @step index s t x xs group_eq before_eq _ ih =>
    subst group_eq
    exact (x.settled_gathers before_eq).trans ih

/-- Entering a group and executing its steps gathers what they capture. -/
theorem Visit.gathers (visit : Visit rig config) {s t : Stage W}
    (h : Course visit.group.name 0
      (s.emit (.groupStarted visit.group.name visit.group.steps.length)) visit.executions t) :
    s.Gathers rig t visit.deeds := by
  have hbegin : s.Gathers rig
      (s.emit (.groupStarted visit.group.name visit.group.steps.length)) [] := .nothing rfl rfl
  exact hbegin.trans h.gathers

/-- Entering and leaving groups gathers what their steps capture. -/
theorem Round.gathers {s t : Stage W} {visits : List (Visit rig config)} (h : Round s visits t) :
    s.Gathers rig t (visits.flatMap Visit.deeds) := by
  induction h with
  | done => exact .nothing rfl rfl
  | @visit s t u visit visits course _ ih =>
    simpa using ((visit.gathers course).trans (t.leave_gathers rig _ _)).trans ih

/-- A tour gathers what its deeds capture. -/
theorem Tour.Leads.gathers {s t : Stage W} {tour : Tour rig config} (h : Leads s tour t) :
    s.Gathers rig t tour.deeds := by
  cases h with
  | whole round => exact round.gathers
  | @lost t u visits visit loss round course before_eq =>
    -- The step in which the browser was lost has a sentence, but no record.
    have hbegin : u.Gathers rig loss.before [] := by
      rw [before_eq]
      exact .nothing rfl rfl
    have hend := loss.step.execute_gathers rig config loss.group loss.before
    rw [reached, loss.lost] at hend
    simpa [deeds] using ((round.gathers.trans (visit.gathers course)).trans hbegin).trans hend

end BrowserFlow
