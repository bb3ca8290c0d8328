import BrowserFlow.Proofs.Session.Operation
import BrowserFlow.Session.Execution

/-!
# One call a step

Every step comes to a plan: either the browser is not asked and the session decides how the step
ends, or the browser is asked once and its answer decides. `Action.perform_eq_carryOut` shows that
performing an action is carrying out its plan, so that the many actions and assertions become two
cases. `Step.execute_ok` and `Step.execute_error` say what it means that executing a step leaves a
record, or does not.

What a step leaves in the session is at most one thing, an image or a text; everything else that
changes is what the session hears during the call.
-/

namespace BrowserFlow

open SessionOp

variable {W : Type}

/-- What a step leaves in the session. -/
inductive Capture
  /-- Nothing. -/
  | nothing
  /-- A reference to an image. -/
  | screenshot (reference : String)
  /-- A text that was read. -/
  | extraction (text : Extraction)

/-- The session with what a step leaves in it. -/
def Capture.addTo (session : Session) : Capture → Session
  | .nothing => session
  | .screenshot reference => session.addScreenshot reference
  | .extraction text => session.addExtraction text

/-- What a step comes to. -/
inductive Plan
  /-- The browser is not asked: some events are emitted, and the session decides. -/
  | unasked (told : Session → List Event) (verdict : Session → Except StepError Unit)
  /-- The browser is asked once, and an answer decides. -/
  | asking (c : Call) (verdict : c.Answer → Except StepError Capture)

/-- The stage after some events have been emitted. -/
def Stage.tell (s : Stage W) (events : List Event) : Stage W :=
  { s with trace := s.trace ++ events.map .emitted }

/-- The stage with what a step leaves in the session. -/
def Stage.capture (s : Stage W) (capture : Capture) : Stage W :=
  { s with session := capture.addTo s.session }

/-- Telling nothing changes nothing. -/
theorem Stage.tell_nil (s : Stage W) : s.tell [] = s := by
  unfold Stage.tell
  rw [List.map_nil, List.append_nil]

/-- Telling notes the events and changes nothing else. -/
theorem Stage.tell_advances (s : Stage W) (events : List Event) :
    s.Advances (s.tell events) (events.map .emitted) [] :=
  ⟨rfl, rfl, rfl, rfl, rfl⟩

/-- What a step leaves in the session is no message. -/
theorem Stage.capture_transcript (s : Stage W) (capture : Capture) :
    (s.capture capture).session.transcript = s.session.transcript := by
  cases capture <;> rfl

/-- What a step leaves in the session changes nothing else. -/
theorem Stage.capture_advances (s : Stage W) (capture : Capture) :
    s.Advances (s.capture capture) [] [] := by
  cases capture <;> exact ⟨rfl, rfl, rfl, rfl, (List.append_nil _).symm⟩

namespace Plan

/-- Carries out a plan. -/
def carryOut (rig : Rig W) : Plan → SessionOp W StepError Unit
  | .unasked told verdict => fun s =>
    match verdict s.session with
    | .ok _ => .ok () (s.tell (told s.session))
    | .error e => .error e (s.tell (told s.session))
  | .asking c verdict => fun s =>
    match s.call rig c with
    | (.error e, t) => .error (.browser e) t
    | (.ok answer, t) =>
      match verdict answer with
      | .ok capture => .ok () (t.capture capture)
      | .error e => .error e t

/-- What happens when a plan is carried out. -/
def told (rig : Rig W) (s : Stage W) : Plan → List Occurrence
  | .unasked told _ => (told s.session).map .emitted
  | .asking c _ => [.called c (s.call rig c).1]

/-- The plan to do nothing. -/
def idle : Plan := .unasked (fun _ => []) fun _ => .ok ()

/-- The plan to have the browser do something, which then is all. -/
def order (c : Call) : Plan := .asking c fun _ => .ok .nothing

/-- The verdict that a condition holds. -/
def judge {α : Type} (value : α) (condition : Bool) (subject expected actual : String) :
    Except StepError α :=
  if condition then .ok value else .error (.unmet subject expected actual)

/-- Carrying out an order is asking for it. -/
theorem order_carryOut (rig : Rig W) (c : Call) (s : Stage W) :
    (order c).carryOut rig s = match s.call rig c with
      | (.error e, t) => .error (.browser e) t
      | (.ok _, t) => .ok () t := by
  simp only [order, carryOut]
  rcases s.call rig c with ⟨_ | _, t⟩ <;> rfl

/-- What carrying out a plan leaves in the session. -/
def captured (rig : Rig W) (s : Stage W) : Plan → Capture
  | .unasked _ _ => .nothing
  | .asking c verdict =>
    match (s.call rig c).1 with
    | .ok answer => (verdict answer).toOption.getD .nothing
    | .error _ => .nothing

/-- Without a call a plan tells its events, whatever the session decides. -/
theorem unasked_reached (rig : Rig W) (told : Session → List Event)
    (verdict : Session → Except StepError Unit) (s : Stage W) :
    ((unasked told verdict).carryOut rig).reached s = s.tell (told s.session) := by
  simp only [reached, carryOut]
  cases verdict s.session <;> rfl

/-- A plan with a call leads behind the call, and leaves there what it captures. -/
theorem asking_reached (rig : Rig W) (c : Call) (verdict : c.Answer → Except StepError Capture)
    (s : Stage W) :
    ((asking c verdict).carryOut rig).reached s =
      (s.call rig c).2.capture ((asking c verdict).captured rig s) := by
  simp only [reached, carryOut, captured]
  rcases s.call rig c with ⟨e | answer, t⟩
  · rfl
  · dsimp only
    cases verdict answer <;> rfl

/-- Whatever its end, carrying out a plan does what the plan tells and changes no results. -/
theorem carryOut_advances (rig : Rig W) (s : Stage W) (plan : Plan) :
    s.Advances ((plan.carryOut rig).reached s) (plan.told rig s) [] := by
  cases plan with
  | unasked told verdict =>
    rw [unasked_reached]
    exact s.tell_advances (told s.session)
  | asking c verdict =>
    rw [asking_reached]
    exact (s.call_advances rig c).trans (Stage.capture_advances _ _)

/-- What holds of the plans of steps: they do not send the browser away, and only the browser
itself tells that it failed. -/
inductive Proper : Plan → Prop
  /-- The session does not speak for the browser. -/
  | unasked {told : Session → List Event} {verdict : Session → Except StepError Unit}
    (h : ∀ session e, verdict session ≠ .error (.browser e)) : Proper (.unasked told verdict)
  /-- The browser is asked for something else than to go away. -/
  | asking {c : Call} {verdict : c.Answer → Except StepError Capture} (hc : c ≠ .close)
    (h : ∀ answer e, verdict answer ≠ .error (.browser e)) : Proper (.asking c verdict)

/-- Doing nothing is proper. -/
theorem idle_proper : idle.Proper :=
  .unasked (by simp)

/-- Every order but to go away is proper. -/
theorem order_proper {c : Call} (h : c ≠ .close) : (order c).Proper :=
  .asking h (by simp)

/-- A condition that does not hold is no failure of the browser. -/
theorem judge_ne_browser {α : Type} {value : α} {condition : Bool}
    {subject expected actual : String} {e : BrowserError} :
    judge value condition subject expected actual ≠ .error (.browser e) := by
  unfold judge
  split <;> simp

/-- A call that happens when a plan is carried out is all that happens. -/
theorem told_eq_of_mem {rig : Rig W} {s : Stage W} {plan : Plan} {c : Call}
    {outcome : Except BrowserError c.Answer} (h : .called c outcome ∈ plan.told rig s) :
    plan.told rig s = [.called c outcome] := by
  cases plan with
  | unasked tell verdict => simp [told] at h
  | asking c' verdict =>
    simp only [told, List.mem_singleton] at h ⊢
    rw [h]

/-- A proper plan ends with a failure of the browser exactly if its call does. -/
theorem Proper.result_browser_iff {plan : Plan} (h : plan.Proper) (rig : Rig W) (s : Stage W)
    (e : BrowserError) :
    (plan.carryOut rig).result s = .error (.browser e) ↔
      ∃ c, plan.told rig s = [.called c (.error e)] := by
  -- Only the call itself can fail in the name of the browser: neither verdict does.
  cases h with
  | @unasked tell verdict h =>
    have hv := h s.session e
    simp only [result, carryOut, told]
    constructor
    · cases hs : verdict s.session with
      | ok _ => exact fun he => by cases he
      | error e' => exact fun he => absurd (hs.trans he) hv
    · rintro ⟨c, hc⟩
      cases ht : tell s.session <;> simp [ht] at hc
  | @asking c verdict hc h =>
    simp only [result, carryOut, told]
    rcases s.call rig c with ⟨e' | answer, t⟩
    · simp only [Except.error.injEq, StepError.browser.injEq, List.cons.injEq, and_true]
      constructor
      · rintro rfl
        exact ⟨c, rfl⟩
      · rintro ⟨c', hc'⟩
        cases hc'
        rfl
    · constructor
      · dsimp only
        cases hs : verdict answer with
        | ok _ => exact fun he => by cases he
        | error e' =>
          intro he
          cases he
          exact absurd hs (h answer e)
      · rintro ⟨c', hc'⟩
        cases hc'

end Plan

/-- Asking leads where the call leads, and fails if the browser does. -/
theorem SessionOp.ask_apply (rig : Rig W) (c : Call) (s : Stage W) :
    ask rig c s = match s.call rig c with
      | (.error e, t) => .error (.browser e) t
      | (.ok answer, t) => .ok answer t := by
  unfold ask
  rw [bind_apply, attempt_apply]
  rcases s.call rig c with ⟨_ | _, _⟩ <;> rfl

namespace Assertion

/-- The plan of an assertion. -/
def plan : Assertion → Plan
  | .title mode expected => .asking .title fun title =>
    Plan.judge .nothing (mode.holds title expected) ("Title " ++ mode.display) (shown expected)
      (shown title)
  | .url mode expected => .asking .url fun url =>
    Plan.judge .nothing (mode.holds url expected) ("URL " ++ mode.display) (shown expected)
      (shown url)
  | .element target .visible => .asking (.isVisible target) fun visible =>
    Plan.judge .nothing visible ("Element " ++ target.display) "visible" "not visible"
  | .element target .present => .asking (.isPresent target) fun present =>
    Plan.judge .nothing present ("Element " ++ target.display) "to exist" "not found"
  | .element target (.containsText expected) => .asking (.textContent target) fun text =>
    Plan.judge .nothing (Text.contains text expected)
      ("Element " ++ target.display ++ " text contains") (shown expected) (shown text)
  | .log expected => .unasked (fun _ => []) fun session =>
    Plan.judge () (session.transcript.mentions expected) "Console log" (shown expected)
      (Text.decimal session.transcript.length ++ " message(s) without it")

/-- Finding out whether an assertion holds is carrying out its plan. -/
theorem verify_eq_carryOut (rig : Rig W) (assertion : Assertion) :
    assertion.verify rig = assertion.plan.carryOut rig := by
  funext s
  rcases assertion with ⟨mode, expected⟩ | ⟨target, _ | _ | expected⟩ | ⟨mode, expected⟩ | expected
  case log =>
    simp only [verify, plan, Plan.carryOut, bind_apply, get_apply, Stage.tell_nil, require,
      Plan.judge]
    split <;> rfl
  -- The other four ask the browser, and differ only in the condition on its answer.
  all_goals
    simp only [verify, plan, Plan.carryOut, bind_apply, ask_apply]
    rcases s.call rig _ with ⟨_ | _, t⟩
    · rfl
    · simp only [require, Plan.judge]
      split <;> rfl

/-- The plans of assertions are proper. -/
theorem plan_proper (assertion : Assertion) : assertion.plan.Proper := by
  rcases assertion with _ | ⟨target, _ | _ | _⟩ | _ | _
  case log => exact .unasked fun _ _ => Plan.judge_ne_browser
  all_goals exact .asking (by simp) fun _ _ => Plan.judge_ne_browser

end Assertion

namespace Action

/-- How many messages have been captured, in words. -/
def captured (session : Session) : String :=
  Text.decimal session.transcript.length ++ " console message(s) captured"

/-- The plan of an action. -/
def plan (config : RunConfig) : Action → Plan
  | .navigate url => .order (.navigate url)
  | .goBack => .order .goBack
  | .reload => .order .reload
  | .wait ms => .order (.wait ms)
  | .click target => .order (.click target)
  | .fill field value => .order (.fill field value)
  | .select field value => .order (.selectOption field value)
  | .check target => .order (.check target)
  | .uncheck target => .order (.uncheck target)
  | .keyPress key => .order (.pressKey key)
  | .scroll none => .order .scrollToBottom
  | .scroll (some target) => .order (.scrollIntoView target)
  | .verify assertion => assertion.plan
  | .screenshot =>
    if config.captureScreenshots then
      .asking .screenshot fun reference => .ok (.screenshot reference)
    else .idle
  | .captureLogs => .unasked (fun session => [.log (captured session)]) fun _ => .ok ()
  | .extract _ (some target) =>
    .asking (.textContent target) fun text => .ok (.extraction ⟨target.label, text⟩)
  | .extract _ none => .idle

/-- Performing an action is carrying out its plan. -/
theorem perform_eq_carryOut (rig : Rig W) (config : RunConfig) (action : Action) :
    action.perform rig config = (action.plan config).carryOut rig := by
  funext s
  cases action with
  | verify assertion => exact congrFun (assertion.verify_eq_carryOut rig) s
  | screenshot =>
    simp only [perform, plan]
    split
    · simp only [Plan.carryOut, bind_apply, ask_apply]
      rcases s.call rig .screenshot with ⟨_ | _, t⟩ <;> rfl
    · simp only [Plan.idle, Plan.carryOut, Stage.tell_nil]
      rfl
  | captureLogs => rfl
  | extract description target =>
    cases target with
    | none =>
      simp only [perform, plan, Plan.idle, Plan.carryOut, Stage.tell_nil]
      rfl
    | some target =>
      simp only [perform, plan, Plan.carryOut, bind_apply, ask_apply]
      rcases s.call rig _ with ⟨_ | _, t⟩ <;> rfl
  | scroll target =>
    cases target <;> simp only [perform, plan, Plan.order_carryOut, ask_apply]
  | _ => simp only [perform, plan, Plan.order_carryOut, ask_apply]

/-- The plans of actions are proper. -/
theorem plan_proper (config : RunConfig) (action : Action) : (action.plan config).Proper := by
  cases action with
  | verify assertion => exact assertion.plan_proper
  | screenshot =>
    simp only [plan]
    split
    · exact .asking (by simp) (by simp)
    · exact Plan.idle_proper
  | captureLogs => exact .unasked (by simp)
  | extract description target =>
    cases target with
    | none => exact Plan.idle_proper
    | some target => exact .asking (by simp) (by simp)
  | scroll target => cases target <;> exact Plan.order_proper (by simp)
  | _ => exact Plan.order_proper (by simp)

end Action

namespace Step

/-- The plan of a step; a sentence that is no action fails by itself. -/
def plan (config : RunConfig) (step : Step) : Plan :=
  match Action.ofSentence step.sentence with
  | .ok action => action.plan config
  | .error e => .unasked (fun _ => []) fun _ => .error (.sentence e)

/-- Doing what a step's sentence says is carrying out the step's plan. -/
theorem perform_eq_carryOut (rig : Rig W) (config : RunConfig) (step : Step) :
    Step.perform rig config step.sentence = (step.plan config).carryOut rig := by
  funext s
  unfold Step.perform plan
  cases Action.ofSentence step.sentence with
  | ok action => exact congrFun (action.perform_eq_carryOut rig config) s
  | error e =>
    simp only [Plan.carryOut, Stage.tell_nil]
    rfl

end Step

namespace StepRecord

/-- The record of a step of a group that ended so. -/
def ofOutcome (group : String) (step : Step) (outcome : Except StepError Unit) (ms : UInt64)
    (at_ : Timestamp) : StepRecord :=
  match outcome with
  | .ok _ => .success group step.sentence ms at_
  | .error e => .failure group step.sentence ms e.message at_

variable (group : String) (step : Step) (outcome : Except StepError Unit) (ms : UInt64)
  (at_ : Timestamp)

/-- The record is under the name of the group. -/
theorem ofOutcome_group : (ofOutcome group step outcome ms at_).group = group := by
  cases outcome <;> rfl

/-- The record has the sentence of the step. -/
theorem ofOutcome_description :
    (ofOutcome group step outcome ms at_).description = step.sentence := by
  cases outcome <;> rfl

end StepRecord

namespace Step

/-- Executing a step is carrying out its plan; then the loss of the browser is a failure, and every
other end a record. -/
theorem execute_apply (rig : Rig W) (config : RunConfig) (group : String) (step : Step)
    (s : Stage W) :
    step.execute rig config group s =
      let outcome := ((step.plan config).carryOut rig).result s
      let t := ((step.plan config).carryOut rig).reached s
      match outcome with
      | .error (.browser (.sessionLost reason)) =>
        .error (.sessionLost (BrowserError.sessionLost reason).message) t
      | outcome => .ok (.ofOutcome group step outcome (UInt64.ofNat (t.elapsed - s.elapsed))
          (rig.clock t.elapsed)) t := by
  unfold execute
  simp only [bind_apply, elapsed_apply, outcomeOf_apply, perform_eq_carryOut]
  rcases ((step.plan config).carryOut rig).result s with e | _
  · -- Of all failures only the loss of the browser is fatal.
    rcases e with e | ⟨subject, expected, actual⟩ | ⟨label⟩ | reason | message <;> rfl
  · rfl

/-- The plans of steps are proper. -/
theorem plan_proper (config : RunConfig) (step : Step) : (step.plan config).Proper := by
  unfold plan
  cases Action.ofSentence step.sentence with
  | ok action => exact action.plan_proper config
  | error e => exact .unasked (by simp)

/-- What a step has to say when it is executed: how many messages were captured, if it asks for
that. -/
def logs (step : Step) (session : Session) : List Event :=
  match Action.ofSentence step.sentence with
  | .ok .captureLogs => [.log (Action.captured session)]
  | _ => []

/-- The events among what happens when a step is executed are what the step has to say. -/
theorem told_events (rig : Rig W) (config : RunConfig) (step : Step) (s : Stage W) :
    ((step.plan config).told rig s).filterMap Occurrence.event? = step.logs s.session := by
  unfold plan logs
  cases Action.ofSentence step.sentence with
  | error e => rfl
  | ok action =>
    -- Capturing messages is the only action that emits an event; the others ask or do nothing.
    cases action with
    | verify assertion => rcases assertion with _ | ⟨target, _ | _ | _⟩ | _ | _ <;> rfl
    | screenshot =>
      simp only [Action.plan]
      split <;> rfl
    | extract description target => cases target <;> rfl
    | scroll target => cases target <;> rfl
    | _ => rfl

/-- Executing a step leads where its plan leads. -/
theorem execute_reached (rig : Rig W) (config : RunConfig) (group : String) (step : Step)
    (s : Stage W) :
    (step.execute rig config group).reached s = ((step.plan config).carryOut rig).reached s := by
  rw [reached, execute_apply]
  dsimp only
  generalize ((step.plan config).carryOut rig).reached s = t
  rcases ((step.plan config).carryOut rig).result s with e | _
  · rcases e with e | ⟨subject, expected, actual⟩ | ⟨label⟩ | reason | message <;> rfl
  · rfl

/-- Executing a step does what its plan tells, and adds no record. -/
theorem execute_advances (rig : Rig W) (config : RunConfig) (group : String) (step : Step)
    (s : Stage W) :
    s.Advances ((step.execute rig config group).reached s) ((step.plan config).told rig s) [] := by
  rw [execute_reached]
  exact (step.plan config).carryOut_advances rig s

/-- Among what happens when a step is executed, the browser is not sent away. -/
theorem close_not_mem_told (rig : Rig W) (config : RunConfig) (step : Step) (s : Stage W)
    (outcome : Except BrowserError Unit) :
    .called .close outcome ∉ (step.plan config).told rig s := by
  have h := step.plan_proper config
  generalize step.plan config = plan at h
  cases h with
  | unasked h => simp [Plan.told]
  | asking hc h => simp [Plan.told, hc.symm]

/-- Among what happens when a step is executed, no report is given away. -/
theorem persisted_not_mem_told (rig : Rig W) (config : RunConfig) (step : Step) (s : Stage W)
    {document : ReportDocument} {format : ReportFormat} {rendered : String}
    {kept : Except ErrorChain Path} :
    .persisted document format rendered kept ∉ (step.plan config).told rig s := by
  generalize step.plan config = plan
  cases plan <;> simp [Plan.told]

/-- A step that leaves a record leaves that of its outcome, and the browser was not lost. -/
theorem execute_ok {rig : Rig W} {config : RunConfig} {group : String} {step : Step}
    {s t : Stage W} {record : StepRecord} (h : step.execute rig config group s = .ok record t) :
    (∃ outcome ms at_, record = .ofOutcome group step outcome ms at_) ∧
      ∀ c reason, .called c (.error (.sessionLost reason)) ∉ (step.plan config).told rig s := by
  rw [execute_apply] at h
  dsimp only at h
  split at h
  · cases h
  · rename_i lost
    obtain ⟨rfl, -⟩ := EStateM.Result.ok.inj h
    refine ⟨⟨_, _, _, rfl⟩, fun c reason hm => ?_⟩
    exact lost reason (((step.plan_proper config).result_browser_iff rig s _).mpr
      ⟨c, Plan.told_eq_of_mem hm⟩)

/-- A step that leaves no record asked the browser and lost it. -/
theorem execute_error {rig : Rig W} {config : RunConfig} {group : String} {step : Step}
    {s t : Stage W} {error : RunError} (h : step.execute rig config group s = .error error t) :
    ∃ c reason, (step.plan config).told rig s = [.called c (.error (.sessionLost reason))] ∧
      error = .sessionLost (BrowserError.sessionLost reason).message := by
  rw [execute_apply] at h
  dsimp only at h
  split at h
  · rename_i reason lost
    obtain ⟨rfl, -⟩ := EStateM.Result.error.inj h
    obtain ⟨c, hc⟩ := ((step.plan_proper config).result_browser_iff rig s _).mp lost
    exact ⟨c, reason, hc, rfl⟩
  · cases h

end Step

end BrowserFlow
