import BrowserFlow.Proofs.Session.Captures

/-!
# One step and nothing else

A step that is executed may fail in three places: its sentence is no action, the browser fails in
the one call that the action makes, or the browser's answer is not what the step asserts.
`Step.Fails` says what goes wrong first, and `Step.fails_iff` that this is how the step's plan ends.

`Step.Isolated` says what executing a step does and what it leaves alone: whatever goes wrong is
told by the record of the step, only the loss of the browser is a failure of its own, and of the
session nothing changes but what arrives on the console during the call and what the step captures.
-/

namespace BrowserFlow

open SessionOp

variable {W : Type}

/-! ## What can go wrong -/

/-- The call that a plan makes, if it makes one. -/
def Plan.call? : Plan → Option Call
  | .unasked _ _ => none
  | .asking c _ => some c

/-- The call that a step makes, if it makes one. -/
def Step.call? (config : RunConfig) (step : Step) : Option Call :=
  (step.plan config).call?

/-- The plan of a step is that of its action. -/
theorem Step.plan_of_action {step : Step} {action : Action}
    (h : Action.ofSentence step.sentence = .ok action) (config : RunConfig) :
    step.plan config = action.plan config := by
  unfold plan
  rw [h]

/-- An assertion does not hold in a stage, where the browser has told what is to be known for it,
and this is how that is said. -/
inductive Assertion.Unmet (rig : Rig W) (s : Stage W) : Assertion → StepError → Prop
  /-- The page's title is another one. -/
  | title {mode : Comparison} {expected title : String} (told : (s.call rig .title).1 = .ok title)
    (unmet : mode.holds title expected = false) : Unmet rig s (.title mode expected)
      (.unmet ("Title " ++ mode.display) (shown expected) (shown title))
  /-- The page's address is another one. -/
  | url {mode : Comparison} {expected url : String} (told : (s.call rig .url).1 = .ok url)
    (unmet : mode.holds url expected = false) : Unmet rig s (.url mode expected)
      (.unmet ("URL " ++ mode.display) (shown expected) (shown url))
  /-- The element cannot be seen. -/
  | visible {target : Target} (told : (s.call rig (.isVisible target)).1 = .ok false) :
    Unmet rig s (.element target .visible)
      (.unmet ("Element " ++ target.display) "visible" "not visible")
  /-- The element is not there. -/
  | present {target : Target} (told : (s.call rig (.isPresent target)).1 = .ok false) :
    Unmet rig s (.element target .present)
      (.unmet ("Element " ++ target.display) "to exist" "not found")
  /-- The element has another text. -/
  | containsText {target : Target} {expected text : String}
    (told : (s.call rig (.textContent target)).1 = .ok text)
    (unmet : Text.contains text expected = false) :
    Unmet rig s (.element target (.containsText expected))
      (.unmet ("Element " ++ target.display ++ " text contains") (shown expected) (shown text))
  /-- No message on the console has the text. -/
  | log {expected : String} (unmet : s.session.transcript.mentions expected = false) :
    Unmet rig s (.log expected) (.unmet "Console log" (shown expected)
      (Text.decimal s.session.transcript.length ++ " message(s) without it"))

/-- What goes wrong first in a step that begins in a stage. -/
inductive Step.Fails (rig : Rig W) (config : RunConfig) (step : Step) (s : Stage W) :
    StepError → Prop
  /-- The sentence is no action. -/
  | sentence {e : SentenceError} (h : Action.ofSentence step.sentence = .error e) :
    Fails rig config step s (.sentence e)
  /-- The browser fails in the call that the step makes. -/
  | browser {c : Call} {e : BrowserError} (asked : step.call? config = some c)
    (failed : (s.call rig c).1 = .error e) : Fails rig config step s (.browser e)
  /-- The step asserts what does not hold. -/
  | unmet {assertion : Assertion} {e : StepError}
    (h : Action.ofSentence step.sentence = .ok (.verify assertion))
    (unmet : assertion.Unmet rig s e) : Fails rig config step s e

namespace Plan

/-- The verdict of a plan on what the session holds or the browser has told is a failure. -/
inductive Refuses (rig : Rig W) (s : Stage W) : Plan → StepError → Prop
  /-- The session decides so. -/
  | unasked {told : Session → List Event} {verdict : Session → Except StepError Unit}
    {e : StepError} (h : verdict s.session = .error e) : Refuses rig s (.unasked told verdict) e
  /-- The browser's answer decides so. -/
  | asking {c : Call} {verdict : c.Answer → Except StepError Capture} {answer : c.Answer}
    {e : StepError} (told : (s.call rig c).1 = .ok answer) (h : verdict answer = .error e) :
    Refuses rig s (.asking c verdict) e

/-- How carrying out a plan ends. -/
def outcome (rig : Rig W) (s : Stage W) : Plan → Except StepError Unit
  | .unasked _ verdict => verdict s.session
  | .asking c verdict =>
    match (s.call rig c).1 with
    | .error e => .error (.browser e)
    | .ok answer => (verdict answer).map fun _ => ()

/-- Carrying out a plan ends as the browser's answer and the verdict decide. -/
theorem carryOut_result (rig : Rig W) (plan : Plan) (s : Stage W) :
    (plan.carryOut rig).result s = plan.outcome rig s := by
  cases plan with
  | unasked told verdict =>
    simp only [result, carryOut, outcome]
    cases verdict s.session <;> rfl
  | asking c verdict =>
    simp only [result, carryOut, outcome]
    rcases s.call rig c with ⟨_ | answer, t⟩
    · rfl
    · dsimp only
      cases verdict answer <;> rfl

/-- A plan fails if the browser fails or the verdict is a failure. -/
theorem outcome_eq_error_iff (rig : Rig W) (plan : Plan) (s : Stage W) (e : StepError) :
    plan.outcome rig s = .error e ↔
      (∃ c e', plan.call? = some c ∧ (s.call rig c).1 = .error e' ∧ e = .browser e') ∨
        plan.Refuses rig s e := by
  -- A plan without a call can only be refused; one with a call fails with the browser or at its
  -- answer.
  cases plan with
  | unasked told verdict =>
    simp only [outcome, call?, reduceCtorEq, false_and, exists_false, false_or]
    constructor
    · exact .unasked
    · rintro ⟨h⟩
      exact h
  | asking c verdict =>
    simp only [outcome, call?, Option.some.injEq]
    constructor
    · intro h
      cases hc : (s.call rig c).1 with
      | error e' =>
        rw [hc] at h
        exact .inl ⟨c, e', rfl, hc, (Except.error.inj h).symm⟩
      | ok answer =>
        rw [hc] at h
        refine .inr (.asking hc ?_)
        dsimp only at h
        cases hv : verdict answer <;> rw [hv] at h <;> cases h
        rfl
    · rintro (⟨_, e', rfl, hc, rfl⟩ | h)
      · rw [hc]
      · obtain _ | ⟨hc, h⟩ := h
        rw [hc]
        simp [h, Except.map]

/-- Doing nothing is not refused. -/
theorem not_idle_refuses {rig : Rig W} {s : Stage W} {e : StepError} : ¬ idle.Refuses rig s e := by
  rintro ⟨h⟩
  cases h

/-- No answer to an order is refused. -/
theorem not_order_refuses {rig : Rig W} {s : Stage W} {c : Call} {e : StepError} :
    ¬ (order c).Refuses rig s e := by
  rintro (_ | ⟨_, h⟩)
  cases h

/-- The verdict that a condition holds is a failure exactly if it does not. -/
theorem judge_eq_error_iff {α : Type} {value : α} {condition : Bool}
    {subject expected actual : String} {e : StepError} :
    judge value condition subject expected actual = .error e ↔
      condition = false ∧ e = .unmet subject expected actual := by
  cases condition <;> simp [judge, eq_comm]

end Plan

/-- The plan of an assertion is refused exactly if the assertion does not hold. -/
theorem Assertion.refuses_plan_iff (rig : Rig W) (s : Stage W) (assertion : Assertion)
    (e : StepError) : assertion.plan.Refuses rig s e ↔ assertion.Unmet rig s e := by
  constructor
  · intro h
    rcases assertion with
      ⟨mode, expected⟩ | ⟨target, _ | _ | expected⟩ | ⟨mode, expected⟩ | expected
    case log =>
      obtain ⟨h⟩ | _ := h
      obtain ⟨hf, rfl⟩ := Plan.judge_eq_error_iff.mp h
      exact .log hf
    -- The other assertions ask the browser, and their condition is about its answer.
    all_goals
      obtain _ | ⟨told, h⟩ := h
      obtain ⟨hf, rfl⟩ := Plan.judge_eq_error_iff.mp h
      subst_vars
      constructor <;> assumption
  · rintro (⟨told, h⟩ | ⟨told, h⟩ | told | told | ⟨told, h⟩ | h)
    case log => exact .unasked (Plan.judge_eq_error_iff.mpr ⟨h, rfl⟩)
    case visible | present => exact .asking told (Plan.judge_eq_error_iff.mpr ⟨rfl, rfl⟩)
    all_goals exact .asking told (Plan.judge_eq_error_iff.mpr ⟨h, rfl⟩)

/-- Apart from assertions, no plan of an action is refused. -/
theorem Action.refuses_plan_iff (rig : Rig W) (config : RunConfig) (s : Stage W) (action : Action)
    (e : StepError) : (action.plan config).Refuses rig s e ↔
      ∃ assertion, action = .verify assertion ∧ assertion.Unmet rig s e := by
  -- Only an assertion has a condition that may fail. Everything else is done or asked for.
  cases action with
  | verify assertion => simp [plan, Assertion.refuses_plan_iff]
  | screenshot =>
    refine iff_of_false ?_ (by simp)
    simp only [plan]
    split
    · rintro (_ | ⟨_, h⟩)
      cases h
    · exact Plan.not_idle_refuses
  | captureLogs =>
    refine iff_of_false ?_ (by simp)
    rintro ⟨h⟩
    cases h
  | extract description target =>
    refine iff_of_false ?_ (by simp)
    cases target with
    | none => exact Plan.not_idle_refuses
    | some target =>
      rintro (_ | ⟨_, h⟩)
      cases h
  | scroll target => cases target <;> exact iff_of_false Plan.not_order_refuses (by simp)
  | _ => exact iff_of_false Plan.not_order_refuses (by simp)

/-- A step fails as its plan does. -/
theorem Step.fails_iff (rig : Rig W) (config : RunConfig) (step : Step) (s : Stage W)
    (e : StepError) : step.Fails rig config s e ↔ (step.plan config).outcome rig s = .error e := by
  rw [Plan.outcome_eq_error_iff]
  constructor
  · rintro (h | ⟨asked, failed⟩ | ⟨h, unmet⟩)
    · right
      unfold plan
      rw [h]
      exact .unasked rfl
    · exact .inl ⟨_, _, asked, failed, rfl⟩
    · right
      rw [plan_of_action h config]
      exact (Action.refuses_plan_iff rig config s _ e).mpr ⟨_, rfl, unmet⟩
  · rintro (⟨c, e', asked, failed, rfl⟩ | h)
    · exact .browser asked failed
    · -- A refusal comes from the sentence or from the assertion in it.
      cases hs : Action.ofSentence step.sentence with
      | error e' =>
        unfold plan at h
        rw [hs] at h
        obtain ⟨⟨⟩⟩ := h
        exact .sentence hs
      | ok action =>
        rw [plan_of_action hs config] at h
        obtain ⟨assertion, rfl, unmet⟩ := (Action.refuses_plan_iff rig config s action e).mp h
        exact .unmet hs unmet

/-! ## What a step leaves -/

/-- The browser and the console see no more of a plan than its call. -/
theorem Plan.carryOut_asks (rig : Rig W) (plan : Plan) (s : Stage W) :
    let t := (plan.carryOut rig).reached s
    t.calls = s.calls ++ plan.call?.toList ∧
      t.world = plan.call?.elim s.world (fun c => (rig.browser.call c s.world).2) ∧
      t.session.transcript = s.session.transcript ++ plan.call?.elim [] (s.heard rig) := by
  have hcalls : ((plan.carryOut rig).reached s).calls = s.calls ++ plan.call?.toList := by
    unfold Stage.calls
    rw [(plan.carryOut_advances rig s).trace, List.filterMap_append]
    congr 1
    cases plan with
    | unasked told verdict => simp [Plan.told, call?, Occurrence.call?, List.filterMap_map]
    | asking c verdict => rfl
  refine ⟨hcalls, ?_⟩
  cases plan with
  | unasked told verdict =>
    rw [unasked_reached]
    exact ⟨rfl, (List.append_nil _).symm⟩
  | asking c verdict =>
    rw [asking_reached]
    refine ⟨?_, ?_⟩
    · cases (asking c verdict).captured rig s <;> rfl
    · rw [Stage.capture_transcript, Stage.call_transcript]
      rfl

namespace Step

variable (rig : Rig W) (config : RunConfig) (group : String) (step : Step) (s : Stage W)

/-- The step takes an image, and this is the reference to it. -/
structure Shoots (reference : String) : Prop where
  /-- The step asks for an image. -/
  action : Action.ofSentence step.sentence = .ok .screenshot
  /-- Images are to be taken. -/
  wanted : config.captureScreenshots = true
  /-- The browser has taken one. -/
  taken : (s.call rig .screenshot).1 = .ok reference

/-- The step reads the text of an element, and this is what is kept of it. -/
inductive Reads : Extraction → Prop
  /-- The step asks for the text of an element, and the browser has told it. -/
  | intro {description : String} {target : Target} {text : String}
    (action : Action.ofSentence step.sentence = .ok (.extract description (some target)))
    (told : (s.call rig (.textContent target)).1 = .ok text) : Reads ⟨target.label, text⟩

/-- What executing a step of a group does that leads from one stage to another with this result,
and what it leaves alone. -/
structure Isolated (t : Stage W) (result : Except RunError StepRecord) : Prop where
  /-- The browser is asked at most once. -/
  calls : t.calls = s.calls ++ (step.call? config).toList
  /-- What is outside the session changes only by that call. -/
  world : t.world = (step.call? config).elim s.world fun c => (rig.browser.call c s.world).2
  /-- There is no record exactly if the browser was lost in the call, and then that is told. -/
  error_iff : ∀ e, result = .error e ↔ ∃ c reason, step.call? config = some c ∧
    (s.call rig c).1 = .error (.sessionLost reason) ∧
    e = .sessionLost (BrowserError.sessionLost reason).message
  /-- If nothing goes wrong, there is the record of a success. -/
  of_passing : (∀ e, ¬ step.Fails rig config s e) →
    ∃ ms at_, result = .ok (.success group step.sentence ms at_)
  /-- If something goes wrong and the browser is not lost, there is the record of a failure that
  says what went wrong first. -/
  of_failing : ∀ e, step.Fails rig config s e → e.isFatal = false →
    ∃ ms at_, result = .ok (.failure group step.sentence ms e.message at_)
  /-- The results stay as they are, the duration included. -/
  results : t.session.results = s.session.results
  /-- The session is claimed if it was, closed if it was, and has the name that it had. -/
  flags : t.session.used = s.session.used ∧ t.session.closed = s.session.closed ∧
    t.session.id = s.session.id
  /-- On the console there is nothing new but what arrived during the call. -/
  transcript : t.session.transcript =
    s.session.transcript ++ (step.call? config).elim [] (s.heard rig)
  /-- The image that the step takes is added to the images. -/
  of_shooting : ∀ reference, step.Shoots rig config s reference →
    t.session.screenshots = s.session.screenshots ++ [reference]
  /-- If it takes none, the images stay as they are. -/
  of_not_shooting : (∀ reference, ¬ step.Shoots rig config s reference) →
    t.session.screenshots = s.session.screenshots
  /-- The text that the step reads is added to the texts. -/
  of_reading : ∀ extraction, step.Reads rig s extraction →
    t.session.extractions = s.session.extractions ++ [extraction]
  /-- If it reads none, the texts stay as they are. -/
  of_not_reading : (∀ extraction, ¬ step.Reads rig s extraction) →
    t.session.extractions = s.session.extractions
  /-- A step that goes wrong leaves neither an image nor a text. -/
  of_fails : ∀ e, step.Fails rig config s e →
    t.session.screenshots = s.session.screenshots ∧ t.session.extractions = s.session.extractions

/-- That the browser failed is what goes wrong exactly if it failed in the step's call. -/
theorem fails_browser_iff (e : BrowserError) : step.Fails rig config s (.browser e) ↔
    ∃ c, step.call? config = some c ∧ (s.call rig c).1 = .error e := by
  constructor
  · rintro (_ | ⟨asked, failed⟩ | ⟨_, unmet⟩)
    · exact ⟨_, asked, failed⟩
    · cases unmet
  · rintro ⟨c, asked, failed⟩
    exact .browser asked failed

/-- How executing a step ends, by how its plan does. -/
theorem execute_result : (step.execute rig config group).result s =
    let t := (step.execute rig config group).reached s
    match (step.plan config).outcome rig s with
    | .error (.browser (.sessionLost reason)) =>
      .error (.sessionLost (BrowserError.sessionLost reason).message)
    | outcome => .ok (.ofOutcome group step outcome (UInt64.ofNat (t.elapsed - s.elapsed))
        (rig.clock t.elapsed)) := by
  rw [execute_reached, result, execute_apply, Plan.carryOut_result]
  dsimp only
  rcases (step.plan config).outcome rig s with e | _
  · rcases e with e | ⟨subject, expected, actual⟩ | ⟨label⟩ | reason | message <;> rfl
  · rfl

/-- The image of a deed is the one that its step takes. -/
theorem screenshot?_eq_some_iff (reference : String) :
    (Deed.mk config step s).screenshot? rig = some reference ↔
      step.Shoots rig config s reference := by
  unfold Deed.screenshot? Deed.outcome
  rw [perform_eq_carryOut, Plan.carryOut_result]
  constructor
  · intro h
    split at h
    case h_1 action _ =>
      split at h
      case isTrue wanted =>
        exact ⟨action, wanted, by
          cases hc : (s.call rig .screenshot).1 <;> rw [hc] at h <;> cases h; rfl⟩
      case isFalse => cases h
    case h_2 => cases h
  · rintro ⟨action, wanted, taken⟩
    -- An image that was taken makes the step pass, so nothing has to be said about its outcome.
    have hplan : step.plan config = .asking .screenshot fun reference =>
        .ok (.screenshot reference) :=
      (plan_of_action action config).trans (if_pos wanted)
    rw [action, hplan, Plan.outcome, taken]
    dsimp only
    rw [wanted]
    rfl

/-- The text of a deed is the one that its step reads. -/
theorem extraction?_eq_some_iff (extraction : Extraction) :
    (Deed.mk config step s).extraction? rig = some extraction ↔ step.Reads rig s extraction := by
  unfold Deed.extraction? Deed.outcome
  rw [perform_eq_carryOut, Plan.carryOut_result]
  constructor
  · intro h
    split at h
    case h_1 action _ =>
      obtain ⟨text, htext, rfl⟩ := Option.map_eq_some_iff.mp h
      refine .intro action ?_
      cases hc : (s.call rig (.textContent _)).1 <;> rw [hc] at htext <;> cases htext
      rfl
    case h_2 => cases h
  · rintro ⟨action, told⟩
    -- As for an image, the step passes once the text is there.
    have hplan : step.plan config = .asking (.textContent _) fun text =>
        .ok (.extraction ⟨_, text⟩) := plan_of_action action config
    rw [action, hplan, Plan.outcome, told]
    show (s.call rig (.textContent _)).1.toOption.map _ = _
    rw [told]
    rfl

/-- A deed that goes wrong leaves neither an image nor a text. -/
theorem captures_eq_none_of_fails {e : StepError} (h : step.Fails rig config s e) :
    (Deed.mk config step s).screenshot? rig = none ∧
      (Deed.mk config step s).extraction? rig = none := by
  have houtcome : (Deed.mk config step s).outcome rig = .error e := by
    unfold Deed.outcome
    rw [perform_eq_carryOut, Plan.carryOut_result]
    exact (step.fails_iff rig config s e).mp h
  unfold Deed.screenshot? Deed.extraction?
  rw [houtcome]
  constructor <;> split
  case h_1 passed | h_1 passed => cases passed
  all_goals rfl

/-- Executing a step asks the browser what the step asks, and nothing else is asked or heard. -/
theorem execute_asks :
    let t := (step.execute rig config group).reached s
    t.calls = s.calls ++ (step.call? config).toList ∧
      t.world = (step.call? config).elim s.world (fun c => (rig.browser.call c s.world).2) ∧
      t.session.transcript = s.session.transcript ++ (step.call? config).elim [] (s.heard rig) := by
  rw [execute_reached]
  exact (step.plan config).carryOut_asks rig s

/-- Executing a step is a failure exactly if the browser is lost in its call. -/
theorem execute_error_iff (e : RunError) : (step.execute rig config group).result s = .error e ↔
    ∃ c reason, step.call? config = some c ∧ (s.call rig c).1 = .error (.sessionLost reason) ∧
      e = .sessionLost (BrowserError.sessionLost reason).message := by
  rw [execute_result]
  dsimp only
  constructor
  · intro h
    split at h
    case h_1 reason lost =>
      obtain ⟨c, asked, failed⟩ :=
        (step.fails_browser_iff rig config s _).mp ((step.fails_iff rig config s _).mpr lost)
      exact ⟨c, reason, asked, failed, (Except.error.inj h).symm⟩
    case h_2 => cases h
  · rintro ⟨c, reason, asked, failed, rfl⟩
    rw [(step.fails_iff rig config s _).mp (.browser asked failed)]

/-- Executing a step in which nothing goes wrong gives the record of a success. -/
theorem execute_of_passing (h : ∀ e, ¬ step.Fails rig config s e) :
    ∃ ms at_, (step.execute rig config group).result s =
      .ok (.success group step.sentence ms at_) := by
  rw [execute_result]
  cases houtcome : (step.plan config).outcome rig s with
  | error e => exact absurd ((step.fails_iff rig config s e).mpr houtcome) (h e)
  | ok _ => exact ⟨_, _, rfl⟩

/-- Executing a step in which something goes wrong gives the record of a failure, unless the browser
is lost. -/
theorem execute_of_failing {e : StepError} (h : step.Fails rig config s e)
    (notLost : e.isFatal = false) :
    ∃ ms at_, (step.execute rig config group).result s =
      .ok (.failure group step.sentence ms e.message at_) := by
  rw [execute_result, (step.fails_iff rig config s e).mp h]
  rcases e with e | ⟨subject, expected, actual⟩ | ⟨label⟩ | reason | message
  case browser.sessionLost => cases notLost
  all_goals exact ⟨_, _, rfl⟩

/-- Executing a step adds what it captures to the session. -/
theorem execute_captures :
    let t := (step.execute rig config group).reached s
    t.session.screenshots =
        s.session.screenshots ++ ((Deed.mk config step s).screenshot? rig).toList ∧
      t.session.extractions =
        s.session.extractions ++ ((Deed.mk config step s).extraction? rig).toList := by
  have h := step.execute_gathers rig config group s
  rw [← filterMap_singleton, ← filterMap_singleton]
  exact ⟨h.screenshots, h.extractions⟩

/-- A step that takes an image adds it to the images. -/
theorem execute_of_shooting {reference : String} (h : step.Shoots rig config s reference) :
    ((step.execute rig config group).reached s).session.screenshots =
      s.session.screenshots ++ [reference] := by
  rw [(step.execute_captures rig config group s).1,
    (step.screenshot?_eq_some_iff rig config s reference).mpr h]
  rfl

/-- A step that takes no image leaves the images as they are. -/
theorem execute_of_not_shooting (h : ∀ reference, ¬ step.Shoots rig config s reference) :
    ((step.execute rig config group).reached s).session.screenshots = s.session.screenshots := by
  rw [(step.execute_captures rig config group s).1,
    Option.eq_none_iff_forall_ne_some.mpr fun reference hsome =>
      h reference ((step.screenshot?_eq_some_iff rig config s reference).mp hsome)]
  exact List.append_nil _

/-- A step that reads a text adds it to the texts. -/
theorem execute_of_reading {extraction : Extraction} (h : step.Reads rig s extraction) :
    ((step.execute rig config group).reached s).session.extractions =
      s.session.extractions ++ [extraction] := by
  rw [(step.execute_captures rig config group s).2,
    (step.extraction?_eq_some_iff rig config s extraction).mpr h]
  rfl

/-- A step that reads no text leaves the texts as they are. -/
theorem execute_of_not_reading (h : ∀ extraction, ¬ step.Reads rig s extraction) :
    ((step.execute rig config group).reached s).session.extractions = s.session.extractions := by
  rw [(step.execute_captures rig config group s).2,
    Option.eq_none_iff_forall_ne_some.mpr fun extraction hsome =>
      h extraction ((step.extraction?_eq_some_iff rig config s extraction).mp hsome)]
  exact List.append_nil _

/-- A step that goes wrong leaves neither an image nor a text. -/
theorem execute_of_fails {e : StepError} (h : step.Fails rig config s e) :
    let t := (step.execute rig config group).reached s
    t.session.screenshots = s.session.screenshots ∧
      t.session.extractions = s.session.extractions := by
  obtain ⟨hshots, hreads⟩ := step.execute_captures rig config group s
  obtain ⟨hnoShot, hnoText⟩ := step.captures_eq_none_of_fails rig config s h
  dsimp only
  rw [hshots, hreads, hnoShot, hnoText]
  exact ⟨List.append_nil _, List.append_nil _⟩

/-- Whatever happens in a step stays in the step, except for the loss of the browser. -/
theorem execute_isolated : step.Isolated rig config group s
    ((step.execute rig config group).reached s) ((step.execute rig config group).result s) :=
  have ⟨calls, world, transcript⟩ := step.execute_asks rig config group s
  have advances := step.execute_advances rig config group s
  { calls, world, transcript
    error_iff := step.execute_error_iff rig config group s
    of_passing := step.execute_of_passing rig config group s
    of_failing := fun _ => step.execute_of_failing rig config group s
    results := advances.results
    flags := ⟨advances.used, advances.closed, advances.id⟩
    of_shooting := fun _ => step.execute_of_shooting rig config group s
    of_not_shooting := step.execute_of_not_shooting rig config group s
    of_reading := fun _ => step.execute_of_reading rig config group s
    of_not_reading := step.execute_of_not_reading rig config group s
    of_fails := fun _ => step.execute_of_fails rig config group s }

end Step

end BrowserFlow
