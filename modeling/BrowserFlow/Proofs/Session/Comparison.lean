import BrowserFlow.Proofs.Session.Essence
import BrowserFlow.Proofs.Session.Operation

/-!
# Comparing two sessions

Two sessions in which the same is done, one perhaps with a history that the other one does not have.
Their browsers are the same as far as a browser can see the world (`Rig.Sees`), their clocks may
differ. Stages of theirs are alike if nothing but names and times tells them apart (`Pair.Alike`),
and operations agree if they keep stages alike and have the same results (`Pair.Agrees`). There is
one rule for each basic operation and one for sequences, and from them follows, bottom up, that
steps agree and that groups agree, by induction on the steps and on the groups.
-/

namespace BrowserFlow

open SessionOp

variable {W V α β ε δ : Type}

/-- Two rigs have the same browser, which sees of the world what a view shows: what it answers,
which messages it lets arrive and how the view goes on depend on the view alone. How long it takes
may depend on anything. -/
structure Rig.Sees (rig rig' : Rig W) (view : W → V) : Prop where
  /-- The answers are the same. -/
  outcome : ∀ c w w', view w = view w' →
    (rig.browser.call c w).1.outcome = (rig'.browser.call c w').1.outcome
  /-- The messages are the same. -/
  messages : ∀ c w w', view w = view w' →
    (rig.browser.call c w).1.messages = (rig'.browser.call c w').1.messages
  /-- The views stay the same. -/
  next : ∀ c w w', view w = view w' →
    view (rig.browser.call c w).2 = view (rig'.browser.call c w').2
  /-- The messages are the same that arrive without a call. -/
  overheard : ∀ ms w w', view w = view w' →
    (rig.browser.idle ms w).1 = (rig'.browser.idle ms w').1
  /-- The views stay the same meanwhile. -/
  later : ∀ ms w w', view w = view w' →
    view (rig.browser.idle ms w).2 = view (rig'.browser.idle ms w').2

/-- Every browser is the same as itself, whatever the clocks show. -/
theorem Rig.Sees.refl (rig : Rig W) (clock : Nat → Timestamp) :
    rig.Sees { rig with clock := clock } (id : W → W) where
  outcome c _ _ h := congrArg (fun w => (rig.browser.call c w).1.outcome) h
  messages c _ _ h := congrArg (fun w => (rig.browser.call c w).1.messages) h
  next c _ _ h := congrArg (fun w => (rig.browser.call c w).2) h
  overheard ms _ _ h := congrArg (fun w => (rig.browser.idle ms w).1) h
  later ms _ _ h := congrArg (fun w => (rig.browser.idle ms w).2) h

/-- What two sessions are held with that are compared. -/
structure Pair (W V : Type) where
  /-- What the one session is held with. -/
  rig : Rig W
  /-- What the other one is held with. -/
  rig' : Rig W
  /-- What the browser sees of the world. -/
  view : W → V
  /-- How texts are compared that a store makes. -/
  mask : String → String
  /-- The browsers are the same. -/
  sees : rig.Sees rig' view

namespace Pair

/-- The sessions are the same but for names and times, the browser cannot tell the worlds apart, and
what has happened since certain pasts is the same but for names and times. -/
structure Alike (p : Pair W V) (past past' : List Occurrence) (s s' : Stage W) : Prop where
  /-- The sessions have the same essence. -/
  session : s.session.essence = s'.session.essence
  /-- The browser sees the same. -/
  view : p.view s.world = p.view s'.world
  /-- What happened has the same essence. -/
  told : ∃ told told', s.trace = past ++ told ∧ s'.trace = past' ++ told' ∧
    told.map (·.essence p.mask) = told'.map (·.essence p.mask)

/-- Two operations end alike: both succeed or both fail, with related results, in stages that are
alike. -/
inductive Ends (p : Pair W V) (past past' : List Occurrence) (P : α → α → Prop) (Q : ε → ε → Prop) :
    EStateM.Result ε (Stage W) α → EStateM.Result ε (Stage W) α → Prop
  /-- Both succeed. -/
  | ok {a a' : α} {s s' : Stage W} (result : P a a') (alike : p.Alike past past' s s') :
    Ends p past past' P Q (.ok a s) (.ok a' s')
  /-- Both fail. -/
  | error {e e' : ε} {s s' : Stage W} (result : Q e e') (alike : p.Alike past past' s s') :
    Ends p past past' P Q (.error e s) (.error e' s')

/-- Two operations end alike wherever they begin alike. -/
def Agrees (p : Pair W V) (P : α → α → Prop) (Q : ε → ε → Prop) (op op' : SessionOp W ε α) : Prop :=
  ∀ ⦃past past' s s'⦄, p.Alike past past' s s' → p.Ends past past' P Q (op s) (op' s')

variable {p : Pair W V} {past past' : List Occurrence}

/-! ## Rules -/

/-- The same thing happens in both sessions. -/
theorem Alike.note {s s' : Stage W} (h : p.Alike past past' s s') {o o' : Occurrence}
    (ho : o.essence p.mask = o'.essence p.mask) : p.Alike past past' (s.note o) (s'.note o') := by
  obtain ⟨told, told', hs, hs', htold⟩ := h.told
  refine ⟨h.session, h.view, told ++ [o], told' ++ [o'], ?_, ?_, ?_⟩
  · simp [Stage.note, hs]
  · simp [Stage.note, hs']
  · simp [htold, ho]

/-- Both sessions are changed in the same way. -/
theorem Alike.update {s s' : Stage W} (h : p.Alike past past' s s') {session session' : Session}
    (hsession : session.essence = session'.essence) :
    p.Alike past past' { s with session := session } { s' with session := session' } :=
  ⟨hsession, h.view, h.told⟩

/-- The same messages arrive in both sessions. -/
theorem Alike.receive {s s' : Stage W} (h : p.Alike past past' s s') (messages : List Message) :
    p.Alike past past' (s.receive p.rig messages) (s'.receive p.rig' messages) := by
  refine ⟨?_, h.view, h.told⟩
  unfold Stage.receive
  rw [Session.hear_essence, Session.hear_essence, h.session]

/-- The browser answers both alike. -/
theorem Alike.call {s s' : Stage W} (h : p.Alike past past' s s') (c : Call) :
    (s.call p.rig c).1 = (s'.call p.rig' c).1 ∧
      p.Alike past past' (s.call p.rig c).2 (s'.call p.rig' c).2 := by
  have houtcome := p.sees.outcome c _ _ h.view
  have hmessages := p.sees.messages c _ _ h.view
  refine ⟨houtcome, ?_⟩
  unfold Stage.call
  dsimp only
  rw [← hmessages]
  have hasked : p.Alike past past'
      { s with
        world := (p.rig.browser.call c s.world).2
        elapsed := s.elapsed + (p.rig.browser.call c s.world).1.elapsed }
      { s' with
        world := (p.rig'.browser.call c s'.world).2
        elapsed := s'.elapsed + (p.rig'.browser.call c s'.world).1.elapsed } :=
    ⟨h.session, p.sees.next c _ _ h.view, h.told⟩
  exact (hasked.note (by rw [houtcome])).receive _

/-- The browser lets the same messages arrive in both without a call. -/
theorem Alike.idle {s s' : Stage W} (h : p.Alike past past' s s') (ms : Nat) :
    p.Alike past past' (s.idle p.rig ms) (s'.idle p.rig' ms) := by
  unfold Stage.idle
  dsimp only
  rw [← p.sees.overheard ms _ _ h.view]
  have hlater : p.Alike past past'
      { s with world := (p.rig.browser.idle ms s.world).2, elapsed := s.elapsed + ms }
      { s' with world := (p.rig'.browser.idle ms s'.world).2, elapsed := s'.elapsed + ms } :=
    ⟨h.session, p.sees.later ms _ _ h.view, h.told⟩
  exact hlater.receive _

namespace Agrees

section Rules

variable {P : α → α → Prop} {Q : ε → ε → Prop}

/-- Related values are returned. -/
theorem pure {a a' : α} (h : P a a') :
    p.Agrees P Q (Pure.pure a : SessionOp W ε α) (Pure.pure a') :=
  fun _ _ _ _ hs => .ok h hs

/-- Related failures are thrown. -/
theorem throw {e e' : ε} (h : Q e e') :
    p.Agrees P Q (MonadExcept.throw e : SessionOp W ε α) (MonadExcept.throw e') :=
  fun _ _ _ _ hs => .error h hs

/-- Sequences agree if their parts do. -/
theorem bind {R : β → β → Prop} {op op' : SessionOp W ε α} {next next' : α → SessionOp W ε β}
    (h : p.Agrees P Q op op') (hnext : ∀ a a', P a a' → p.Agrees R Q (next a) (next' a')) :
    p.Agrees R Q (op >>= next) (op' >>= next') := by
  intro past past' s s' hs
  have hop := h hs
  rw [bind_apply, bind_apply]
  generalize op s = r, op' s' = r' at hop ⊢
  cases hop with
  | ok result alike => exact hnext _ _ result alike
  | error result alike => exact .error result alike

/-- What is seen of stages that are alike is alike. -/
theorem get : p.Agrees (fun s s' => s.session.essence = s'.session.essence) Q
    (MonadState.get : SessionOp W ε (Stage W)) MonadState.get :=
  fun _ _ _ _ hs => .ok hs.session hs

/-- The browser answers both alike. -/
theorem attempt (c : Call) :
    p.Agrees Eq Q (SessionOp.attempt p.rig c : SessionOp W ε _) (SessionOp.attempt p.rig' c) :=
  fun _ _ _ _ hs => .ok (hs.call c).1 (hs.call c).2

/-- Both tell the same. -/
theorem emit {event event' : Event} (h : event.essence p.mask = event'.essence p.mask) :
    p.Agrees Eq Q (SessionOp.emit event : SessionOp W ε Unit) (SessionOp.emit event') :=
  fun _ _ _ _ hs => .ok rfl (hs.note (congrArg Occurrence.emitted h))

/-- Both sessions are changed in a way that respects the essence. -/
theorem update {change change' : Session → Session}
    (h : ∀ session session', session.essence = session'.essence →
      (change session).essence = (change' session').essence) :
    p.Agrees Eq Q (SessionOp.update change : SessionOp W ε Unit) (SessionOp.update change') :=
  fun _ _ _ _ hs => .ok rfl (hs.update (h _ _ hs.session))

/-- Both add the same record. -/
theorem record {step step' : StepRecord} (h : step.essence = step'.essence) :
    p.Agrees Eq Q (SessionOp.record step : SessionOp W ε Unit) (SessionOp.record step') := by
  intro past past' s s' hs
  have hsession : (s.session.record step).essence = (s'.session.record step').essence := by
    rw [Session.record_essence, Session.record_essence, hs.session, h]
  exact .ok rfl ((hs.update hsession).note (congrArg Occurrence.recorded h))

/-- Both pause. -/
theorem pause (ms : UInt64) :
    p.Agrees Eq Q (SessionOp.pause p.rig ms : SessionOp W ε Unit) (SessionOp.pause p.rig' ms) :=
  fun _ _ _ _ hs => .ok rfl ((hs.idle _).note rfl)

/-- Both let messages arrive. -/
theorem lull :
    p.Agrees Eq Q (SessionOp.lull p.rig : SessionOp W ε Unit) (SessionOp.lull p.rig') :=
  fun _ _ _ _ hs => .ok rfl (hs.idle 0)

/-- Clocks may show anything. -/
theorem now : p.Agrees (fun _ _ => True) Q (SessionOp.now p.rig : SessionOp W ε Timestamp)
    (SessionOp.now p.rig') :=
  fun _ _ _ _ hs => .ok trivial hs

/-- Any time may have passed. -/
theorem elapsed :
    p.Agrees (fun _ _ => True) Q (SessionOp.elapsed : SessionOp W ε Nat) SessionOp.elapsed :=
  fun _ _ _ _ hs => .ok trivial hs

/-- Anything may take any time. -/
theorem since (start start' : Nat) : p.Agrees (fun _ _ => True) Q
    (SessionOp.since start : SessionOp W ε UInt64) (SessionOp.since start') :=
  fun _ _ _ _ hs => .ok trivial hs

/-- Taken as values, the same ends are the same. -/
theorem outcomeOf {op op' : SessionOp W δ α} (h : p.Agrees Eq Eq op op') :
    p.Agrees Eq Q (SessionOp.outcomeOf op : SessionOp W ε _) (SessionOp.outcomeOf op') := by
  intro past past' s s' hs
  have hop := h hs
  unfold SessionOp.outcomeOf
  generalize op s = r, op' s' = r' at hop ⊢
  cases hop with
  | ok result alike => exact .ok (congrArg Except.ok result) alike
  | error result alike => exact .ok (congrArg Except.error result) alike

end Rules

/-! ## Steps -/

/-- Asking the browser. -/
theorem ask (c : Call) : p.Agrees Eq Eq (SessionOp.ask p.rig c) (SessionOp.ask p.rig' c) := by
  unfold SessionOp.ask
  refine bind (attempt c) ?_
  rintro outcome _ rfl
  cases outcome with
  | ok answer => exact pure rfl
  | error e => exact throw rfl

/-- Asserting a condition. -/
theorem require (condition : Bool) (subject expected actual : String) :
    p.Agrees Eq Eq
      (Assertion.require condition subject expected actual : SessionOp W StepError Unit)
      (Assertion.require condition subject expected actual) := by
  unfold Assertion.require
  split
  · exact pure rfl
  · exact throw rfl

/-- Finding out whether an assertion holds; one about the console depends on what the messages say
only, and so does its failure. -/
theorem verify (assertion : Assertion) :
    p.Agrees Eq Eq (assertion.verify p.rig) (assertion.verify p.rig') := by
  rcases assertion with ⟨mode, expected⟩ | ⟨target, _ | _ | expected⟩ | ⟨mode, expected⟩ | expected
  -- The console is looked at without a call, so that what it shows has to be compared.
  case log =>
    refine bind get fun s s' h => ?_
    dsimp only
    rw [← Session.essence_mentions, ← Session.essence_transcript_length, h,
      Session.essence_mentions, Session.essence_transcript_length]
    exact require _ _ _ _
  all_goals
    refine bind (ask _) ?_
    rintro answer _ rfl
    exact require _ _ _ _

/-- Doing what an action says. -/
theorem performAction (config : RunConfig) (action : Action) :
    p.Agrees Eq Eq (action.perform p.rig config) (action.perform p.rig' config) := by
  cases action with
  | navigate url => exact ask (.navigate url)
  | goBack => exact ask .goBack
  | reload => exact ask .reload
  | wait ms => exact ask (.wait ms)
  | click target => exact ask (.click target)
  | fill field value => exact ask (.fill field value)
  | select field value => exact ask (.selectOption field value)
  | check target => exact ask (.check target)
  | uncheck target => exact ask (.uncheck target)
  | keyPress key => exact ask (.pressKey key)
  | scroll target =>
    cases target with
    | none => exact ask .scrollToBottom
    | some target => exact ask (.scrollIntoView target)
  | verify assertion => exact verify assertion
  | screenshot =>
    simp only [Action.perform]
    split
    · refine bind (ask _) ?_
      rintro reference _ rfl
      exact update fun session session' h => by
        rw [Session.addScreenshot_essence, Session.addScreenshot_essence, h]
    · exact pure rfl
  | captureLogs =>
    -- Only the number of messages is told, and it is the same for both.
    refine bind get fun s s' h => emit ?_
    rw [← Session.essence_transcript_length, h, Session.essence_transcript_length]
  | extract description target =>
    cases target with
    | none => exact pure rfl
    | some target =>
      refine bind (ask _) ?_
      rintro text _ rfl
      exact update fun session session' h => by
        rw [Session.addExtraction_essence, Session.addExtraction_essence, h]

/-- Doing what a sentence says. -/
theorem perform (config : RunConfig) (sentence : String) :
    p.Agrees Eq Eq (Step.perform p.rig config sentence) (Step.perform p.rig' config sentence) := by
  unfold Step.perform
  cases Action.ofSentence sentence with
  | ok action => exact performAction config action
  | error e => exact throw rfl

/-- Executing a step leaves the same record, or loses the browser for the same reason. -/
theorem execute (config : RunConfig) (group : String) (step : Step) :
    p.Agrees (fun record record' => record.essence = record'.essence) Eq
      (step.execute p.rig config group) (step.execute p.rig' config group) := by
  unfold Step.execute
  refine bind elapsed fun begun begun' _ => bind (outcomeOf (perform config step.sentence)) ?_
  rintro outcome _ rfl
  cases outcome with
  | ok _ => exact bind (since _ _) fun _ _ _ => bind now fun _ _ _ => pure rfl
  | error e =>
    dsimp only
    split
    · exact throw rfl
    · exact bind (since _ _) fun _ _ _ => bind now fun _ _ _ => pure rfl

/-! ## Groups -/

/-- What lies between a step and what follows it. -/
theorem rest (config : RunConfig) (passed : Bool) :
    p.Agrees Eq Eq (Group.rest p.rig config passed) (Group.rest p.rig' config passed) := by
  unfold Group.rest
  split
  · split
    · exact lull
    · exact pause _
  · exact lull

/-- Leaving out the rest of a group. -/
theorem abandon (name : String) (remaining : List Step) :
    p.Agrees Eq Eq (Group.abandon name remaining) (Group.abandon name remaining) := by
  unfold Group.abandon
  split
  · exact pure rfl
  · exact emit rfl

/-- Executing the steps of a group. -/
theorem runSteps (config : RunConfig) (name : String) (steps : List Step)
    (index : Nat) : p.Agrees Eq Eq (Group.runSteps p.rig config name index steps)
      (Group.runSteps p.rig' config name index steps) := by
  induction steps generalizing index with
  | nil => exact pure rfl
  | cons step remaining ih =>
    -- The records differ in their times, so what is done next may depend on their essence only.
    unfold Group.runSteps
    refine bind (emit rfl) fun _ _ _ => bind (execute config name step) ?_
    intro record record' h
    refine bind (emit ?_) fun _ _ _ => bind (Agrees.record h) fun _ _ _ => ?_
    · rw [StepRecord.event_essence, StepRecord.event_essence, h]
    · rw [← StepRecord.essence_isSuccess record, h, StepRecord.essence_isSuccess]
      refine bind (rest config record'.isSuccess) fun _ _ _ => ?_
      split
      · exact ih (index + 1)
      · split
        · exact abandon name remaining
        · exact ih (index + 1)

/-- Executing groups. -/
theorem runAll (config : RunConfig) (groups : List Group) :
    p.Agrees Eq Eq (Group.runAll p.rig config groups) (Group.runAll p.rig' config groups) := by
  induction groups with
  | nil => exact pure rfl
  | cons group groups ih =>
    unfold Group.runAll Group.run
    exact bind (bind (emit rfl) fun _ _ _ => runSteps config group.name group.steps 0)
      fun _ _ _ => ih

end Agrees

end Pair

end BrowserFlow
