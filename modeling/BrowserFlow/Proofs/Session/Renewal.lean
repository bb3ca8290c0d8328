import BrowserFlow.Proofs.Session.Comparison
import BrowserFlow.Proofs.Session.Life

/-!
# Sessions after a reset

A run in a session that was reset is the run in a new session. The two sessions are compared part by
part: the groups, the report, the closing. Only the store is given something that is not the same in
both, since a report shows the session's name and times; what it makes of the two reports is what
the comparison of whole runs depends on (`Pair.Answers`).
-/

namespace BrowserFlow

open SessionOp

variable {W V : Type}

namespace Pair

variable {p : Pair W V} {past past' : List Occurrence} {s s' : Stage W}

/-- Operations that end alike lead to stages that are alike, and both succeed or both fail. -/
theorem Ends.reached_result {α ε : Type} {P : α → α → Prop} {Q : ε → ε → Prop}
    {op op' : SessionOp W ε α} (h : p.Ends past past' P Q (op s) (op' s')) :
    p.Alike past past' (op.reached s) (op'.reached s') ∧
      ((∃ a a', op.result s = .ok a ∧ op'.result s' = .ok a' ∧ P a a') ∨
        ∃ e e', op.result s = .error e ∧ op'.result s' = .error e' ∧ Q e e') := by
  unfold result reached
  generalize op s = r, op' s' = r' at h ⊢
  cases h with
  | ok result alike => exact ⟨alike, .inl ⟨_, _, rfl, rfl, result⟩⟩
  | error result alike => exact ⟨alike, .inr ⟨_, _, rfl, rfl, result⟩⟩

/-- Operations that agree lead to stages that are alike, with the same result. -/
theorem Agrees.reached_result {α ε : Type} {op op' : SessionOp W ε α} (h : p.Agrees Eq Eq op op')
    (hs : p.Alike past past' s s') :
    p.Alike past past' (op.reached s) (op'.reached s') ∧ op.result s = op'.result s' := by
  obtain ⟨alike, ⟨a, _, ha, ha', rfl⟩ | ⟨e, _, he, he', rfl⟩⟩ := (h hs).reached_result
  · exact ⟨alike, ha.trans ha'.symm⟩
  · exact ⟨alike, he.trans he'.symm⟩

/-! ## From the first event to the report -/

/-- Both sessions are claimed, and the runs say what is ahead. -/
theorem Alike.begun (h : p.Alike past past' s s') (text : String) :
    p.Alike past past' (Flow.begun s text) (Flow.begun s' text) := by
  have hclaim : p.Alike past past' s.claim s'.claim :=
    h.update (congrArg (fun session : Session => { session with used := true }) h.session)
  exact hclaim.note rfl

/-- The groups have been run, and their duration was noted. -/
theorem Alike.driven (h : p.Alike past past' s s') (config : RunConfig) (groups : List Group) :
    p.Alike past past' (Flow.driven p.rig config groups s)
      (Flow.driven p.rig' config groups s') := by
  have hran := ((Agrees.runAll config groups).reached_result h).1
  refine hran.update ?_
  rw [Session.setDuration_essence, Session.setDuration_essence, hran.session]

/-- The browser has told title and address. -/
theorem Alike.reporting (h : p.Alike past past' s s') :
    p.Alike past past' (Flow.reporting p.rig s) (Flow.reporting p.rig' s') :=
  ((h.call .title).2.call .url).2

/-- The reports show the same. -/
theorem Alike.reported (h : p.Alike past past' s s') (config : RunConfig) :
    (Flow.reported p.rig config s).essence = (Flow.reported p.rig' config s').essence := by
  unfold Flow.reported
  rw [Flow.report_essence, Flow.report_essence, h.reporting.session, (h.call .title).1,
    ((h.call .title).2.call .url).1]
  rfl

/-! ## The store -/

/-- The store makes the same of the reports of two runs that begin in certain stages: it keeps both
or fails at both, with the same texts under the mask, and the browser cannot tell the worlds apart
then. -/
structure Answers (p : Pair W V) (config : RunConfig) (store : Report.Store W) (text : String)
    (s s' : Stage W) : Prop where
  /-- What the store answers is the same. -/
  outcome : Report.answerEssence p.mask
      (Flow.kept p.rig store (Flow.summary p.rig config text s) config.reportFormat
        (Flow.summing p.rig config text s)) =
    Report.answerEssence p.mask
      (Flow.kept p.rig' store (Flow.summary p.rig' config text s') config.reportFormat
        (Flow.summing p.rig' config text s'))
  /-- The browser sees the same afterwards. -/
  view : p.view (Flow.keptWorld p.rig store (Flow.summary p.rig config text s) config.reportFormat
      (Flow.summing p.rig config text s)) =
    p.view (Flow.keptWorld p.rig' store (Flow.summary p.rig' config text s') config.reportFormat
      (Flow.summing p.rig' config text s'))

/-- The failures of two runs are the same under the mask. -/
def SameError (p : Pair W V) (e e' : RunError) : Prop :=
  e.essence p.mask = e'.essence p.mask

/-- The reports are written alike if the store makes the same of them. -/
theorem Alike.writeReport (h : p.Alike past past' s s') {config : RunConfig}
    {store : Report.Store W}
    (outcome : Report.answerEssence p.mask (Flow.kept p.rig store
        (Flow.reported p.rig config s) config.reportFormat (Flow.reporting p.rig s)) =
      Report.answerEssence p.mask (Flow.kept p.rig' store
        (Flow.reported p.rig' config s') config.reportFormat (Flow.reporting p.rig' s')))
    (view : p.view (Flow.keptWorld p.rig store
        (Flow.reported p.rig config s) config.reportFormat (Flow.reporting p.rig s)) =
      p.view (Flow.keptWorld p.rig' store
        (Flow.reported p.rig' config s') config.reportFormat (Flow.reporting p.rig' s'))) :
    p.Ends past past' Eq p.SameError (Flow.writeReport p.rig config store s)
      (Flow.writeReport p.rig' config store s') := by
  have hreporting := h.reporting
  have hreported := h.reported config
  rw [Flow.writeReport_apply, Flow.writeReport_apply, Flow.persist_apply, Flow.persist_apply]
  generalize Flow.reported p.rig config s = document,
    Flow.reported p.rig' config s' = document' at outcome view hreported ⊢
  generalize Flow.reporting p.rig s = v, Flow.reporting p.rig' s' = v'
    at outcome view hreporting ⊢
  generalize Flow.keptWorld p.rig store document config.reportFormat v = world,
    Flow.keptWorld p.rig' store document' config.reportFormat v' = world' at view ⊢
  generalize Flow.kept p.rig store document config.reportFormat v = kept,
    Flow.kept p.rig' store document' config.reportFormat v' = kept' at outcome ⊢
  -- The store was given two documents that differ in names and times: that what it answered is
  -- told alike is what was assumed of it.
  have hworld : p.Alike past past' { v with world := world } { v' with world := world' } :=
    ⟨hreporting.session, view, hreporting.told⟩
  have hnote : p.Alike past past'
      ({ v with world := world }.note (.persisted document config.reportFormat
        (document.render config.reportFormat) kept))
      ({ v' with world := world' }.note (.persisted document' config.reportFormat
        (document'.render config.reportFormat) kept')) :=
    hworld.note (by simp only [Occurrence.essence, hreported, outcome])
  cases kept with
  | ok path =>
    cases kept' with
    | ok path' =>
      have hpath : p.mask path = p.mask path' := Except.ok.inj outcome
      exact .ok rfl (hnote.note (by simp only [Occurrence.essence, Event.essence, hpath]))
    | error e' => cases outcome
  | error e =>
    cases kept' with
    | ok path' => cases outcome
    | error e' => exact .error (congrArg RunError.report (Except.error.inj outcome)) hnote

/-- The groups are run and the reports written alike if the store makes the same of them. -/
theorem Alike.drive (h : p.Alike past past' s s') (config : RunConfig) (store : Report.Store W)
    (text : String) (answers : (Group.runAll p.rig config (Flow.read text)).result
        (Flow.begun s text) = .ok () → p.Answers config store text s s') :
    p.Ends past past' Eq p.SameError
      (Flow.drive p.rig config store (Flow.read text) (Flow.begun s text))
      (Flow.drive p.rig' config store (Flow.read text) (Flow.begun s' text)) := by
  have hbegun := h.begun text
  have hran := ((Agrees.runAll config (Flow.read text)).reached_result hbegun).2
  have hdriven := hbegun.driven config (Flow.read text)
  rw [Flow.drive_apply, Flow.drive_apply, ← hran]
  dsimp only
  cases hresult : (Group.runAll p.rig config (Flow.read text)).result (Flow.begun s text) with
  | ok _ => exact hdriven.writeReport (answers hresult).outcome (answers hresult).view
  | error e => exact .error rfl hdriven

/-! ## The end of a run -/

/-- Closing is the same for both. -/
theorem Agrees.close : p.Agrees Eq Eq (SessionOp.close p.rig) (SessionOp.close p.rig') := by
  unfold SessionOp.close
  refine bind get fun s s' h => ?_
  rw [Session.closed_congr h]
  split
  · exact pure rfl
  · refine bind (update fun session session' h =>
      congrArg (fun session : Session => { session with closed := true }) h) fun _ _ _ =>
      bind (attempt .close) ?_
    rintro outcome _ rfl
    cases outcome with
    | ok _ => exact pure rfl
    | error e => exact throw rfl

/-- Finishing is the same for both. -/
theorem Agrees.finish (config : RunConfig) :
    p.Agrees Eq Eq (Flow.finish p.rig config) (Flow.finish p.rig' config) := by
  unfold Flow.finish
  split
  · exact pure rfl
  · exact close

/-- Two runs end alike that begin alike, if the store makes the same of the reports. -/
theorem Alike.run (h : p.Alike past past' s s') (config : RunConfig) (store : Report.Store W)
    (text : String) (isOpen : s.session.closed = false) (unused : s.session.used = false)
    (answers : (Group.runAll p.rig config (Flow.read text)).result (Flow.begun s text) = .ok () →
      p.Answers config store text s s') :
    p.Ends past past' (fun results results' => results.essence = results'.essence) p.SameError
      (Flow.run p.rig config store text s) (Flow.run p.rig' config store text s') := by
  have isOpen' : s'.session.closed = false := (Session.closed_congr h.session).symm.trans isOpen
  have unused' : s'.session.used = false := (Session.used_congr h.session).symm.trans unused
  obtain ⟨hdriven, hdrive⟩ := (h.drive config store text answers).reached_result
  obtain ⟨hfinished, hfinish⟩ := (Agrees.finish config).reached_result hdriven
  rw [Flow.run_apply p.rig config store text isOpen unused,
    Flow.run_apply p.rig' config store text isOpen' unused']
  dsimp only
  generalize (Flow.drive p.rig config store (Flow.read text)).reached (Flow.begun s text) = t,
    (Flow.drive p.rig' config store (Flow.read text)).reached (Flow.begun s' text) = t'
    at hfinished hfinish ⊢
  have hresults := Session.results_congr hfinished.session
  -- A failure before the end outweighs one at the end.
  rcases hdrive with ⟨_, _, hok, hok', -⟩ | ⟨e, e', he, he', hsame⟩
  · rw [hok, hok', ← hfinish]
    cases (Flow.finish p.rig config).result t with
    | error e => exact .error rfl hfinished
    | ok _ =>
      have hsuccesses : _ = _ := congrArg Results.successCount hresults
      have hfailures : _ = _ := congrArg Results.failureCount hresults
      simp only [Results.essence] at hsuccesses hfailures
      exact .ok hresults (hfinished.note (by
        simp only [Occurrence.essence, Event.essence, hsuccesses, hfailures]))
  · rw [he, he']
    exact .error hsame hfinished

/-! ## Runs after a reset -/

/-- Running a flow from one stage on is, but for names and times, what it is from another stage on,
which may be one of another session. -/
structure Repeats (p : Pair W V) (config : RunConfig) (store : Report.Store W) (text : String)
    (s s' : Stage W) : Prop where
  /-- The groups end in the same way. -/
  groups : (Group.runAll p.rig config (Flow.read text)).result (Flow.begun s text) =
    (Group.runAll p.rig' config (Flow.read text)).result (Flow.begun s' text)
  /-- When the report is made, the same has happened, and the sessions hold the same. -/
  summing : p.Alike s.trace s'.trace (Flow.summing p.rig config text s)
    (Flow.summing p.rig' config text s')
  /-- The reports show the same. -/
  summary : (Flow.summary p.rig config text s).essence =
    (Flow.summary p.rig' config text s').essence
  /-- If the store makes the same of them, the runs have the same results or fail in the same way,
  the same has happened in the end, and the sessions hold the same. -/
  run : ((Group.runAll p.rig config (Flow.read text)).result (Flow.begun s text) = .ok () →
      p.Answers config store text s s') →
    p.Ends s.trace s'.trace (fun results results' => results.essence = results'.essence)
      p.SameError (Flow.run p.rig config store text s) (Flow.run p.rig' config store text s')

end Pair

/-- The session is one that has just been opened, and nothing has arrived on its console. -/
def Session.Fresh (session : Session) : Prop :=
  session = { id := session.id }

/-- A session that is opened is such a one if no message arrives meanwhile. -/
theorem Stage.first_fresh (rig : Rig W) (id : String) {world : W}
    (quiet : (rig.browser.call .subscribeConsole world).1.messages = []) :
    (Stage.first rig id world).session.Fresh := by
  simp [Stage.first, Stage.call, Stage.receive, Stage.note, quiet, Session.hear, Session.Fresh]

/-- After a reset of a session that is open, whatever its history, a flow runs as in a new session
with the same browser in the same state. -/
theorem Flow.run_reset (p : Pair W V) (config : RunConfig) (store : Report.Store W) (text : String)
    {s new : Stage W} (isOpen : s.session.closed = false) (fresh : new.session.Fresh)
    (view : p.view s.world = p.view new.world) :
    p.Repeats config store text (Turn.next p.rig s .reset) new := by
  have hsession : (Turn.next p.rig s .reset).session.essence = new.session.essence := by
    rw [fresh]
    show (Session.reset s.session).essence = _
    rw [Session.reset_essence, isOpen]
    rfl
  have hs : p.Alike (Turn.next p.rig s .reset).trace new.trace (Turn.next p.rig s .reset) new :=
    ⟨hsession, view, [], [], by simp, by simp, rfl⟩
  have hdriven := (hs.begun text).driven config (Flow.read text)
  exact {
    groups := ((Pair.Agrees.runAll config (Flow.read text)).reached_result (hs.begun text)).2
    summing := hdriven.reporting
    summary := hdriven.reported config
    run := hs.run config store text isOpen rfl }

/-- What decides how the scripted browser answers: neither the files nor the calls that it noted. -/
def Scripted.view (state : ScriptedState) : ScriptedState :=
  { state with files := ⟨[], []⟩, calls := [] }

/-- The scripted browser answers by its view, and what it does to the state is seen in the view. -/
theorem Scripted.call_view (c : Call) (state : ScriptedState) :
    (browser.call c state).1 = (browser.call c (view state)).1 ∧
      view (browser.call c state).2 = view (browser.call c (view state)).2 := by
  simp only [browser]
  rw [show (view state).rules = state.rules from rfl]
  rcases applyRules (callName c) (callArguments c).head? state.rules with ⟨_ | error, rules⟩
  · cases c <;> exact ⟨rfl, rfl⟩
  · exact ⟨rfl, rfl⟩

/-- The scripted browser is the same as far as its view goes. -/
theorem Scripted.sees (clock : Nat → Timestamp) :
    Rig.scripted.Sees { Rig.scripted with clock := clock } Scripted.view := by
  have h (c : Call) (w w' : ScriptedState) (hw : view w = view w') :
      (browser.call c w).1 = (browser.call c w').1 ∧
        view (browser.call c w).2 = view (browser.call c w').2 := by
    rw [(call_view c w).1, (call_view c w).2, hw, ← (call_view c w').1, ← (call_view c w').2]
    exact ⟨rfl, rfl⟩
  exact {
    outcome := fun c w w' hw => congrArg Reply.outcome (h c w w' hw).1
    messages := fun c w w' hw => congrArg Reply.messages (h c w w' hw).1
    next := fun c w w' hw => (h c w w' hw).2
    overheard := fun _ _ _ _ => rfl
    later := fun _ _ _ hw => hw }

/-- The scripted browser goes on as before when it is asked to collect messages, if no call is to
fail. -/
theorem Scripted.subscribe_view {state : ScriptedState} (rules : state.rules = []) :
    view (browser.call .subscribeConsole state).2 = view state := by
  simp [browser, rules, applyRules, answer, view]

/-- Two sessions on the scripted browser, the other one a day later; the texts that a store makes
are compared but for their digits. -/
def Pair.scripted : Pair ScriptedState ScriptedState where
  rig := .scripted
  rig' := { Rig.scripted with clock := fun ms => ⟨ms + 86400000⟩ }
  view := Scripted.view
  mask text := text.map fun c => if c.isDigit then '0' else c
  sees := Scripted.sees _

namespace Flow

/-- On the scripted browser, the sample flow runs after the sample turns and a reset as in a new
session a day later, although the report is kept under the name of another day. -/
theorem run_reset_sample :
    let p := Pair.scripted
    let store : Report.Store ScriptedState := fun _ format _ at_ =>
      pure (Report.fileName format at_)
    let s := Stage.scripted.after p.rig Turn.sample
    let new := Stage.first p.rig' "second" s.world
    s.session.closed = false ∧ new.session.Fresh ∧ p.view s.world = p.view new.world ∧
      p.Ends (Turn.next p.rig s .reset).trace new.trace
        (fun results results' => results.essence = results'.essence) p.SameError
        (run p.rig {} store Flow.sample (Turn.next p.rig s .reset))
        (run p.rig' {} store Flow.sample new) := by
  intro p store s new
  have isOpen : s.session.closed = false := by decide +kernel
  have quiet : (p.rig'.browser.call .subscribeConsole s.world).1.messages = [] := by
    decide +kernel
  have rules : s.world.rules.isEmpty = true := by decide +kernel
  -- The two reports are given away on different days, and their names are the same under the mask.
  have name : p.mask (Report.fileName .json
      (p.rig.clock (summing p.rig {} Flow.sample (Turn.next p.rig s .reset)).elapsed)) =
        "relatorio-0000-00-00T00-00-00.json" := by decide +kernel
  have name' : p.mask (Report.fileName .json
      (p.rig'.clock (summing p.rig' {} Flow.sample new).elapsed)) =
        "relatorio-0000-00-00T00-00-00.json" := by decide +kernel
  clear_value s
  have fresh : new.session.Fresh := Stage.first_fresh p.rig' "second" quiet
  have view : p.view s.world = p.view new.world :=
    (Scripted.subscribe_view (List.isEmpty_iff.mp rules)).symm
  have h := run_reset p {} store Flow.sample isOpen fresh view
  exact ⟨isOpen, fresh, view, h.run fun _ =>
    ⟨congrArg Except.ok (name.trans name'.symm), h.summing.view⟩⟩

end Flow

end BrowserFlow
