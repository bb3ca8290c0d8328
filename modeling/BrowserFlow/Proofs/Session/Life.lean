import BrowserFlow.Proofs.Session.Account

/-!
# The life of a session

What can be done with a session, turn after turn: its first page is opened, a flow is run, a single
step is executed, messages arrive while nothing is done, what was gathered is forgotten, the session
is closed. `Turn.next` is the stage that a turn leads to whether it fails or not, and `Stage.after`
the stage after some turns.

Two flags decide what a turn may still do. The history of turns explains both
(`Stage.Lawful`): the session is closed exactly if the browser was sent away, which happens at most
once, and an open session is used exactly if a run was asked for since the last reset.
-/

namespace BrowserFlow

open SessionOp

variable {W : Type}

/-- Something that is done with a session. -/
inductive Turn (W : Type)
  /-- Its first page is opened. -/
  | start (url : String)
  /-- A flow is run. -/
  | run (config : RunConfig) (store : Report.Store W) (text : String)
  /-- A single step is executed. -/
  | execute (config : RunConfig) (group : String) (step : Step)
  /-- Messages arrive on the console while nothing else is done. -/
  | hear (messages : List Message)
  /-- What was gathered is forgotten. -/
  | reset
  /-- The session is closed. -/
  | close

namespace Turn

/-- The stage that a turn leads to, whether it fails or not. -/
def next (rig : Rig W) (s : Stage W) : Turn W → Stage W
  | .start url => (SessionOp.start rig url).reached s
  | .run config store text => (Flow.run rig config store text).reached s
  | .execute config group step => (step.execute rig config group).reached s
  | .hear messages => s.receive rig messages
  | .reset => (SessionOp.reset : SessionOp W RunError Unit).reached s
  | .close => (SessionOp.close rig).reached s

/-- A run was asked for since the last reset. -/
def Claimed (turns : List (Turn W)) : Prop :=
  ∃ earlier config store text later,
    turns = earlier ++ .run config store text :: later ∧ .reset ∉ later

end Turn

namespace Stage

/-- The stage after some turns. -/
def after (rig : Rig W) (s : Stage W) (turns : List (Turn W)) : Stage W :=
  turns.foldl (Turn.next rig) s

/-- One more turn is taken after the others. -/
theorem after_concat (rig : Rig W) (s : Stage W) (turns : List (Turn W)) (turn : Turn W) :
    s.after rig (turns ++ [turn]) = turn.next rig (s.after rig turns) := by
  unfold after
  rw [List.foldl_append, List.foldl_cons, List.foldl_nil]

/-- What holds of a stage before any turn, and is kept by every turn, holds after any turns. -/
theorem after_induction {rig : Rig W} {s : Stage W} {P : List (Turn W) → Stage W → Prop}
    (first : P [] s)
    (next : ∀ turns t turn, P turns t → P (turns ++ [turn]) (turn.next rig t))
    (turns : List (Turn W)) : P turns (s.after rig turns) := by
  -- The turns that were taken already are carried along with the stage that they led to.
  have h (earlier turns : List (Turn W)) (t : Stage W) (ht : P earlier t) :
      P (earlier ++ turns) (t.after rig turns) := by
    induction turns generalizing earlier t with
    | nil => rwa [List.append_nil]
    | cons turn turns ih =>
      rw [List.append_cons]
      exact ih (earlier ++ [turn]) (turn.next rig t) (next earlier t turn ht)
  exact h [] turns s first

end Stage

/-! ## What the single turns do -/

namespace SessionOp

/-- The first page of a closed session is not opened. -/
theorem start_of_closed (rig : Rig W) (url : String) {s : Stage W}
    (closed : s.session.closed = true) : start rig url s = .error .closed s := by
  simp [start, ensureOpen, bind_apply, get_apply, throw_apply, closed]

/-- Opening the first page asks the browser once; the loss of the browser is a failure, and every
other end a record. -/
theorem start_apply (rig : Rig W) (url : String) {s : Stage W} (isOpen : s.session.closed = false) :
    start rig url s =
      let t := (s.call rig (.navigate url)).2
      let description := "Navegou para " ++ url
      let ms := UInt64.ofNat (t.elapsed - s.elapsed)
      match (s.call rig (.navigate url)).1 with
      | .ok _ => .ok () (t.record (.success Flow.untitled description ms (rig.clock t.elapsed)))
      | .error (.sessionLost reason) =>
        .error (.sessionLost (BrowserError.sessionLost reason).message) t
      | .error e => .ok () (t.record
          (.failure Flow.untitled description ms e.message (rig.clock t.elapsed))) := by
  simp only [start, bind_apply, ensureOpen_apply isOpen, elapsed_apply, attempt_apply]
  rcases s.call rig (.navigate url) with ⟨(label | reason | message) | _, t⟩ <;> rfl

/-- Nothing is done to close a closed session. -/
theorem close_of_closed (rig : Rig W) {s : Stage W} (closed : s.session.closed = true) :
    close rig s = .ok () s := by
  simp [close, bind_apply, get_apply, pure_apply, closed]

/-- Closing an open session sends the browser away, and leads where that leads. -/
theorem close_reached (rig : Rig W) (s : Stage W) :
    (close rig).reached s = if s.session.closed then s else (s.close.call rig .close).2 := by
  cases closed : s.session.closed with
  | true => rw [reached, close_of_closed rig closed, if_pos rfl]
  | false =>
    rw [reached, close_apply rig closed, if_neg (by simp)]
    rcases s.close.call rig .close with ⟨_ | _, t⟩ <;> rfl

end SessionOp

namespace StepRecord

/-- A record says why exactly if it is that of a failure. -/
def Sound (record : StepRecord) : Prop :=
  record.error.isSome = true ↔ record.status = .failure

/-- The record of a step that passed does not say why. -/
theorem success_sound (group description : String) (ms : UInt64) (at_ : Timestamp) :
    (success group description ms at_).Sound := by
  simp [Sound, success]

/-- The record of a step that failed says why. -/
theorem failure_sound (group description : String) (ms : UInt64) (error : String)
    (at_ : Timestamp) : (failure group description ms error at_).Sound := by
  simp [Sound, failure]

/-- The record of a step says why exactly if the step failed. -/
theorem ofOutcome_sound (group : String) (step : Step) (outcome : Except StepError Unit)
    (ms : UInt64) (at_ : Timestamp) : (ofOutcome group step outcome ms at_).Sound := by
  cases outcome with
  | ok _ => exact success_sound ..
  | error e => exact failure_sound ..

end StepRecord

namespace SessionOp

/-- Opening the first page does nothing, asks the browser, or asks it and adds a sound record. -/
theorem start_reached (rig : Rig W) (url : String) (s : Stage W) :
    let t := (s.call rig (.navigate url)).2
    (start rig url).reached s = s ∨ (start rig url).reached s = t ∨
      ∃ record : StepRecord, record.Sound ∧ (start rig url).reached s = t.record record := by
  cases closed : s.session.closed with
  | true => exact .inl (by rw [reached, start_of_closed rig url closed])
  | false =>
    rw [reached, start_apply rig url closed]
    dsimp only
    cases (s.call rig (.navigate url)).1 with
    | ok _ => exact .inr (.inr ⟨_, StepRecord.success_sound .., rfl⟩)
    | error e =>
      cases e with
      | sessionLost reason => exact .inr (.inl rfl)
      | _ => exact .inr (.inr ⟨_, StepRecord.failure_sound .., rfl⟩)

/-- Opening the first page asks the browser for it or does nothing, and adds sound records. -/
theorem start_spec (rig : Rig W) (url : String) (s : Stage W) :
    ∃ told records, (∀ outcome, .called .close outcome ∉ told) ∧
      (∀ record ∈ records, record.Sound) ∧ s.Advances ((start rig url).reached s) told records := by
  have hcall := s.call_advances rig (.navigate url)
  obtain h | h | ⟨record, sound, h⟩ := start_reached rig url s <;> rw [h]
  · exact ⟨[], [], by simp, by simp, .refl s⟩
  · exact ⟨_, [], by simp, by simp, hcall⟩
  · exact ⟨_, [record], by simp, by simpa using sound, hcall.trans (Stage.record_advances _ _)⟩

end SessionOp

namespace Flow

variable (rig : Rig W) (config : RunConfig) (store : Report.Store W) (text : String) {s : Stage W}

/-- No flow is run in a closed session. -/
theorem run_of_closed (closed : s.session.closed = true) :
    run rig config store text s = .error .closed s := by
  simp [run, claim, ensureOpen, bind_apply, get_apply, throw_apply, closed]

/-- No flow is run in a session that holds a run already. -/
theorem run_of_used (isOpen : s.session.closed = false) (used : s.session.used = true) :
    run rig config store text s = .error .alreadyUsed s := by
  simp [run, claim, bind_apply, get_apply, throw_apply, ensureOpen_apply isOpen, used]

/-- A run that does not begin is refused, and changes nothing. -/
theorem run_refused (h : ¬ (s.session.closed = false ∧ s.session.used = false)) :
    ∃ e, run rig config store text s = .error e s := by
  cases closed : s.session.closed with
  | true => exact ⟨_, run_of_closed rig config store text closed⟩
  | false =>
    have used : s.session.used = true := by simpa [closed] using h
    exact ⟨_, run_of_used rig config store text closed used⟩

/-- Where a refused run begins is where it ends. -/
theorem run_reached_of_refused (h : ¬ (s.session.closed = false ∧ s.session.used = false)) :
    (run rig config store text).reached s = s := by
  obtain ⟨e, hrun⟩ := run_refused rig config store text h
  rw [reached, hrun]

/-- What a run does to the session is done before its last event. -/
theorem run_session (isOpen : s.session.closed = false) (unused : s.session.used = false) :
    ((run rig config store text).reached s).session =
      ((finish rig config).reached
        ((drive rig config store (Flow.read text)).reached (begun s text))).session := by
  rw [reached, run_apply rig config store text isOpen unused]
  dsimp only
  cases (drive rig config store (Flow.read text)).result (begun s text) with
  | error e => rfl
  | ok _ => cases (finish rig config).result _ <;> rfl

/-- Finishing leaves the session as it is or closes it. -/
theorem finish_reached {t : Stage W} (isOpen : t.session.closed = false) :
    (finish rig config).reached t = if config.keepOpen then t else (t.close.call rig .close).2 := by
  unfold finish
  split
  · rfl
  · rw [close_reached, if_neg (by simp [isOpen])]

/-- Running groups and writing the report neither claims the session nor closes it. -/
theorem drive_flags (groups : List Group) (t : Stage W) :
    ((drive rig config store groups).reached t).session.used = t.session.used ∧
      ((drive rig config store groups).reached t).session.closed = t.session.closed := by
  obtain ⟨tour, -, leads, -⟩ := Group.exists_tour rig config groups t
  obtain ⟨report, -, -, -, hdrive⟩ := drive_spec rig config store groups t
  exact ⟨hdrive.used.trans leads.advances.used, hdrive.closed.trans leads.advances.closed⟩

/-- A run that begins claims the session. -/
theorem run_used (isOpen : s.session.closed = false) (unused : s.session.used = false) :
    ((run rig config store text).reached s).session.used = true := by
  obtain ⟨hused, hclosed⟩ := drive_flags rig config store (Flow.read text) (begun s text)
  rw [run_session rig config store text isOpen unused]
  generalize (drive rig config store (Flow.read text)).reached (begun s text) = t at hused hclosed
  rw [finish_reached rig config (hclosed.trans isOpen)]
  split
  · exact hused
  · exact (t.close.call_advances rig .close).used.trans hused

/-- A tour is cut short by the loss of the browser only. -/
theorem exists_eq_sessionLost {rig : Rig W} {config : RunConfig} {tour : Tour rig config}
    {e : RunError} (h : tour.outcome = .error e) : ∃ reason, e = .sessionLost reason := by
  cases tour with
  | whole visits => cases h
  | lost visits visit loss =>
    obtain ⟨c, reason, -, herror⟩ := Step.execute_error loss.lost
    cases h
    exact ⟨_, herror⟩

/-- Writing the report fails because the report is not kept. -/
theorem reportOutcome_eq_error {rig : Rig W} {config : RunConfig} {store : Report.Store W}
    {v : Stage W} {e : RunError} (h : reportOutcome rig config store v = .error e) :
    ∃ chain, e = .report chain := by
  unfold reportOutcome at h
  split at h
  · cases h
  · cases h
    exact ⟨_, rfl⟩

/-- Sending the browser away fails because it is lost. -/
theorem closingOutcome_eq_error {rig : Rig W} {v : Stage W} {e : RunError}
    (h : closingOutcome rig v = .error e) : ∃ reason, e = .sessionLost reason := by
  unfold closingOutcome at h
  split at h
  · cases h
  · cases h
    exact ⟨_, rfl⟩

/-- A run that begins fails because the browser is lost or the report is not kept. -/
theorem Account.outcome_eq_error {rig : Rig W} {config : RunConfig} {account : Account rig config}
    {store : Report.Store W} {e : RunError} (h : account.outcome store = .error e) :
    (∃ reason, e = .sessionLost reason) ∨ ∃ chain, e = .report chain := by
  -- The first failure is the one that counts: of the tour, of the report, of the closing.
  obtain ⟨tour, report, closing⟩ := account
  unfold outcome at h
  dsimp only at h
  split at h
  case h_1 e' htour =>
    cases h
    exact .inl (exists_eq_sessionLost htour)
  case h_2 e' _ hreport =>
    cases h
    cases report with
    | none => cases hreport
    | some v => exact .inr (reportOutcome_eq_error hreport)
  case h_3 =>
    cases closing with
    | none => cases h
    | some v => exact .inl (closingOutcome_eq_error h)

/-- A run that begins does not end as one that is refused. -/
theorem run_not_refused (isOpen : s.session.closed = false) (unused : s.session.used = false) :
    (run rig config store text).result s ≠ .error .closed ∧
      (run rig config store text).result s ≠ .error .alreadyUsed := by
  obtain ⟨account, h⟩ := exists_account rig config store text isOpen unused
  rw [h.result]
  cases hout : account.outcome store with
  | ok _ => simp [Except.map]
  | error e =>
    rcases account.outcome_eq_error hout with ⟨reason, rfl⟩ | ⟨chain, rfl⟩ <;> simp [Except.map]

end Flow

/-! ## The flags and the history -/

namespace Occurrence

/-- How often the browser was sent away among what happened. -/
def farewells (told : List Occurrence) : Nat :=
  (told.filterMap call?).count .close

/-- What happens first and what happens next add up. -/
theorem farewells_append (first next : List Occurrence) :
    farewells (first ++ next) = farewells first + farewells next := by
  unfold farewells
  rw [List.filterMap_append, List.count_append]

/-- The browser is not sent away if nothing that happened is that it is. -/
theorem farewells_eq_zero {told : List Occurrence} (h : ∀ outcome, .called .close outcome ∉ told) :
    farewells told = 0 := by
  unfold farewells
  rw [List.count_eq_zero, List.mem_filterMap]
  rintro ⟨o, ho, hcall⟩
  cases o with
  | called c outcome =>
    cases hcall
    exact h outcome ho
  | _ => cases hcall

end Occurrence

open Occurrence (farewells farewells_append farewells_eq_zero)

namespace Stage

/-- The browser was sent away once if the session is closed, and never if it is open. -/
def Balanced (s : Stage W) : Prop :=
  farewells s.trace = if s.session.closed then 1 else 0

/-- Whatever happens keeps the balance if the browser is not sent away. -/
theorem Advances.balanced {s t : Stage W} {told : List Occurrence} {records : List StepRecord}
    (h : s.Advances t told records) (stays : ∀ outcome, .called .close outcome ∉ told)
    (hs : s.Balanced) : t.Balanced := by
  unfold Balanced
  rw [h.trace, farewells_append, farewells_eq_zero stays, h.closed]
  exact hs

end Stage

namespace Flow.Account.Describes

/-- The browser is sent away once in a run, unless it is to stay open. -/
theorem farewells_history {rig : Rig W} {config : RunConfig} {account : Account rig config}
    {store : Report.Store W} {text : String} {s t : Stage W} {result : Except RunError Results}
    (h : account.Describes store text s t result) :
    farewells (account.history store text s result) = if config.keepOpen then 0 else 1 := by
  have hreport : farewells (account.report.elim [] (reportTold rig config store)) = 0 := by
    refine farewells_eq_zero fun outcome => ?_
    cases account.report with
    | none => simp
    | some v => simp [reportTold]
  have hclosing : farewells (account.closing.elim [] (closingTold rig)) =
      if config.keepOpen then 0 else 1 := by
    cases hkeep : config.keepOpen with
    | true =>
      rw [h.closing_eq_none hkeep]
      rfl
    | false =>
      obtain ⟨v, hv⟩ := h.exists_closing hkeep
      rw [hv]
      rfl
  have hfinished : farewells ((finishedEvents result).map .emitted) = 0 :=
    farewells_eq_zero fun outcome => by simp
  have hstarted (event : Event) (told : List Occurrence) :
      farewells (.emitted event :: told) = farewells told := rfl
  -- The browser is sent away neither on the tour nor by the report, so that only the closing
  -- counts.
  rw [history, List.cons_append, hstarted, farewells_append, hfinished, told, farewells_append,
    farewells_append, farewells_eq_zero account.tour.close_not_mem_told, hreport, hclosing,
    Nat.zero_add, Nat.add_zero]

end Flow.Account.Describes

/-- A run sends the browser away once, unless it is to stay open. -/
theorem Flow.run_farewells (rig : Rig W) (config : RunConfig) (store : Report.Store W)
    (text : String) {s : Stage W} (isOpen : s.session.closed = false)
    (unused : s.session.used = false) :
    farewells ((Flow.run rig config store text).reached s).trace =
      farewells s.trace + if config.keepOpen then 0 else 1 := by
  obtain ⟨account, h⟩ := Flow.exists_account rig config store text isOpen unused
  rw [h.trace_eq, farewells_append, h.farewells_history]

namespace Turn

/-- Every turn keeps the balance. -/
theorem next_balanced (rig : Rig W) (turn : Turn W) {s : Stage W} (hs : s.Balanced) :
    (turn.next rig s).Balanced := by
  -- A turn that closes the session sends the browser away once, and any other turn never does.
  cases turn with
  | start url =>
    obtain ⟨told, records, stays, -, h⟩ := start_spec rig url s
    rw [next]
    exact h.balanced stays hs
  | run config store text =>
    by_cases begins : s.session.closed = false ∧ s.session.used = false
    · obtain ⟨account, h⟩ := Flow.exists_account rig config store text begins.1 begins.2
      unfold Stage.Balanced at hs ⊢
      rw [next, h.trace_eq, farewells_append, h.farewells_history, h.closed, hs, begins.1]
      cases config.keepOpen <;> rfl
    · rw [next, Flow.run_reached_of_refused rig config store text begins]
      exact hs
  | execute config group step =>
    rw [next]
    exact (step.execute_advances rig config group s).balanced
      (step.close_not_mem_told rig config s) hs
  | hear messages => exact hs
  | reset => exact hs
  | close =>
    rw [next, close_reached]
    split
    · exact hs
    · rename_i isOpen
      have h := s.close.call_advances rig .close
      unfold Stage.Balanced at hs ⊢
      rw [if_neg isOpen] at hs
      rw [h.trace, farewells_append, h.closed, show farewells s.close.trace = 0 from hs]
      rfl

/-- A session that has been closed stays closed. -/
theorem next_closed (rig : Rig W) (turn : Turn W) {s : Stage W} (closed : s.session.closed = true) :
    (turn.next rig s).session.closed = true := by
  cases turn with
  | start url =>
    rw [next, reached, start_of_closed rig url closed]
    exact closed
  | run config store text =>
    rw [next, reached, Flow.run_of_closed rig config store text closed]
    exact closed
  | execute config group step =>
    rw [next, (step.execute_advances rig config group s).closed]
    exact closed
  | hear messages => exact closed
  | reset => exact closed
  | close =>
    rw [next, reached, close_of_closed rig closed]
    exact closed

/-- Only runs claim the session, and only a reset frees it. -/
theorem next_used (rig : Rig W) (turn : Turn W) (s : Stage W)
    (run : ∀ config store text, turn ≠ .run config store text) (reset : turn ≠ .reset) :
    (turn.next rig s).session.used = s.session.used := by
  cases turn with
  | start url =>
    obtain ⟨told, records, -, -, h⟩ := start_spec rig url s
    rw [next, h.used]
  | run config store text => exact absurd rfl (run config store text)
  | execute config group step => rw [next, (step.execute_advances rig config group s).used]
  | hear messages => rfl
  | reset => exact absurd rfl reset
  | close =>
    rw [next, close_reached]
    split
    · rfl
    · exact (s.close.call_advances rig .close).used

/-- A session that was open before a run is used after it. -/
theorem next_run_used (rig : Rig W) (config : RunConfig) (store : Report.Store W) (text : String)
    {s : Stage W} (isOpen : s.session.closed = false) :
    (next rig s (.run config store text)).session.used = true := by
  cases used : s.session.used with
  | true =>
    rw [next, reached, Flow.run_of_used rig config store text isOpen used]
    exact used
  | false => exact Flow.run_used rig config store text isOpen used

/-- After a run the session has been claimed. -/
theorem claimed_concat_run (turns : List (Turn W)) (config : RunConfig) (store : Report.Store W)
    (text : String) : Claimed (turns ++ [.run config store text]) :=
  ⟨turns, config, store, text, [], rfl, List.not_mem_nil⟩

/-- After a reset the session has not been claimed. -/
theorem not_claimed_concat_reset (turns : List (Turn W)) : ¬ Claimed (turns ++ [.reset]) := by
  rintro ⟨earlier, config, store, text, later, h, hlater⟩
  rcases List.eq_nil_or_concat later with rfl | ⟨later, turn, rfl⟩
  · cases List.append_inj_right' h rfl
  · rw [List.concat_eq_append] at h hlater
    rw [← List.cons_append, ← List.append_assoc] at h
    cases List.append_inj_right' h rfl
    simp at hlater

/-- Other turns than runs and resets leave it as it was. -/
theorem claimed_concat (turns : List (Turn W)) {turn : Turn W}
    (run : ∀ config store text, turn ≠ .run config store text) (reset : turn ≠ .reset) :
    Claimed (turns ++ [turn]) ↔ Claimed turns := by
  constructor
  · rintro ⟨earlier, config, store, text, later, h, hlater⟩
    rcases List.eq_nil_or_concat later with rfl | ⟨later, turn', rfl⟩
    · cases List.append_inj_right' h rfl
      exact absurd rfl (run config store text)
    · rw [List.concat_eq_append] at h hlater
      rw [← List.cons_append, ← List.append_assoc] at h
      exact ⟨earlier, config, store, text, later, List.append_inj_left' h rfl,
        fun hm => hlater (List.mem_append_left _ hm)⟩
  · rintro ⟨earlier, config, store, text, later, rfl, hlater⟩
    refine ⟨earlier, config, store, text, later ++ [turn], by simp, ?_⟩
    simpa [hlater] using reset.symm

end Turn

namespace Stage

/-- A session that has been closed stays closed. -/
theorem after_closed (rig : Rig W) (turns : List (Turn W)) {s : Stage W}
    (closed : s.session.closed = true) : (s.after rig turns).session.closed = true :=
  after_induction (P := fun _ t => t.session.closed = true) closed
    (fun _ _ turn ht => turn.next_closed rig ht) turns

/-- After any turns, the browser was sent away once if the session is closed, and never if it is
open. -/
theorem after_balanced (rig : Rig W) (turns : List (Turn W)) {s : Stage W} (hs : s.Balanced) :
    (s.after rig turns).Balanced :=
  after_induction (P := fun _ t => t.Balanced) hs (fun _ _ turn ht => turn.next_balanced rig ht)
    turns

/-- An open session is used exactly if it was claimed since the last reset. -/
theorem after_used_iff (rig : Rig W) (turns : List (Turn W)) {s : Stage W}
    (unused : s.session.used = false) (isOpen : (s.after rig turns).session.closed = false) :
    (s.after rig turns).session.used = true ↔ Turn.Claimed turns := by
  revert isOpen
  refine after_induction (P := fun turns t => t.session.closed = false →
    (t.session.used = true ↔ Turn.Claimed turns)) ?_ ?_ turns
  · intro _
    simp [unused, Turn.Claimed]
  · intro turns t turn ih isOpen
    -- The session was open before the turn as well.
    have before : t.session.closed = false := by
      cases closed : t.session.closed with
      | false => rfl
      | true => rw [turn.next_closed rig closed] at isOpen; cases isOpen
    by_cases run : ∃ config store text, turn = .run config store text
    · obtain ⟨config, store, text, rfl⟩ := run
      exact iff_of_true (Turn.next_run_used rig config store text before)
        (Turn.claimed_concat_run turns config store text)
    · by_cases reset : turn = .reset
      · rw [reset]
        exact iff_of_false
          (by simp [Turn.next, SessionOp.reset, reached, update_apply, Session.reset])
          (Turn.not_claimed_concat_reset turns)
      · simp only [not_exists] at run
        rw [turn.next_used rig t run reset, Turn.claimed_concat turns run reset]
        exact ih before

end Stage

/-- What holds of a stage after some turns, whatever they were. -/
structure Stage.Lawful (rig : Rig W) (s : Stage W) (turns : List (Turn W)) : Prop where
  /-- The browser was sent away at most once. -/
  close_once : s.calls.count .close ≤ 1
  /-- It was sent away exactly if the session is closed. -/
  closed_iff : s.session.closed = true ↔ .close ∈ s.calls
  /-- When it is told to close, the session is closed. -/
  closed_of_close : (Turn.next rig s .close).session.closed = true
  /-- When a run begins, the session is closed behind it unless the browser is to stay open. -/
  closed_of_run : s.session.closed = false → s.session.used = false → ∀ config store text,
    (Turn.next rig s (.run config store text)).session.closed = !config.keepOpen
  /-- A closed session stays closed; from then on nothing can be opened or run, closing succeeds,
  and all this changes nothing. -/
  of_closed : s.session.closed = true → ∀ later, let t := s.after rig later
    t.session.closed = true ∧ (∀ url, SessionOp.start rig url t = .error .closed t) ∧
      (∀ config store text, Flow.run rig config store text t = .error .closed t) ∧
      SessionOp.close rig t = .ok () t
  /-- In an open session a run is refused exactly if there was one since the last reset. -/
  claimed_iff : s.session.closed = false → ∀ config store text,
    (Flow.run rig config store text).result s = .error .alreadyUsed ↔ Turn.Claimed turns
  /-- A run that is refused changes nothing. -/
  of_refused : ∀ config store text,
    (Flow.run rig config store text).result s = .error .closed ∨
        (Flow.run rig config store text).result s = .error .alreadyUsed →
      (Flow.run rig config store text).reached s = s

/-- Whatever is done with a session, its flags say what may still be done. -/
theorem Stage.after_lawful (rig : Rig W) (id : String) (world : W) (turns : List (Turn W)) :
    ((Stage.first rig id world).after rig turns).Lawful rig turns := by
  have hbalanced := after_balanced rig turns (s := .first rig id world) rfl
  have hused := after_used_iff rig turns (s := .first rig id world) rfl
  generalize (Stage.first rig id world).after rig turns = s at hbalanced hused
  unfold Balanced Occurrence.farewells at hbalanced
  rw [← calls] at hbalanced
  refine ⟨?_, ?_, ?_, ?_, ?_, ?_, ?_⟩
  -- What the balance says.
  · rw [hbalanced]
    split <;> simp
  · rw [← List.count_pos_iff, hbalanced]
    cases s.session.closed <;> simp
  -- What closes the session.
  · rw [Turn.next, close_reached]
    split
    · assumption
    · exact (s.close.call_advances rig .close).closed
  · intro isOpen unused config store text
    obtain ⟨account, h⟩ := Flow.exists_account rig config store text isOpen unused
    exact h.closed
  -- What may still be done.
  · intro closed later
    have hlater := after_closed rig later closed
    exact ⟨hlater, fun url => start_of_closed rig url hlater,
      fun config store text => Flow.run_of_closed rig config store text hlater,
      close_of_closed rig hlater⟩
  · intro isOpen config store text
    rw [← hused isOpen]
    cases used : s.session.used with
    | true => simp [result, Flow.run_of_used rig config store text isOpen used]
    | false => simp [(Flow.run_not_refused rig config store text isOpen used).2]
  · intro config store text h
    by_cases begins : s.session.closed = false ∧ s.session.used = false
    · have hnot := Flow.run_not_refused rig config store text begins.1 begins.2
      exact absurd h (by simp [hnot])
    · obtain ⟨e, he⟩ := Flow.run_refused rig config store text begins
      rw [reached, he]

/-- A flow of two groups; one of its sentences is no action, and one asks for an image. -/
def Flow.sample : String := "# A\n1. Volte\n2. Nada\n# B\n3. Capture screenshot"

/-- On the scripted browser, a run that is not to leave the browser open closes the session, and no
reset opens it. -/
theorem Stage.after_lawful_closed :
    let turns : List (Turn ScriptedState) :=
      [.start "https://example.org", .run {} (fun _ _ _ _ => pure "memory/report.json") Flow.sample,
        .reset, .close]
    let s := Stage.scripted.after .scripted turns
    s.session.closed = true ∧ s.calls.count .close = 1 ∧ s.Lawful .scripted turns :=
  ⟨by decide +kernel, by decide +kernel, Stage.after_lawful .scripted "first" _ _⟩

/-- Some turns on the scripted browser: the first page is opened, an image is taken, and a flow is
run. -/
def Turn.sample : List (Turn ScriptedState) := [
  .start "https://example.org",
  .execute {} "Geral" ⟨1, "1. Capture screenshot"⟩,
  .run { keepOpen := true } (fun _ _ _ _ => pure "memory/report.json") Flow.sample]

end BrowserFlow
