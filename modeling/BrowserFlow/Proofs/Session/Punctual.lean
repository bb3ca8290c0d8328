import BrowserFlow.Proofs.Session.Account
import Mathlib.Algebra.GroupWithZero.Nat

/-!
# Only pauses take time

On a rig whose browser takes no time (`Rig.Instant`) only pauses take any: between two stages that
are `Stage.InTime` as much time passes as the pauses take that are noted. `Punctual` says so of an
operation, whatever its end. It holds of the basic operations and of sequences of operations for
which it holds, and so, one function after the other, of all that a run consists of and of the run
(`punctual_run`).
-/

namespace BrowserFlow

open SessionOp

variable {W ε α β : Type}

/-- No call to the browser takes any time. -/
def Rig.Instant (rig : Rig W) : Prop :=
  ∀ c world, (rig.browser.call c world).1.elapsed = 0

namespace Occurrence

/-- How long something that happens is a pause, in milliseconds. -/
def wait : Occurrence → Nat
  | .paused ms => ms
  | _ => 0

/-- How long the pauses took among what happened. -/
def waited (told : List Occurrence) : Nat :=
  (told.map wait).sum

/-- What happens first and what happens next add up. -/
theorem waited_append (first next : List Occurrence) :
    waited (first ++ next) = waited first + waited next := by
  simp [waited]

/-- What has no pauses takes no time. -/
theorem waited_eq_zero {told : List Occurrence} (h : ∀ o ∈ told, o.wait = 0) : waited told = 0 := by
  induction told with
  | nil => rfl
  | cons o told ih =>
    rw [List.forall_mem_cons] at h
    have htail : (told.map wait).sum = 0 := ih h.2
    simp [waited, h.1, htail]

end Occurrence

open Occurrence

/-- The scripted browser takes no time. -/
theorem Rig.scripted_instant : Rig.scripted.Instant := by
  intro c world
  show (Scripted.browser.call c world).1.elapsed = 0
  unfold Scripted.browser
  dsimp only
  generalize applyRules (Scripted.callName c) (Scripted.callArguments c).head? world.rules = ruled
  obtain ⟨_ | error, rules⟩ := ruled
  · cases c <;> rfl
  · rfl

/-! ## The time between two stages -/

namespace Stage

/-- Between two stages as much time passed as the pauses took that were noted meanwhile. -/
def InTime (s t : Stage W) : Prop :=
  t.elapsed + waited s.trace = s.elapsed + waited t.trace

/-- No time passes as long as nothing happens. -/
theorem InTime.refl (s : Stage W) : s.InTime s := rfl

/-- The times add up. -/
theorem InTime.trans {s t u : Stage W} (h : s.InTime t) (h' : t.InTime u) : s.InTime u := by
  unfold InTime at *
  omega

/-- If something happened, its pauses say how much time passed. -/
theorem InTime.elapsed_eq {s t : Stage W} {told : List Occurrence} (h : s.InTime t)
    (trace : t.trace = s.trace ++ told) : t.elapsed = s.elapsed + waited told := by
  unfold InTime at h
  rw [trace, waited_append] at h
  omega

/-- No time passes if one thing happens that is no pause. -/
theorem inTime_of_concat {s t : Stage W} {o : Occurrence} (trace : t.trace = s.trace ++ [o])
    (no_pause : o.wait = 0) (elapsed : t.elapsed = s.elapsed) : s.InTime t := by
  unfold InTime
  rw [trace, elapsed, waited_append]
  simp [waited, no_pause]

/-- No time passes while the browser is asked. -/
theorem call_inTime {rig : Rig W} (instant : rig.Instant) (c : Call) (s : Stage W) :
    s.InTime (s.call rig c).2 :=
  inTime_of_concat rfl rfl (congrArg (s.elapsed + ·) (instant c s.world))

end Stage

/-! ## The time of an operation -/

namespace SessionOp

/-- While an operation is under way, whatever its end, only pauses take time. -/
def Punctual (op : SessionOp W ε α) : Prop :=
  ∀ s : Stage W, s.InTime (op.reached s)

/-- A sequence of punctual operations is punctual. -/
theorem Punctual.bind {op : SessionOp W ε α} {next : α → SessionOp W ε β} (h : Punctual op)
    (hnext : ∀ a, Punctual (next a)) : Punctual (op >>= next) := by
  intro s
  have hs := h s
  unfold reached at hs ⊢
  rw [bind_apply]
  cases hop : op s with
  | ok a t =>
    rw [hop] at hs
    exact hs.trans (hnext a t)
  | error e t =>
    rw [hop] at hs
    exact hs

/-- Returning a value is punctual. -/
theorem punctual_pure (a : α) : Punctual (pure a : SessionOp W ε α) :=
  fun s => .refl s

/-- Failing is punctual. -/
theorem punctual_throw (e : ε) : Punctual (throw e : SessionOp W ε α) :=
  fun s => .refl s

/-- Looking at the stage is punctual. -/
theorem punctual_get : Punctual (get : SessionOp W ε (Stage W)) :=
  fun s => .refl s

/-- Looking at the clock is punctual. -/
theorem punctual_now (rig : Rig W) : Punctual (now rig : SessionOp W ε Timestamp) :=
  fun s => .refl s

/-- Looking at the time that has passed is punctual. -/
theorem punctual_elapsed : Punctual (elapsed : SessionOp W ε Nat) :=
  fun s => .refl s

/-- Measuring a duration is punctual. -/
theorem punctual_since (start : Nat) : Punctual (since start : SessionOp W ε UInt64) :=
  fun s => .refl s

/-- Changing the session is punctual. -/
theorem punctual_update (change : Session → Session) :
    Punctual (update change : SessionOp W ε Unit) :=
  fun _ => rfl

/-- Emitting an event is punctual. -/
theorem punctual_emit (event : Event) : Punctual (emit event : SessionOp W ε Unit) :=
  fun _ => Stage.inTime_of_concat rfl rfl rfl

/-- Adding a record is punctual. -/
theorem punctual_record (record : StepRecord) :
    Punctual (SessionOp.record record : SessionOp W ε Unit) :=
  fun _ => Stage.inTime_of_concat rfl rfl rfl

/-- A pause takes as long as it is noted to. -/
theorem punctual_pause (rig : Rig W) (ms : UInt64) :
    Punctual (pause rig ms : SessionOp W ε Unit) := by
  intro s
  show s.elapsed + pauseLength ms + waited s.trace =
    s.elapsed + waited (s.trace ++ [.paused (pauseLength ms)])
  rw [waited_append]
  simp only [waited, wait, List.map_cons, List.map_nil, List.sum_singleton]
  omega

/-- Letting messages arrive is punctual. -/
theorem punctual_lull (rig : Rig W) : Punctual (lull rig : SessionOp W ε Unit) :=
  fun _ => rfl

/-- Taking the end of a punctual operation as a value is punctual. -/
theorem Punctual.outcomeOf {δ : Type} {op : SessionOp W δ α} (h : Punctual op) :
    Punctual (SessionOp.outcomeOf op : SessionOp W ε _) := by
  intro s
  rw [reached, outcomeOf_apply]
  exact h s

section Instant

variable {rig : Rig W} (instant : rig.Instant)

include instant

/-- Asking a browser that takes no time is punctual. -/
theorem punctual_attempt (c : Call) : Punctual (attempt rig c : SessionOp W ε _) :=
  fun s => s.call_inTime instant c

/-- Executing a step is punctual: the browser is asked once or not at all. -/
theorem punctual_execute (config : RunConfig) (group : String) (step : Step) :
    Punctual (step.execute rig config group) := by
  intro s
  rw [step.execute_reached]
  cases step.plan config with
  | unasked told verdict =>
    have htold : waited ((told s.session).map .emitted) = 0 :=
      waited_eq_zero (List.forall_mem_map.mpr fun _ _ => rfl)
    rw [Plan.unasked_reached]
    unfold Stage.InTime Stage.tell
    rw [waited_append, htold, Nat.add_zero]
  | asking c verdict =>
    rw [Plan.asking_reached]
    exact s.call_inTime instant c

/-- Executing the steps of a group is punctual, by induction on the steps. -/
theorem punctual_runSteps (config : RunConfig) (name : String) (steps : List Step) (index : Nat) :
    Punctual (Group.runSteps rig config name index steps) := by
  -- Of all that is done only the pause behind a step takes time.
  induction steps generalizing index with
  | nil => exact punctual_pure ()
  | cons step remaining ih =>
    have hrest (passed : Bool) : Punctual (Group.rest rig config passed) := by
      unfold Group.rest
      split
      · split
        · exact punctual_lull rig
        · exact punctual_pause rig _
      · exact punctual_lull rig
    have habandon : Punctual (Group.abandon name remaining : SessionOp W RunError Unit) := by
      unfold Group.abandon
      split
      · exact punctual_pure ()
      · exact punctual_emit _
    refine .bind (punctual_emit _) fun _ => .bind (punctual_execute instant config name step) ?_
    refine fun result => .bind (punctual_emit _) fun _ => .bind (punctual_record result) fun _ =>
      .bind (hrest result.isSuccess) fun _ => ?_
    split
    · exact ih (index + 1)
    · split
      · exact habandon
      · exact ih (index + 1)

/-- Executing groups is punctual, by induction on the groups. -/
theorem punctual_runAll (config : RunConfig) (groups : List Group) :
    Punctual (Group.runAll rig config groups) := by
  induction groups with
  | nil => exact punctual_pure ()
  | cons group groups ih =>
    refine .bind (.bind (punctual_emit _) fun _ => ?_) fun _ => ih
    exact punctual_runSteps instant config group.name group.steps 0

/-- Asking the browser for what the report shows is punctual. -/
theorem punctual_tellOrEmpty (c : Call) (text : c.Answer → String) :
    Punctual (Flow.tellOrEmpty rig c text) := by
  refine .bind (punctual_attempt instant c) fun outcome => ?_
  cases outcome <;> exact punctual_pure _

omit instant in
/-- Giving a report away takes no time, whatever the store makes of it. -/
theorem punctual_persist (store : Report.Store W) (document : ReportDocument)
    (format : ReportFormat) : Punctual (Flow.persist rig store document format) := by
  intro s
  rw [reached, Flow.persist_apply]
  dsimp only
  cases Flow.kept rig store document format s <;> exact Stage.inTime_of_concat rfl rfl rfl

/-- Writing the report is punctual. -/
theorem punctual_writeReport (config : RunConfig) (store : Report.Store W) :
    Punctual (Flow.writeReport rig config store) := by
  refine .bind (punctual_tellOrEmpty instant .title id) fun _ =>
    .bind (punctual_tellOrEmpty instant .url id) fun _ => .bind punctual_get fun _ =>
    .bind (punctual_now rig) fun _ => .bind (punctual_persist store _ _) fun _ => ?_
  exact punctual_emit _

/-- Executing the groups and writing the report is punctual. -/
theorem punctual_drive (config : RunConfig) (store : Report.Store W) (groups : List Group) :
    Punctual (Flow.drive rig config store groups) := by
  refine .bind punctual_elapsed fun _ => .bind (punctual_runAll instant config groups).outcomeOf
    fun outcome => .bind (punctual_since _) fun _ => .bind (punctual_update _) fun _ => ?_
  cases outcome with
  | ok _ => exact punctual_writeReport instant config store
  | error e => exact punctual_throw e

/-- Closing the session is punctual. -/
theorem punctual_close : Punctual (close rig) := by
  refine .bind punctual_get fun s => ?_
  split
  · exact punctual_pure ()
  · refine .bind (punctual_update _) fun _ =>
      .bind (punctual_attempt instant .close) fun outcome => ?_
    cases outcome with
    | ok _ => exact punctual_pure ()
    | error e => exact punctual_throw _

omit instant in
/-- Claiming the session is punctual. -/
theorem punctual_claim : Punctual (claim : SessionOp W RunError Unit) := by
  have hopen : Punctual (ensureOpen : SessionOp W RunError Unit) := by
    refine .bind punctual_get fun s => ?_
    split
    · exact punctual_throw _
    · exact punctual_pure ()
  refine .bind hopen fun _ => .bind punctual_get fun s => ?_
  split
  · exact .bind (punctual_throw _) fun _ => punctual_update _
  · exact punctual_update _

/-- A run is punctual. -/
theorem punctual_run (config : RunConfig) (store : Report.Store W) (text : String) :
    Punctual (Flow.run rig config store text) := by
  have hfinish : Punctual (Flow.finish rig config) := by
    unfold Flow.finish
    split
    · exact punctual_pure ()
    · exact punctual_close instant
  refine .bind punctual_claim fun _ => .bind punctual_get fun _ => .bind (punctual_emit _) fun _ =>
    .bind (punctual_drive instant config store _).outcomeOf fun outcome =>
    .bind hfinish.outcomeOf fun closing => ?_
  split
  · exact punctual_throw _
  · exact punctual_throw _
  · exact .bind punctual_get fun _ => .bind (punctual_emit _) fun _ => punctual_pure _

end Instant

end SessionOp

end BrowserFlow
