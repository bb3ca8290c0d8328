import BrowserFlow.Session.Stage

/-!
# Operations on a stage

What each basic operation of a session does to the stage it starts from, as an equation: where it
leads, with which result. The operations of runs are sequences of these, and `bind_apply` takes a
sequence apart. A call to the browser is the only basic operation that the browser has a say in;
whatever it answers, `Stage.call_advances` says that the session hears messages, that the call is
noted, and that nothing else changes.
-/

namespace BrowserFlow

variable {W ε α β : Type}

namespace Stage

/-- The stage after an event. -/
def emit (s : Stage W) (event : Event) : Stage W :=
  s.note (.emitted event)

/-- The stage after a record has been added. -/
def record (s : Stage W) (record : StepRecord) : Stage W :=
  { s with session := s.session.record record }.note (.recorded record)

/-- The entries of the messages that arrive on the console during a call. -/
def heard (rig : Rig W) (s : Stage W) (c : Call) : Transcript :=
  let reply := (rig.browser.call c s.world).1
  reply.messages.map (·.entry (rig.clock (s.elapsed + reply.elapsed)))

/-- The entries of the messages that arrive on the console while time passes without a call. -/
def overheard (rig : Rig W) (s : Stage W) (ms : Nat) : Transcript :=
  (rig.browser.idle ms s.world).1.map (·.entry (rig.clock (s.elapsed + ms)))

/-- The session reads at its end what has arrived during a call. -/
theorem call_transcript (rig : Rig W) (c : Call) (s : Stage W) :
    (s.call rig c).2.session.transcript = s.session.transcript ++ s.heard rig c :=
  Session.hear_transcript ..

end Stage

namespace SessionOp

/-- How an operation ends. -/
def result (op : SessionOp W ε α) (s : Stage W) : Except ε α :=
  match op s with
  | .ok a _ => .ok a
  | .error e _ => .error e

/-- The stage that an operation leads to, whether it fails or not. -/
def reached (op : SessionOp W ε α) (s : Stage W) : Stage W :=
  match op s with
  | .ok _ t => t
  | .error _ t => t

/-- Operations that come to the same end with the same result. -/
theorem result_congr {op op' : SessionOp W ε α} {s s' : Stage W} (h : op s = op' s') :
    op.result s = op'.result s' := by
  unfold result
  rw [h]

/-- Operations that come to the same end lead to the same stage. -/
theorem reached_congr {op op' : SessionOp W ε α} {s s' : Stage W} (h : op s = op' s') :
    op.reached s = op'.reached s' := by
  unfold reached
  rw [h]

/-- A sequence of operations goes on where its first part leads, and ends there if that fails. -/
theorem bind_apply (op : SessionOp W ε α) (next : α → SessionOp W ε β) (s : Stage W) :
    (op >>= next) s = match op s with
      | .ok a t => next a t
      | .error e t => .error e t := by
  show EStateM.bind op next s = _
  unfold EStateM.bind
  cases op s <;> rfl

/-- Returning a value changes nothing. -/
theorem pure_apply (a : α) (s : Stage W) : (pure a : SessionOp W ε α) s = .ok a s := rfl

/-- Failing changes nothing. -/
theorem throw_apply (e : ε) (s : Stage W) : (throw e : SessionOp W ε α) s = .error e s := rfl

/-- Looking at the stage changes nothing. -/
theorem get_apply (s : Stage W) : (get : SessionOp W ε (Stage W)) s = .ok s s := rfl

/-- A call leads where the browser leads it, and never fails as an operation. -/
theorem attempt_apply (rig : Rig W) (c : Call) (s : Stage W) :
    (attempt rig c : SessionOp W ε _) s = .ok (s.call rig c).1 (s.call rig c).2 := rfl

/-- Taken as a value, the end of an operation is no failure, and the stage stays that reached. -/
theorem outcomeOf_apply {δ : Type} (op : SessionOp W δ α) (s : Stage W) :
    (outcomeOf op : SessionOp W ε _) s = .ok (op.result s) (op.reached s) := by
  unfold outcomeOf result reached
  cases op s <;> rfl

/-- An event is noted. -/
theorem emit_apply (event : Event) (s : Stage W) :
    (emit event : SessionOp W ε Unit) s = .ok () (s.emit event) := rfl

/-- A record is added and noted. -/
theorem record_apply (step : StepRecord) (s : Stage W) :
    (record step : SessionOp W ε Unit) s = .ok () (s.record step) := rfl

/-- A change of the session leaves the rest of the stage alone. -/
theorem update_apply (change : Session → Session) (s : Stage W) :
    (update change : SessionOp W ε Unit) s = .ok () { s with session := change s.session } := rfl

/-- The clock is read off the time that has passed. -/
theorem now_apply (rig : Rig W) (s : Stage W) :
    (now rig : SessionOp W ε Timestamp) s = .ok (rig.clock s.elapsed) s := rfl

/-- The time that has passed is read off the stage. -/
theorem elapsed_apply (s : Stage W) : (elapsed : SessionOp W ε Nat) s = .ok s.elapsed s := rfl

/-- A duration is read off the stage. -/
theorem since_apply (start : Nat) (s : Stage W) :
    (since start : SessionOp W ε UInt64) s = .ok (UInt64.ofNat (s.elapsed - start)) s := rfl

end SessionOp

namespace Stage

/-! ## What happens on the way -/

/-- From one stage to another `told` happened, and `records` were added to the results. Of the
session nothing else changed but what it has heard and captured. -/
structure Advances (s t : Stage W) (told : List Occurrence) (records : List StepRecord) : Prop where
  /-- The session is the same one. -/
  id : t.session.id = s.session.id
  /-- The records were added in order. -/
  results : t.session.results = records.foldl Results.record s.session.results
  /-- The session is claimed if it was. -/
  used : t.session.used = s.session.used
  /-- The session is closed if it was. -/
  closed : t.session.closed = s.session.closed
  /-- What happened was noted. -/
  trace : t.trace = s.trace ++ told

/-- Nothing changes as long as nothing happens. -/
theorem Advances.refl (s : Stage W) : Advances s s [] [] :=
  ⟨rfl, rfl, rfl, rfl, (List.append_nil _).symm⟩

/-- What happens first and what happens next add up. -/
theorem Advances.trans {s t u : Stage W} {first next : List Occurrence}
    {records records' : List StepRecord} (h : Advances s t first records)
    (h' : Advances t u next records') : Advances s u (first ++ next) (records ++ records') where
  id := h'.id.trans h.id
  results := by rw [h'.results, h.results, List.foldl_append]
  used := h'.used.trans h.used
  closed := h'.closed.trans h.closed
  trace := by rw [h'.trace, h.trace, List.append_assoc]

/-- An event is noted and changes nothing else. -/
theorem emit_advances (s : Stage W) (event : Event) :
    Advances s (s.emit event) [.emitted event] [] :=
  ⟨rfl, rfl, rfl, rfl, rfl⟩

/-- A record is added and noted. -/
theorem record_advances (s : Stage W) (record : StepRecord) :
    Advances s (s.record record) [.recorded record] [record] :=
  ⟨rfl, rfl, rfl, rfl, rfl⟩

/-- A call is noted with the way it ended, and changes nothing of the session but the console. -/
theorem call_advances (rig : Rig W) (c : Call) (s : Stage W) :
    Advances s (s.call rig c).2 [.called c (s.call rig c).1] [] :=
  ⟨rfl, rfl, rfl, rfl, rfl⟩

/-- Time that passes changes nothing of the session but the console, and is not noted by itself. -/
theorem idle_advances (rig : Rig W) (ms : Nat) (s : Stage W) : Advances s (s.idle rig ms) [] [] :=
  ⟨rfl, rfl, rfl, rfl, (List.append_nil _).symm⟩

end Stage

end BrowserFlow
