import BrowserFlow.Console
import Mathlib.Data.List.Induction

/-!
# Logs that share a transcript

A log is a handle to a transcript, and a clone of it is another handle to the same one. Here the
handles are accounted for by where they come from: every log is a clone, of a clone perhaps, of one
log that was made as a new one, its origin. After any moves two handles lead to one transcript
exactly if the logs have one origin (`Consoles.Housed`). So logs of one origin show the same
forever, what is done with a log is seen through all logs of its origin, and through no other one
(`Consoles.after_shared`).
-/

namespace BrowserFlow.Consoles

/-- Something that is done with logs. -/
inductive Move
  /-- A message is pushed through a log. -/
  | push (log : Nat) (entry : LogEntry)
  /-- The transcript of a log is emptied. -/
  | clear (log : Nat)
  /-- A log is cloned. -/
  | clone (log : Nat)
  /-- A new log is made. -/
  | new

/-- The log through which a move changes what is shown. -/
def Move.changed? : Move → Option Nat
  | .push log _ => some log
  | .clear log => some log
  | _ => none

/-- The logs after a move. -/
def apply (consoles : Consoles) : Move → Consoles
  | .push log entry => consoles.push log entry
  | .clear log => consoles.clear log
  | .clone log => consoles.clone log
  | .new => consoles.add

/-- The logs after some moves; at first there is one log. -/
def after (moves : List Move) : Consoles :=
  moves.foldl apply {}

/-- For every log the log that was made as a new one and of which it is a clone, of a clone
perhaps, after one more move. -/
def originsNext (origins : List Nat) : Move → List Nat
  | .clone log => origins ++ [origins[log]?.getD 0]
  | .new => origins ++ [origins.length]
  | _ => origins

/-- The origins of all logs after some moves. -/
def origins (moves : List Move) : List Nat :=
  moves.foldl originsNext [0]

/-- Two logs are there after some moves, and have one origin. -/
def SameOrigin (moves : List Move) (a b : Nat) : Prop :=
  ∃ origin, (origins moves)[a]? = some origin ∧ (origins moves)[b]? = some origin

theorem after_concat (moves : List Move) (move : Move) :
    after (moves ++ [move]) = (after moves).apply move := by
  simp [after]

theorem origins_concat (moves : List Move) (move : Move) :
    origins (moves ++ [move]) = originsNext (origins moves) move := by
  simp [origins]

/-- The logs that there are keep their origins. -/
theorem origins_prefix (moves later : List Move) : origins moves <+: origins (moves ++ later) := by
  induction later using List.reverseRecOn with
  | nil => simp only [List.append_nil, List.prefix_rfl]
  | append_singleton later move ih =>
    rw [← List.append_assoc, origins_concat]
    refine ih.trans ?_
    cases move <;> simp [originsNext]

/-- Logs of one origin stay so. -/
theorem SameOrigin.append {moves : List Move} {a b : Nat} (h : SameOrigin moves a b)
    (later : List Move) : SameOrigin (moves ++ later) a b := by
  obtain ⟨origin, ha, hb⟩ := h
  obtain ⟨new, hnew⟩ := origins_prefix moves later
  have hkept {log : Nat} (hlog : (origins moves)[log]? = some origin) :
      (origins (moves ++ later))[log]? = some origin := by
    rw [← hnew, List.getElem?_append_left (List.getElem?_eq_some_iff.mp hlog).1, hlog]
  exact ⟨origin, hkept ha, hkept hb⟩

/-! ## Handles and origins -/

/-- Handles lead to transcripts, and two of them to the same one exactly if they have one origin. -/
structure Housed (consoles : Consoles) (origins : List Nat) : Prop where
  /-- There is one handle for every origin. -/
  length : consoles.handles.length = origins.length
  /-- The first log leads to the first transcript and is its own origin. -/
  first : consoles.handles[0]? = some 0 ∧ origins[0]? = some 0
  /-- Every handle leads to a transcript. -/
  handle_lt : ∀ i ∈ consoles.handles, i < consoles.transcripts.length
  /-- An origin is one of the logs. -/
  origin_lt : ∀ o ∈ origins, o < origins.length
  /-- Handles lead to one transcript exactly if they have one origin. -/
  eq_iff : ∀ a b, a < origins.length → b < origins.length →
    (consoles.handles[a]? = consoles.handles[b]? ↔ origins[a]? = origins[b]?)

/-- A log is added whose handle is that of another log exactly if its origin is. -/
theorem Housed.concat {transcripts : List Transcript} {handles os : List Nat} {handle o : Nat}
    {consoles : Consoles} (h : consoles.Housed os) (hhandles : consoles.handles = handles)
    (hmore : consoles.transcripts.length ≤ transcripts.length)
    (hhandle : handle < transcripts.length) (ho : o < os.length + 1)
    (hiff : ∀ a, a < os.length → (handles[a]? = some handle ↔ os[a]? = some o)) :
    Housed ⟨transcripts, handles ++ [handle]⟩ (os ++ [o]) := by
  subst hhandles
  have hlength := h.length
  have hpositive : 0 < os.length := (List.getElem?_eq_some_iff.mp h.first.2).1
  refine ⟨by simp [hlength], ?_, ?_, ?_, ?_⟩
  · rw [List.getElem?_append_left (by omega), List.getElem?_append_left hpositive]
    exact h.first
  · intro i hi
    rcases List.mem_append.mp hi with hi | hi
    · exact Nat.lt_of_lt_of_le (h.handle_lt i hi) hmore
    · rw [List.mem_singleton.mp hi]
      exact hhandle
  · intro i hi
    rw [List.length_append, List.length_singleton]
    rcases List.mem_append.mp hi with hi | hi
    · exact Nat.lt_succ_of_lt (h.origin_lt i hi)
    · rw [List.mem_singleton.mp hi]
      exact ho
  · -- The log that is added stands behind the others.
    have hold {a : Nat} (ha : a < os.length) :
        (consoles.handles ++ [handle])[a]? = consoles.handles[a]? ∧ (os ++ [o])[a]? = os[a]? :=
      ⟨List.getElem?_append_left (by omega), List.getElem?_append_left ha⟩
    have hnew : (consoles.handles ++ [handle])[os.length]? = some handle ∧
        (os ++ [o])[os.length]? = some o :=
      ⟨by rw [← hlength]; exact List.getElem?_concat_length, List.getElem?_concat_length⟩
    intro a b ha hb
    rw [List.length_append, List.length_singleton] at ha hb
    rcases Nat.lt_succ_iff_lt_or_eq.mp ha with ha | rfl <;>
      rcases Nat.lt_succ_iff_lt_or_eq.mp hb with hb | rfl
    · rw [(hold ha).1, (hold ha).2, (hold hb).1, (hold hb).2]
      exact h.eq_iff a b ha hb
    · rw [(hold ha).1, (hold ha).2, hnew.1, hnew.2]
      exact hiff a ha
    · rw [(hold hb).1, (hold hb).2, hnew.1, hnew.2, eq_comm, hiff b hb, eq_comm]
    · exact iff_of_true rfl rfl

theorem Housed.update {consoles : Consoles} {os : List Nat} (h : consoles.Housed os) (log : Nat)
    (change : Transcript → Transcript) : (consoles.update log change).Housed os := by
  have hhandles := consoles.update_handles log change
  exact ⟨hhandles ▸ h.length, hhandles ▸ h.first,
    fun i hi => consoles.update_length log change ▸ h.handle_lt i (hhandles ▸ hi), h.origin_lt,
    hhandles ▸ h.eq_iff⟩

/-- Every move keeps handles and origins in step. -/
theorem Housed.apply {consoles : Consoles} {os : List Nat} (h : consoles.Housed os) (move : Move) :
    (consoles.apply move).Housed (originsNext os move) := by
  have hlength := h.length
  have hpositive : 0 < os.length := (List.getElem?_eq_some_iff.mp h.first.2).1
  cases move with
  | push log entry => exact h.update log _
  | clear log => exact h.update log _
  | clone log =>
    -- A log that is not there is taken for the first one.
    obtain ⟨known, hknown, hhandle, horigin⟩ : ∃ known, known < os.length ∧
        consoles.handles[known]? = some (consoles.handles[log]?.getD 0) ∧
        os[known]? = some (os[log]?.getD 0) := by
      by_cases hlog : log < os.length
      · exact ⟨log, hlog, by simp [hlength, hlog], by simp [hlog]⟩
      · exact ⟨0, hpositive, by simp [hlength, hlog, h.first.1], by simp [hlog, h.first.2]⟩
    refine h.concat rfl (Nat.le_refl _) ?_ ?_ fun a ha => ?_
    · exact h.handle_lt _ (List.mem_of_getElem? hhandle)
    · exact Nat.lt_succ_of_lt (h.origin_lt _ (List.mem_of_getElem? horigin))
    · rw [← hhandle, ← horigin]
      exact h.eq_iff a known ha hknown
  | new =>
    refine h.concat rfl (by simp) (by simp) (Nat.lt_succ_self _) fun a ha => ?_
    refine iff_of_false (fun hsome => ?_) (fun hsome => ?_)
    · exact Nat.lt_irrefl _ (h.handle_lt _ (List.mem_of_getElem? hsome))
    · exact Nat.lt_irrefl _ (h.origin_lt _ (List.mem_of_getElem? hsome))

/-- After any moves handles and origins are in step. -/
theorem housed (moves : List Move) : (after moves).Housed (origins moves) := by
  induction moves using List.reverseRecOn with
  | nil => exact ⟨rfl, ⟨rfl, rfl⟩, by simp [after], by simp [origins], by simp [after, origins]⟩
  | append_singleton moves move ih =>
    rw [after_concat, origins_concat]
    exact ih.apply move

/-! ## What is shown -/

/-- A change through a log is seen through the logs that lead to the same transcript. -/
theorem Housed.read_update {consoles : Consoles} {os : List Nat} (h : consoles.Housed os)
    {log b : Nat} (hlog : log < os.length) (hb : b < os.length)
    (change : Transcript → Transcript) :
    (consoles.update log change).read b =
      if os[log]? = os[b]? then change (consoles.read b) else consoles.read b := by
  have hlength := h.length
  obtain ⟨i, hi⟩ : ∃ i, consoles.handles[log]? = some i := by simp [hlength, hlog]
  obtain ⟨j, hj⟩ : ∃ j, consoles.handles[b]? = some j := by simp [hlength, hb]
  have hlt := h.handle_lt j (List.mem_of_getElem? hj)
  -- The transcript that is changed is the one that is read exactly if the origins are equal.
  have hiff := h.eq_iff log b hlog hb
  rw [hi, hj, Option.some_inj] at hiff
  simp only [Consoles.read, Consoles.update, hi, hj, List.getElem?_modify,
    List.getElem?_eq_getElem hlt, Option.map_eq_map, Option.map_some, Option.getD_some]
  by_cases heq : i = j
  · rw [if_pos heq, if_pos (hiff.mp heq)]
  · rw [if_neg heq, if_neg fun ho => heq (hiff.mpr ho)]

/-- Logs of one origin show the same. -/
theorem Housed.read_eq {consoles : Consoles} {os : List Nat} (h : consoles.Housed os) {a b : Nat}
    (ha : a < os.length) (hb : b < os.length) (hsame : os[a]? = os[b]?) :
    consoles.read a = consoles.read b := by
  unfold read
  rw [(h.eq_iff a b ha hb).mpr hsame]

/-- A handle that is added changes nothing of what is shown through the others. -/
theorem Housed.read_concat {consoles : Consoles} {os : List Nat} (h : consoles.Housed os)
    {log : Nat} (hlog : log < os.length) (handle : Nat) (new : List Transcript) :
    read ⟨consoles.transcripts ++ new, consoles.handles ++ [handle]⟩ log = consoles.read log := by
  have hlength := h.length
  obtain ⟨i, hi⟩ : ∃ i, consoles.handles[log]? = some i := by simp [hlength, hlog]
  have hlt := h.handle_lt i (List.mem_of_getElem? hi)
  simp only [Consoles.read, List.getElem?_append_left (hlength ▸ hlog), hi,
    List.getElem?_append_left hlt]

/-- What can be said about logs after some moves. -/
structure Shared (moves : List Move) : Prop where
  /-- A clone has the origin of the log of which it is one. -/
  cloned : ∀ log, log < (origins moves).length →
    SameOrigin (moves ++ [.clone log]) log (origins moves).length
  /-- A new log has no other log's origin. -/
  made : ∀ log, log < (origins moves).length →
    ¬ SameOrigin (moves ++ [.new]) log (origins moves).length
  /-- Logs of one origin show the same, whatever is done later. -/
  same : ∀ a b, SameOrigin moves a b → ∀ later,
    (after (moves ++ later)).read a = (after (moves ++ later)).read b
  /-- What is done with a log leaves alone what logs of another origin show. -/
  others : ∀ move b, b < (origins moves).length →
    (∀ log, move.changed? = some log → ¬ SameOrigin moves log b) →
    (after (moves ++ [move])).read b = (after moves).read b
  /-- A message that is pushed through a log is the last one that logs of its origin show. -/
  push : ∀ log b entry, SameOrigin moves log b →
    (after (moves ++ [.push log entry])).read b = (after moves).read b ++ [entry]
  /-- When a log is emptied, logs of its origin show nothing. -/
  clear : ∀ log b, SameOrigin moves log b → (after (moves ++ [.clear log])).read b = []
  /-- A new log shows nothing. -/
  new : (after (moves ++ [.new])).read (origins moves).length = []

/-- Logs of one origin are there, and their origins are equal. -/
theorem SameOrigin.spec {moves : List Move} {a b : Nat} (h : SameOrigin moves a b) :
    a < (origins moves).length ∧ b < (origins moves).length ∧
      (origins moves)[a]? = (origins moves)[b]? := by
  obtain ⟨o, ha, hb⟩ := h
  exact ⟨(List.getElem?_eq_some_iff.mp ha).1, (List.getElem?_eq_some_iff.mp hb).1,
    ha.trans hb.symm⟩

/-- What is done with a log changes what logs of its origin show, and nothing else. -/
theorem read_change (moves : List Move) {log b : Nat} (hb : b < (origins moves).length)
    (change : Transcript → Transcript) :
    ((after moves).update log change).read b =
      if (origins moves)[log]? = (origins moves)[b]? then change ((after moves).read b)
      else (after moves).read b := by
  by_cases hlog : log < (origins moves).length
  · exact (housed moves).read_update hlog hb change
  · -- Nothing happens to a log that is not there.
    have hnone : (after moves).handles[log]? = none := by
      rw [List.getElem?_eq_none_iff, (housed moves).length]
      omega
    have hsame : (after moves).update log change = after moves := by simp [update, hnone]
    rw [hsame, if_neg]
    simp [hlog, hb]

/-- Whatever was done with logs, those of one origin show the same, and others do not notice what is
done with them. -/
theorem after_shared (moves : List Move) : Shared moves where
  cloned log hlog := by
    refine ⟨(origins moves)[log], ?_, ?_⟩ <;> rw [origins_concat]
    · simp [originsNext, List.getElem?_append_left hlog, hlog]
    · simp [originsNext, hlog]
  made log hlog := by
    rintro ⟨o, ha, hb⟩
    rw [origins_concat, originsNext] at ha hb
    rw [List.getElem?_append_left hlog] at ha
    rw [List.getElem?_concat_length] at hb
    cases hb
    exact Nat.lt_irrefl _ ((housed moves).origin_lt _ (List.mem_of_getElem? ha))
  same a b hab later := by
    obtain ⟨ha, hb, heq⟩ := (hab.append later).spec
    exact (housed (moves ++ later)).read_eq ha hb heq
  others move b hb hother := by
    rw [after_concat]
    -- A log that the move changes has another origin, so that nothing is seen of it.
    have hne (log : Nat) (hlog : move.changed? = some log) :
        (origins moves)[log]? ≠ (origins moves)[b]? := fun heq =>
      hother log hlog ⟨(origins moves)[b], heq.trans (by simp [hb]), by simp [hb]⟩
    cases move with
    | push log entry => exact (read_change moves hb _).trans (if_neg (hne log rfl))
    | clear log => exact (read_change moves hb _).trans (if_neg (hne log rfl))
    | clone log =>
      have h := (housed moves).read_concat hb ((after moves).handles[log]?.getD 0) []
      rwa [List.append_nil] at h
    | new => exact (housed moves).read_concat hb _ [[]]
  push log b entry hab := by
    obtain ⟨-, hb, heq⟩ := hab.spec
    rw [after_concat]
    exact (read_change moves hb _).trans (if_pos heq)
  clear log b hab := by
    obtain ⟨-, hb, heq⟩ := hab.spec
    rw [after_concat]
    exact (read_change moves hb _).trans (if_pos heq)
  new := by
    rw [after_concat, ← (housed moves).length]
    simp [apply, add, read]

end BrowserFlow.Consoles
