import BrowserFlow.Proofs.Session.Events
import BrowserFlow.Proofs.Session.Life

/-!
# Records and their counts

A session's results hold its records and two counts of them. Whatever is done with a session, the
counts are the numbers of the records that they count and every record says why exactly if it is
that of a failure (`Results.Tallies`), and between two resets records are only added behind those
that are there (`Stage.after_prefix`). As long as 32 bits hold the counts, this makes the results
agree with themselves in every respect (`Results.Agree`).
-/

namespace BrowserFlow

open SessionOp

variable {W : Type}

namespace Results

/-- The counts of the results are those of their records, and every record is sound. -/
structure Tallies (results : Results) : Prop where
  /-- The records of steps that passed are counted. -/
  successes : results.successCount = .ofNat (results.steps.countP (·.status == .success))
  /-- The records of steps that failed are counted. -/
  failures : results.failureCount = .ofNat (results.steps.countP (·.status == .failure))
  /-- A record says why exactly if it is that of a failure. -/
  sound : ∀ record ∈ results.steps, record.Sound

/-- Results without records tally. -/
theorem Tallies.empty : ({} : Results).Tallies :=
  ⟨rfl, rfl, by simp⟩

/-- Results that tally do so when sound records have been added, whatever the duration. -/
theorem Tallies.add {results : Results} (h : results.Tallies) {records : List StepRecord}
    (sound : ∀ record ∈ records, record.Sound) (ms : UInt64) :
    ({ records.foldl Results.record results with totalDurationMs := ms } : Results).Tallies where
  successes := by
    dsimp only
    rw [foldl_record_successCount, foldl_record_steps, List.countP_append, UInt32.ofNat_add,
      h.successes]
  failures := by
    dsimp only
    rw [foldl_record_failureCount, foldl_record_steps, List.countP_append, UInt32.ofNat_add,
      h.failures]
  sound := by
    dsimp only
    rw [foldl_record_steps]
    exact List.forall_mem_append.mpr ⟨h.sound, sound⟩

/-- The results agree with themselves. -/
structure Agree (results : Results) : Prop where
  /-- One count is the number of the steps that passed. -/
  successes : results.successCount.toNat = results.steps.countP (·.status == .success)
  /-- The other count is the number of the steps that failed. -/
  failures : results.failureCount.toNat = results.steps.countP (·.status == .failure)
  /-- Every step counts once. -/
  sum : results.successCount.toNat + results.failureCount.toNat = results.steps.length
  /-- The results are those of a session that passed exactly if every step passed. -/
  passed_iff : results.passed = true ↔ ∀ record ∈ results.steps, record.status = .success
  /-- A record says why exactly if it is that of a failure. -/
  error_iff : ∀ record ∈ results.steps, record.error.isSome = true ↔ record.status = .failure

/-- A step that did not fail passed. -/
theorem countP_success_add_countP_failure (steps : List StepRecord) :
    steps.countP (·.status == .success) + steps.countP (·.status == .failure) = steps.length := by
  rw [List.length_eq_countP_add_countP (·.status == .success)]
  congr 1
  exact List.countP_congr fun record _ => by cases record.status <;> simp

/-- Results that tally agree with themselves as long as 32 bits hold the counts. -/
theorem Tallies.agree {results : Results} (h : results.Tallies)
    (few : results.steps.length < UInt32.size) : results.Agree := by
  have hsum := countP_success_add_countP_failure results.steps
  have hsuccesses : results.successCount.toNat = results.steps.countP (·.status == .success) := by
    rw [h.successes, UInt32.toNat_ofNat_of_lt' (by omega)]
  have hfailures : results.failureCount.toNat = results.steps.countP (·.status == .failure) := by
    rw [h.failures, UInt32.toNat_ofNat_of_lt' (by omega)]
  refine ⟨hsuccesses, hfailures, by rw [hsuccesses, hfailures, hsum], ?_, h.sound⟩
  rw [passed, beq_iff_eq, ← UInt32.toNat_inj, hfailures, UInt32.toNat_zero, List.countP_eq_zero]
  refine forall₂_congr fun record _ => ?_
  cases record.status <;> simp

end Results

/-- The records of a tour are sound. -/
theorem Tour.records_sound {rig : Rig W} {config : RunConfig} (tour : Tour rig config) :
    ∀ record ∈ tour.records, record.Sound := by
  intro record hrecord
  obtain ⟨visit, -, hvisit⟩ := List.mem_flatMap.mp hrecord
  obtain ⟨x, -, rfl⟩ := List.mem_map.mp hvisit
  obtain ⟨⟨outcome, ms, at_, hx⟩, -⟩ := Step.execute_ok x.executed
  rw [hx]
  exact StepRecord.ofOutcome_sound ..

/-- Every turn but a reset adds sound records to the results, and changes at most the duration. -/
theorem Turn.next_results (rig : Rig W) {turn : Turn W} (reset : turn ≠ .reset) (s : Stage W) :
    ∃ (records : List StepRecord) (ms : UInt64), (∀ record ∈ records, record.Sound) ∧
      (turn.next rig s).session.results =
        { records.foldl Results.record s.session.results with totalDurationMs := ms } := by
  -- Records are added by the first page and by runs. A step that is executed alone leaves its
  -- record to its caller.
  cases turn with
  | start url =>
    obtain ⟨told, records, -, sound, h⟩ := start_spec rig url s
    rw [next, h.results]
    exact ⟨records, _, sound, rfl⟩
  | run config store text =>
    by_cases begins : s.session.closed = false ∧ s.session.used = false
    · obtain ⟨account, h⟩ := Flow.exists_account rig config store text begins.1 begins.2
      obtain ⟨ms, hresults⟩ := h.results
      rw [next, hresults]
      exact ⟨account.tour.records, ms, account.tour.records_sound, rfl⟩
    · rw [next, Flow.run_reached_of_refused rig config store text begins]
      exact ⟨[], _, by simp, rfl⟩
  | execute config group step =>
    rw [next, (step.execute_advances rig config group s).results]
    exact ⟨[], _, by simp, rfl⟩
  | hear messages => exact ⟨[], _, by simp, rfl⟩
  | reset => exact absurd rfl reset
  | close =>
    rw [next, close_reached]
    split
    · exact ⟨[], _, by simp, rfl⟩
    · rw [(s.close.call_advances rig .close).results]
      exact ⟨[], _, by simp, rfl⟩

namespace Stage

/-- After any turns the results tally if they did before. -/
theorem after_tallies (rig : Rig W) (turns : List (Turn W)) {s : Stage W}
    (h : s.session.results.Tallies) : (s.after rig turns).session.results.Tallies := by
  refine after_induction (P := fun _ t => t.session.results.Tallies) h (fun _ t turn ht => ?_) turns
  by_cases reset : turn = .reset
  · rw [reset]
    exact Results.Tallies.empty
  · obtain ⟨records, ms, sound, hresults⟩ := Turn.next_results rig reset t
    rw [hresults]
    exact ht.add sound ms

/-- As long as there is no reset, the records stay, and others are added behind them. -/
theorem after_prefix (rig : Rig W) (turns : List (Turn W)) (s : Stage W)
    (reset : .reset ∉ turns) :
    s.session.results.steps <+: (s.after rig turns).session.results.steps := by
  revert reset
  refine after_induction (P := fun turns t => .reset ∉ turns →
    s.session.results.steps <+: t.session.results.steps) (fun _ => List.prefix_rfl)
    (fun turns t turn ht reset => ?_) turns
  rw [List.mem_append, List.mem_singleton, not_or] at reset
  obtain ⟨records, ms, -, hresults⟩ := Turn.next_results rig (Ne.symm reset.2) t
  rw [hresults, Results.foldl_record_steps]
  exact (ht reset.1).trans (List.prefix_append _ _)

/-- Whatever was done with a session, its results agree with themselves, and until the next reset
the records stay as they are. -/
theorem after_results (rig : Rig W) (id : String) (world : W) (turns : List (Turn W))
    (few : ((Stage.first rig id world).after rig turns).session.results.steps.length <
      UInt32.size) :
    let s := (Stage.first rig id world).after rig turns
    s.session.results.Agree ∧ ∀ later, .reset ∉ later →
      s.session.results.steps <+: (s.after rig later).session.results.steps := by
  intro s
  exact ⟨(after_tallies rig turns Results.Tallies.empty).agree few,
    fun later reset => after_prefix rig later s reset⟩

/-- On the scripted browser the sample turns leave four records, which are few enough. -/
theorem after_results_sample :
    (Stage.scripted.after .scripted Turn.sample).session.results.steps.length < UInt32.size ∧
    let s := Stage.scripted.after .scripted Turn.sample
    s.session.results.Agree ∧ ∀ later, .reset ∉ later →
      s.session.results.steps <+: (s.after .scripted later).session.results.steps := by
  have four : (Stage.scripted.after .scripted Turn.sample).session.results.steps.length = 4 := by
    decide +kernel
  have few : (Stage.scripted.after .scripted Turn.sample).session.results.steps.length <
      UInt32.size := by
    rw [four]
    decide
  unfold Stage.scripted at few ⊢
  exact ⟨few, after_results .scripted "first" { files := ⟨[], []⟩ } Turn.sample few⟩

end Stage

/-- A run that returns results has among them the records from before, and counts them rightly if
they were counted rightly before. -/
theorem Flow.run_results {rig : Rig W} {config : RunConfig} {store : Report.Store W} {text : String}
    {s t : Stage W} {results : Results} (isOpen : s.session.closed = false)
    (unused : s.session.used = false) (hrun : Flow.run rig config store text s = .ok results t) :
    s.session.results.steps <+: results.steps ∧
      (s.session.results.Tallies → results.Tallies) := by
  obtain ⟨account, h⟩ := Flow.exists_account rig config store text isOpen unused
  have hreached : (Flow.run rig config store text).reached s = t := by rw [reached, hrun]
  have hreturned : results = ((Flow.run rig config store text).reached s).session.results :=
    h.results_eq (by rw [result, hrun])
  obtain ⟨ms, hadded⟩ := h.results
  rw [hreached] at hreturned hadded
  rw [hreturned]
  refine ⟨?_, fun htallies => ?_⟩
  · rw [hadded, Results.foldl_record_steps]
    exact List.prefix_append _ _
  · rw [hadded]
    exact htallies.add account.tour.records_sound ms

end BrowserFlow
