import BrowserFlow.Proofs.Session.Account

/-!
# The records of a run

A run adds records to what the session has: one for every step that was executed, group after
group, each under its group's name and with its step's sentence. `Flow.exists_records` says so of
the session and of the results that a run returns, by the tour through the flow's groups.
-/

namespace BrowserFlow

open SessionOp

variable {W : Type} {rig : Rig W} {config : RunConfig}

/-- Records are added behind those that are there. -/
theorem Results.foldl_record_steps (records : List StepRecord) (results : Results) :
    (records.foldl Results.record results).steps = results.steps ++ records := by
  induction records generalizing results with
  | nil => exact (List.append_nil _).symm
  | cons record records ih =>
    have hstep : (results.record record).steps = results.steps ++ [record] := by
      unfold Results.record
      cases record.status <;> rfl
    rw [List.foldl_cons, ih, hstep, List.append_assoc, List.singleton_append]

/-- The records of a group are under its name, and have the sentences of the executed steps. -/
theorem Visit.records_map (visit : Visit rig config) :
    visit.records.map (fun record => (record.group, record.description)) =
      visit.steps.map fun step => (visit.group.name, step.sentence) := by
  unfold records steps
  rw [List.map_map, List.map_map]
  refine List.map_congr_left fun x hx => ?_
  obtain ⟨⟨outcome, ms, at_, hrecord⟩, -⟩ := Step.execute_ok x.executed
  simp only [Function.comp, hrecord, StepRecord.ofOutcome_group, StepRecord.ofOutcome_description,
    visit.group_eq x hx]

namespace Flow

/-- A tour tells which records a run that begins in a stage adds. -/
structure Records (store : Report.Store W) (text : String) (s : Stage W)
    (tour : Tour rig config) : Prop extends Toured text s tour where
  /-- The records of a group are under its name, and have the sentences of the executed steps. -/
  of_visit : ∀ visit ∈ tour.visits,
    visit.records.map (fun record => (record.group, record.description)) =
      visit.steps.map fun step => (visit.group.name, step.sentence)
  /-- Running the groups adds the records of the tour to those from before. -/
  of_groups :
    ((Group.runAll rig config (Flow.read text)).reached (begun s text)).session.results.steps =
      s.session.results.steps ++ tour.records
  /-- The rest of the run adds none. -/
  of_run : ((run rig config store text).reached s).session.results.steps =
    s.session.results.steps ++ tour.records
  /-- The results that are returned have the same records. -/
  of_results : ∀ results, (run rig config store text).result s = .ok results →
    results.steps = s.session.results.steps ++ tour.records

/-- The session has the records from before and those of the tour. -/
theorem Account.Describes.steps_eq {account : Account rig config} {store : Report.Store W}
    {text : String} {s t : Stage W} {result : Except RunError Results}
    (h : account.Describes store text s t result) :
    t.session.results.steps = s.session.results.steps ++ account.tour.records := by
  obtain ⟨ms, hresults⟩ := h.results
  rw [hresults]
  exact Results.foldl_record_steps _ _

/-- The tour of a run tells which records the run adds. -/
theorem Account.Describes.records {account : Account rig config} {store : Report.Store W}
    {text : String} {s : Stage W}
    (h : account.Describes store text s ((run rig config store text).reached s)
      ((run rig config store text).result s)) :
    Records store text s account.tour := by
  have hgroups : ((Group.runAll rig config (Flow.read text)).reached
      (begun s text)).session.results.steps = s.session.results.steps ++ account.tour.records := by
    rw [h.leads.advances.results, Results.foldl_record_steps]
    rfl
  exact ⟨h.toToured, fun visit _ => visit.records_map, hgroups, h.steps_eq,
    fun results hok => (h.results_eq hok) ▸ h.steps_eq⟩

/-- A run makes a tour through the groups of its flow, and adds the records of the tour to those
that the session has. -/
theorem exists_records (rig : Rig W) (config : RunConfig) (store : Report.Store W) (text : String)
    {s : Stage W} (isOpen : s.session.closed = false) (unused : s.session.used = false) :
    ∃ tour : Tour rig config, Records store text s tour := by
  obtain ⟨account, h⟩ := exists_account rig config store text isOpen unused
  exact ⟨account.tour, h.records⟩

/-- On the scripted browser, a run that stops at failures adds the records of two steps of the first
group and of the step of the second one to the record that is there. -/
theorem exists_records_interrupted :
    let config : RunConfig := { stopOnFailure := true }
    started.session.closed = false ∧ started.session.used = false ∧
      ((run .scripted config (.directory "out") interrupted).reached
        started).session.results.steps.map (fun record => (record.group, record.isSuccess)) =
          [("Geral", true), ("A", true), ("A", false), ("B", true)] ∧
      ∃ tour : Tour .scripted config, Records (.directory "out") interrupted started tour := by
  intro config
  have isOpen : started.session.closed = false := by decide +kernel
  have unused : started.session.used = false := by decide +kernel
  exact ⟨isOpen, unused, by decide +kernel,
    exists_records .scripted config (.directory "out") interrupted isOpen unused⟩

end Flow

end BrowserFlow
