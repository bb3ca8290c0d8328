import BrowserFlow.Proofs.Flow.Writing
import BrowserFlow.Proofs.Report.Cards
import BrowserFlow.Proofs.Session.Reporting

/-!
# Cards and groups

The report of a run shows one card for every group of its flow, if the session had no records
before. Three things come together for this: the groups of a flow have different names, even where
headings repeat; a run that writes a report has executed a step of every group; and the records of
a group are under its name. The records of the groups are therefore the runs into which the report
cuts its steps (`Tour.isCut`).
-/

namespace BrowserFlow

open Report

variable {W : Type} {rig : Rig W} {config : RunConfig}

namespace Visit

variable {visit : Visit rig config}

/-- The records of a group are under its name. -/
theorem group_eq_of_mem_records {record : StepRecord} (h : record ∈ visit.records) :
    record.group = visit.group.name := by
  have hmem := List.mem_map_of_mem (f := fun record => (record.group, record.description)) h
  rw [visit.records_map] at hmem
  obtain ⟨step, -, heq⟩ := List.mem_map.mp hmem
  exact (congrArg Prod.fst heq).symm

/-- A group that was finished has a record, if it has a step. -/
theorem Complete.records_ne_nil (h : visit.Complete) (hsteps : visit.group.steps ≠ []) :
    visit.records ≠ [] := by
  intro hnil
  have hnone : visit.executions = [] := List.map_eq_nil_iff.mp hnil
  have hall := h.all_of_passing (by simp [hnone])
  rw [hnone] at hall
  exact hsteps hall.symm

end Visit

/-- The records of groups with different names are cut into those of the groups. -/
theorem Visit.isCut {visits : List (Visit rig config)} (hcomplete : ∀ visit ∈ visits, visit.Complete)
    (hsteps : ∀ visit ∈ visits, visit.group.steps ≠ [])
    (hnames : (visits.map fun visit => visit.group.name).Nodup) :
    IsCut (visits.flatMap Visit.records) (visits.map Visit.records) where
  flatten_eq := by rw [List.flatMap_def]
  ne_nil := by
    rw [List.forall_mem_map]
    exact fun visit hvisit => (hcomplete visit hvisit).records_ne_nil (hsteps visit hvisit)
  group_eq := by
    rw [List.forall_mem_map]
    intro visit _ a ha b hb
    rw [group_eq_of_mem_records ha, group_eq_of_mem_records hb]
  group_ne := by
    rw [List.isChain_map]
    refine (List.pairwise_map.mp hnames).isChain.imp fun visit next hne a ha b hb => ?_
    rwa [group_eq_of_mem_records ha, group_eq_of_mem_records hb]

namespace Flow

variable {store : Report.Store W} {text : String} {s : Stage W}

theorem reported_steps (rig : Rig W) (config : RunConfig) (s : Stage W) :
    (reported rig config s).steps = s.session.results.steps := rfl

theorem driven_steps (rig : Rig W) (config : RunConfig) (groups : List Group) (s : Stage W) :
    (driven rig config groups s).session.results.steps =
      ((Group.runAll rig config groups).reached s).session.results.steps := rfl

/-- The report of a run on a session without records shows those of all groups of the flow. -/
theorem Account.Describes.exists_visits {account : Account rig config}
    (h : account.Describes store text s ((run rig config store text).reached s)
      ((run rig config store text).result s))
    (hreport : account.report = some (driven rig config (Flow.read text) (begun s text)))
    (fresh : s.session.results.steps = []) :
    ∃ visits : List (Visit rig config), visits.map (·.group) = Flow.read text ∧
      (∀ visit ∈ visits, visit.Complete) ∧
      (reported rig config (driven rig config (Flow.read text) (begun s text))).steps =
        visits.flatMap Visit.records := by
  have hwhole : account.tour.outcome = .ok () := h.report_isSome.mp (by rw [hreport]; rfl)
  have hcovers := h.covers
  have hsteps : (reported rig config (driven rig config (Flow.read text) (begun s text))).steps =
      account.tour.records := by
    rw [reported_steps, driven_steps, h.records.of_groups, fresh, List.nil_append]
  cases htour : account.tour with
  | whole visits =>
    rw [htour] at hcovers hsteps
    exact ⟨visits, hcovers.1, hcovers.2, hsteps⟩
  | lost visits visit loss =>
    -- Without the browser there is no report.
    rw [htour] at hwhole
    cases hwhole

/-- The report of a run on a session without records shows one card for every group of the flow. -/
theorem Account.Describes.exists_cards {account : Account rig config}
    (h : account.Describes store text s ((run rig config store text).reached s)
      ((run rig config store text).result s))
    (hreport : account.report = some (driven rig config (Flow.read text) (begun s text)))
    (fresh : s.session.results.steps = []) :
    ∃ cards, Finds (reported rig config
        (driven rig config (Flow.read text) (begun s text))).steps cards ∧
      List.Forall₂ (fun group card => ∃ run, IsCard group.name run card) (Flow.read text) cards := by
  have hflow := wellFormed_read text
  obtain ⟨visits, hgroups, hcomplete, hsteps⟩ := h.exists_visits hreport fresh
  have hcut : IsCut (visits.flatMap Visit.records) (visits.map Visit.records) := by
    refine Visit.isCut hcomplete (fun visit hvisit => ?_) ?_
    · have hmem : visit.group ∈ Flow.read text := hgroups ▸ List.mem_map_of_mem hvisit
      exact (hflow.groups _ hmem).steps_ne_nil
    · have hnodup := hflow.names_nodup
      rwa [← hgroups, List.map_map] at hnodup
  obtain ⟨cut, cards, hcut', hfinds, hcards⟩ := Report.exists_cards (visits.flatMap Visit.records)
  obtain rfl := hcut'.unique hcut
  rw [hsteps, ← hgroups]
  refine ⟨cards, hfinds, List.forall₂_map_left_iff.mpr
    ((List.forall₂_map_left_iff.mp hcards).imp fun visit card hcard => ?_)⟩
  -- The card is headed by the group of its records, which is that of the visit.
  obtain ⟨group, hcard⟩ := hcard
  obtain ⟨record, hrecord⟩ := List.exists_mem_of_ne_nil _ hcard.ne_nil
  have hname : visit.group.name = group :=
    (Visit.group_eq_of_mem_records hrecord).symm.trans (hcard.group_eq record hrecord)
  exact ⟨_, hname ▸ hcard⟩

end Flow

/-! ## Reports in cards -/

/-- How a report shows its steps as a page. -/
structure ReportDocument.Carded (report : ReportDocument) : Prop where
  /-- The steps are shown in one section of the page, and the rest does not depend on them. -/
  page : ∃ before after, ∀ steps,
    { report with steps := steps }.render .html =
      before ++ Fragments.render (stepSection steps) ++ after
  /-- The section consists of one card for every longest run of steps with the same group, in order.
  A card shows its group, and its steps as rows. -/
  cards : ∃ cut cards, IsCut report.steps cut ∧ Finds report.steps cards ∧
    List.Forall₂ (fun run card => ∃ group, IsCard group run card) cut cards
  /-- If a run has given the report away, and the session had no records when the run began, then
  there is one card for every group of the flow, in order. -/
  of_run : ∀ {W : Type} (rig : Rig W) (config : RunConfig) (store : Report.Store W) (text : String)
    (s : Stage W) (told : List Occurrence), s.session.results.steps = [] →
    ((Flow.run rig config store text).reached s).trace = s.trace ++ told →
    ∀ format rendered outcome, .persisted report format rendered outcome ∈ told →
      ∃ cards, Finds report.steps cards ∧
        List.Forall₂ (fun group card => ∃ run, IsCard group.name run card) (Flow.read text) cards

/-- Every report shows its steps in cards. -/
theorem ReportDocument.carded (report : ReportDocument) : report.Carded where
  page := exists_render_html report
  cards := exists_cards report.steps
  of_run rig config store text s told fresh htold format rendered outcome hm := by
    by_cases begins : s.session.closed = false ∧ s.session.used = false
    · obtain ⟨account, hwhere, -, h⟩ :=
        Flow.exists_account_driven rig config store text begins.1 begins.2
      have htrace := h.trace_eq
      rw [htold, List.append_cancel_left_eq] at htrace
      rw [htrace] at hm
      obtain ⟨v, hreport, rfl, -⟩ := account.of_persisted_mem hm
      obtain rfl := hwhere v hreport
      exact h.exists_cards hreport fresh
    · -- A run that is refused gives nothing away.
      obtain ⟨e, h⟩ := Flow.run_refused rig config store text begins
      rw [SessionOp.reached, h] at htold
      obtain rfl : told = [] := List.self_eq_append_right.mp htold
      cases hm

/-- A flow in which a heading is repeated is reported in two cards. -/
theorem ReportDocument.carded_repeated_heading :
    ∃ (report : ReportDocument) (cards : List Node),
      report.steps.map (·.group) = ["A", "A", "B"] ∧ Finds report.steps cards ∧
      List.Forall₂ (fun group card => ∃ run, IsCard group run card) ["A", "B"] cards := by
  let text := "# A\n1. Volte\n# B\n2. Volte\n# A\n3. Volte"
  let store : Report.Store ScriptedState := fun _ _ _ _ => pure "memory/report.html"
  obtain ⟨account, h⟩ := Flow.exists_account .scripted {} store text (s := .scripted) rfl rfl
  have htold := h.trace_eq
  generalize account.history store text .scripted _ = told at htold
  have hgroups : (Flow.read text).map (·.name) = ["A", "B"] := by decide +kernel
  have hreports : (((Flow.run .scripted {} store text).reached .scripted).trace.filterMap
      Occurrence.report?).map (fun report => report.steps.map (·.group)) = [["A", "A", "B"]] := by
    decide +kernel
  have hmem : ["A", "A", "B"] ∈ (told.filterMap Occurrence.report?).map (fun report =>
      report.steps.map (·.group)) := by
    rw [htold, List.filterMap_append, List.map_append,
      show Stage.scripted.trace.filterMap Occurrence.report? = [] from rfl] at hreports
    rw [show (told.filterMap Occurrence.report?).map _ = [["A", "A", "B"]] from hreports]
    exact List.mem_singleton_self _
  -- The rest holds of any flow with these groups.
  clear_value text
  obtain ⟨report, hreport, hsteps⟩ := List.mem_map.mp hmem
  obtain ⟨o, ho, hreport⟩ := List.mem_filterMap.mp hreport
  cases o with
  | persisted document format rendered outcome =>
    cases hreport
    obtain ⟨cards, hfinds, hcards⟩ :=
      report.carded.of_run .scripted {} store text .scripted told rfl htold format rendered outcome ho
    refine ⟨report, cards, hsteps, hfinds, ?_⟩
    rw [← hgroups]
    exact List.forall₂_map_left_iff.mpr hcards
  | _ => cases hreport

end BrowserFlow
