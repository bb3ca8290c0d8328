import BrowserFlow.Proofs.CommandLine.Images
import BrowserFlow.Proofs.Session.Isolation
import BrowserFlow.Proofs.Session.Records

/-!
# What a preview foretells

A flow can be shown without being run. The preview lists the groups and their steps, and marks the
steps whose sentences are no actions; the others it shows with their actions. It foretells every run
of the flow, whatever the browser does and however the run is configured (`Flow.Toured.foretold`):
the run goes through the listing as far as nothing stops it. In a step that is marked it fails with
the text that is shown, without touching anything (`Step.execute_of_unreadable`), and for such a
reason it fails in no other step.
-/

namespace BrowserFlow

open CommandLine SessionOp

variable {W : Type}

/-! ## The lines of a preview -/

/-- The line that shows a step marks it as failing, with a text, in whatever colours. -/
def Step.Marked (step : Step) (text : String) : Prop :=
  ∀ coloured, Program.stepLine coloured step =
    "  " ++ Style.red.apply coloured "✗" ++ " " ++ step.sentence ++ " " ++
      Style.red.apply coloured text ++ "\n"

/-- A step is marked exactly if its sentence is no action, and the text says why. -/
theorem Step.marked_iff {step : Step} {text : String} : step.Marked text ↔
    ∃ e, Action.ofSentence step.sentence = .error e ∧ e.message = text := by
  constructor
  · intro h
    -- Without colours the line can be taken apart.
    have hline := h false
    unfold Program.stepLine at hline
    cases haction : Action.ofSentence step.sentence with
    | ok action =>
      rw [haction] at hline
      simp [← String.toList_inj, Style.apply] at hline
    | error e =>
      rw [haction] at hline
      refine ⟨e, rfl, ?_⟩
      simpa [← String.toList_inj, Style.apply] using hline
  · rintro ⟨e, haction, rfl⟩ coloured
    unfold Program.stepLine
    rw [haction]

/-- The line that shows a step says what it does, in whatever colours. -/
def Step.Listed (step : Step) (text : String) : Prop :=
  ∀ coloured, Program.stepLine coloured step =
    "  " ++ Style.green.apply coloured "✓" ++ " " ++ step.sentence ++ " " ++
      Style.faint.apply coloured ("[" ++ text ++ "]") ++ "\n"

/-- A line says what a step does exactly if its sentence is an action, and it names the action. -/
theorem Step.listed_iff {step : Step} {text : String} : step.Listed text ↔
    ∃ action, Action.ofSentence step.sentence = .ok action ∧ action.display = text := by
  constructor
  · intro h
    have hline := h false
    unfold Program.stepLine at hline
    cases haction : Action.ofSentence step.sentence with
    | ok action =>
      rw [haction] at hline
      refine ⟨action, rfl, ?_⟩
      simpa [← String.toList_inj, Style.apply] using hline
    | error e =>
      rw [haction] at hline
      simp [← String.toList_inj, Style.apply] at hline
  · rintro ⟨action, haction, rfl⟩ coloured
    unfold Program.stepLine
    rw [haction]

variable {rig : Rig W} {config : RunConfig}

/-- The lines for a group and for its steps that were executed. -/
def Visit.lines (coloured : Bool) (visit : Visit rig config) : String :=
  Style.boldBlue.apply coloured "#" ++ " " ++ Style.boldWhite.apply coloured visit.group.name ++
    "\n" ++ String.join (visit.steps.map (Program.stepLine coloured))

/-- The lines for a group whose steps were all executed are those of its preview. -/
theorem Visit.lines_eq {visit : Visit rig config} (h : visit.steps = visit.group.steps)
    (coloured : Bool) : visit.lines coloured = Program.groupLines coloured visit.group := by
  unfold lines Program.groupLines
  rw [h]

/-! ## Steps that are marked -/

namespace Step

/-- Executing a step whose sentence is no action only leaves the record of a failure that says so:
the stage stays as it is. -/
theorem execute_of_unreadable (rig : Rig W) (config : RunConfig) (group : String) {step : Step}
    {e : SentenceError} (h : Action.ofSentence step.sentence = .error e) (s : Stage W) :
    ∃ ms at_, step.execute rig config group s =
      .ok (.failure group step.sentence ms e.message at_) s := by
  have hplan : step.plan config = .unasked (fun _ => []) fun _ => .error (.sentence e) := by
    unfold plan
    rw [h]
  have hcarry : (step.plan config).carryOut rig s = .error (.sentence e) s := by
    rw [hplan]
    simp only [Plan.carryOut, Stage.tell_nil]
  refine ⟨UInt64.ofNat (s.elapsed - s.elapsed), rig.clock s.elapsed, ?_⟩
  rw [execute_apply, result, reached, hcarry]
  rfl

/-- Doing what a sentence says fails because the sentence is no action exactly if it is none. -/
theorem perform_eq_sentence_iff (rig : Rig W) (config : RunConfig) (step : Step) (s : Stage W)
    (e : SentenceError) :
    (Step.perform rig config step.sentence).result s = .error (.sentence e) ↔
      Action.ofSentence step.sentence = .error e := by
  rw [perform_eq_carryOut, Plan.carryOut_result, ← fails_iff]
  constructor
  · rintro (h | - | ⟨-, unmet⟩)
    · exact h
    · cases unmet
  · exact .sentence

end Step

/-! ## Runs -/

namespace Tour

/-- A tour that nothing stops: the browser is not lost, and the run does not stop at a failure. -/
def Unstopped (tour : Tour rig config) : Prop :=
  tour.outcome = .ok () ∧
    (config.stopOnFailure = false ∨ ∀ record ∈ tour.records, record.isSuccess = true)

/-- A tour that covers some groups enters the first ones of them. -/
theorem Covers.groups_isPrefix {tour : Tour rig config} {groups : List Group}
    (h : tour.Covers groups) : tour.visits.map (·.group) <+: groups := by
  cases tour with
  | whole visits => exact h.1 ▸ List.prefix_rfl
  | lost visits visit loss =>
    obtain ⟨⟨later, hgroups⟩, -⟩ := h
    exact ⟨later, by simp [hgroups, Tour.visits]⟩

/-- A tour that covers some groups and that nothing stops enters them all, and executes all their
steps. -/
theorem Covers.eq_of_unstopped {tour : Tour rig config} {groups : List Group}
    (h : tour.Covers groups) (unstopped : tour.Unstopped) :
    tour.visits.map (·.group) = groups ∧ ∀ visit ∈ tour.visits, visit.steps = visit.group.steps := by
  cases tour with
  | lost visits visit loss => exact nomatch unstopped.1
  | whole visits =>
    obtain ⟨hgroups, hcomplete⟩ := h
    refine ⟨hgroups, fun visit hvisit => ?_⟩
    rcases unstopped.2 with going | passing
    · exact (hcomplete visit hvisit).all_of_not_stopping going
    · refine (hcomplete visit hvisit).all_of_passing fun x hx => passing x.record ?_
      exact List.mem_flatMap.mpr ⟨visit, hvisit, List.mem_map_of_mem hx⟩

end Tour

namespace Flow

/-- The preview of a flow foretells a tour. -/
structure Foretold (text : String) (tour : Tour rig config) : Prop where
  /-- The groups that are entered are the first ones that are listed. -/
  groups : tour.visits.map (·.group) <+: Flow.read text
  /-- The steps of a group that are executed are the first ones that are listed. -/
  steps : ∀ visit ∈ tour.visits, visit.steps <+: visit.group.steps
  /-- If nothing stops the run, it enters all groups that are listed and executes all their steps. -/
  whole : tour.Unstopped → tour.visits.map (·.group) = Flow.read text ∧
    ∀ visit ∈ tour.visits, visit.steps = visit.group.steps
  /-- Then its groups and steps give the whole preview. -/
  lines : tour.Unstopped → ∀ coloured,
    Program.preview coloured text = String.join (tour.visits.map (Visit.lines coloured))
  /-- A step that is not marked is listed with the action that it performs. -/
  of_not_marked : ∀ visit ∈ tour.visits, ∀ x ∈ visit.executions,
    (∀ shown, ¬ x.step.Marked shown) → ∃ action : Action, x.step.Listed action.display ∧
      Step.perform rig config x.step.sentence = action.perform rig config
  /-- A step that is marked leaves everything as it is, and the record of a failure with the text
  that is shown. -/
  of_marked : ∀ visit ∈ tour.visits, ∀ x ∈ visit.executions, ∀ shown, x.step.Marked shown →
    x.after = x.before ∧ x.record.status = .failure ∧ x.record.error = some shown
  /-- A step that is marked does not end the run. -/
  not_marked_of_lost : ∀ visits visit loss, tour = .lost visits visit loss →
    ∀ shown, ¬ loss.step.Marked shown
  /-- A step that fails because its sentence is no action is marked with the text of its record. -/
  marked : ∀ visit ∈ tour.visits, ∀ x ∈ visit.executions, ∀ e,
    (Step.perform rig config x.step.sentence).result x.before = .error (.sentence e) →
    x.record.error = some e.message ∧ x.step.Marked e.message

/-- A tour through a flow is foretold by the flow's preview. -/
theorem Toured.foretold {text : String} {s : Stage W} {tour : Tour rig config}
    (h : Toured text s tour) : Foretold text tour := by
  -- A sentence that cannot be read fails without the browser, whatever the stage is.
  have hmarked (x : Execution rig config) {e : SentenceError}
      (haction : Action.ofSentence x.step.sentence = .error e) :
      x.after = x.before ∧ x.record.status = .failure ∧ x.record.error = some e.message := by
    obtain ⟨ms, at_, hexecute⟩ :=
      Step.execute_of_unreadable rig config x.group haction x.before
    obtain ⟨hrecord, hafter⟩ := EStateM.Result.ok.inj (x.executed.symm.trans hexecute)
    rw [hrecord, hafter]
    exact ⟨rfl, rfl, rfl⟩
  refine ⟨h.covers.groups_isPrefix, fun visit _ => visit.steps_isPrefix, h.covers.eq_of_unstopped,
    fun unstopped coloured => ?_, fun visit _ x _ unmarked => ?_,
    fun visit _ x _ shown hshown => ?_, ?_, fun visit _ x _ e hperform => ?_⟩
  · obtain ⟨hgroups, hsteps⟩ := h.covers.eq_of_unstopped unstopped
    have hlines : tour.visits.map (Visit.lines coloured) =
        (Flow.read text).map (Program.groupLines coloured) := by
      rw [← hgroups, List.map_map]
      exact List.map_congr_left fun visit hvisit => Visit.lines_eq (hsteps visit hvisit) coloured
    rw [hlines]
    rfl
  · cases haction : Action.ofSentence x.step.sentence with
    | error e => exact absurd (Step.marked_iff.mpr ⟨e, haction, rfl⟩) (unmarked e.message)
    | ok action =>
      refine ⟨action, Step.listed_iff.mpr ⟨action, haction, rfl⟩, ?_⟩
      unfold Step.perform
      rw [haction]
  · obtain ⟨e, haction, rfl⟩ := Step.marked_iff.mp hshown
    exact hmarked x haction
  · rintro visits visit loss rfl shown hshown
    obtain ⟨e, haction, rfl⟩ := Step.marked_iff.mp hshown
    obtain ⟨ms, at_, hexecute⟩ :=
      Step.execute_of_unreadable rig config loss.group haction loss.before
    -- A step that cannot be read leaves a record, so it is not the step at which the session is
    -- lost.
    cases loss.lost.symm.trans hexecute
  · have haction := (Step.perform_eq_sentence_iff rig config x.step x.before e).mp hperform
    exact ⟨(hmarked x haction).2.2, Step.marked_iff.mpr ⟨e, haction, rfl⟩⟩

end Flow

namespace CommandLine.Program

/-- Showing a flow file prints the preview of its flow, whose every run it foretells: the run makes
a tour that leaves its records, and the preview foretells the tour. -/
theorem run_foretells {P : Type} (surroundings : Surroundings P) {arguments : List String}
    {path : Path} {files : Files} {text : String}
    (hread : Request.read arguments = .ok (.parse path))
    (htext : FlowFiles.read files path = .ok text) (page : P) :
    let shown := preview surroundings.environment.asksForColour text
    run surroundings arguments { page, files } =
        ({ code := 0, stdout := shown }, { page, files, printed := [.told shown] }) ∧
      ∀ {W : Type} (rig : Rig W) (config : RunConfig) (store : Report.Store W) (s : Stage W),
        s.session.closed = false → s.session.used = false →
        ∃ tour : Tour rig config, Flow.Records store text s tour ∧ Flow.Foretold text tour := by
  intro shown
  refine ⟨?_, fun rig config store s isOpen unused => ?_⟩
  · have hshow : showFlow surroundings.environment.asksForColour path { page, files } =
        .ok () { page, files, printed := [.told shown] } := by
      unfold showFlow
      rw [bind_apply, get_apply]
      dsimp only
      rw [htext]
      rfl
    have hfulfil : fulfil surroundings (.parse path) { page, files } =
        .ok 0 { page, files, printed := [.told shown] } := by
      dsimp only [fulfil]
      rw [bind_apply, hshow]
      rfl
    unfold run
    rw [hread]
    dsimp only
    rw [hfulfil]
    have hfinished : Progress.finished surroundings { page, files, printed := [.told shown] } =
        [.told shown] := rfl
    dsimp only
    rw [hfinished]
    simp [String.join, Print.text]
  · obtain ⟨account, h⟩ := Flow.exists_account rig config store text isOpen unused
    exact ⟨account.tour, h.records, h.toToured.foretold⟩

/-- A file with a flow of two groups, where one sentence is no action. -/
def sampleFlow : Files where
  entries := [(["a.flow"], .file (.text Flow.sample))]
  working := []

example : preview false Flow.sample =
    "# A\n  ✓ Volte [go back]\n  ✗ Nada Unrecognized command: Nada\n# B\n" ++
      "  ✓ Capture screenshot [screenshot]\n" := by
  decide +kernel

/-- The preview of the flow in the file foretells its runs. -/
theorem run_foretells_sample :
    Request.read ["parse", "a.flow"] = .ok (.parse "a.flow") ∧
      FlowFiles.read sampleFlow "a.flow" = .ok Flow.sample ∧
      let shown := preview false Flow.sample
      run Surroundings.scripted ["parse", "a.flow"] { page := ⟨{}, {}, []⟩, files := sampleFlow } =
          ({ code := 0, stdout := shown },
            { page := ⟨{}, {}, []⟩, files := sampleFlow, printed := [.told shown] }) ∧
        ∀ {W : Type} (rig : Rig W) (config : RunConfig) (store : Report.Store W) (s : Stage W),
          s.session.closed = false → s.session.used = false →
          ∃ tour : Tour rig config,
            Flow.Records store Flow.sample s tour ∧ Flow.Foretold Flow.sample tour := by
  have hread : Request.read ["parse", "a.flow"] = .ok (.parse "a.flow") := rfl
  have htext : FlowFiles.read sampleFlow "a.flow" = .ok Flow.sample := rfl
  exact ⟨hread, htext, run_foretells Surroundings.scripted hread htext _⟩

end CommandLine.Program

end BrowserFlow
