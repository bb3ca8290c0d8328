import BrowserFlow.Proofs.Browser.Image
import BrowserFlow.Proofs.Session.Isolation
import BrowserFlow.Proofs.Session.Passage
import BrowserFlow.Proofs.Session.Reporting

/-!
# The images of a session by their numbers

A session with a browser on a page gathers images whose numbers grow. `Stage.Numbering` relates an
earlier and a later stage by the numbers of the images that were added between them: they are among
those that the browser gave out meanwhile, in order, and all of those if no image failed. Steps keep
this relation, because a step that asks for an image either adds the one it was given or is told
that it failed, and so a report shows images with growing numbers (`Flow.run_numbered`).
-/

namespace BrowserFlow

open SessionOp

variable {P : Type}

/-- A rig with a browser on a page. -/
def Web.rig (page : Page P) (config : WebConfig) (clock : Nat → Timestamp) : Rig (WebState P) where
  browser := browser page config
  clock := clock

namespace Stage

/-- From one stage to another certain things happened, and images with these numbers were added. -/
structure Numbers (config : WebConfig) (s t : Stage (WebState P)) (told : List Occurrence)
    (numbers : List Nat) : Prop where
  /-- What happened was noted. -/
  trace : t.trace = s.trace ++ told
  /-- The images were added in order. -/
  images : t.session.screenshots =
    s.session.screenshots ++ numbers.map (Web.imagePath config)
  /-- No number is given out twice. -/
  le : s.world.shots ≤ t.world.shots
  /-- The numbers are among those that were given out, in order. -/
  sublist : numbers.Sublist (List.range' s.world.shots (t.world.shots - s.world.shots))
  /-- They are all of those if no image failed. -/
  of_unfailing : (∀ e, .called .screenshot (.error e) ∉ told) →
    numbers = List.range' s.world.shots (t.world.shots - s.world.shots)

/-- From one stage to another images were added by the numbers that the browser gave out. -/
def Numbering (config : WebConfig) (s t : Stage (WebState P)) : Prop :=
  ∃ told numbers, Numbers config s t told numbers

variable {config : WebConfig} {s t u : Stage (WebState P)}

/-- The numbers that are given out first and those that are given out next. -/
theorem range'_append_of_le {a b c : Nat} (hab : a ≤ b) (hbc : b ≤ c) :
    List.range' a (b - a) ++ List.range' b (c - b) = List.range' a (c - a) := by
  have h := List.range'_append_1 (s := a) (m := b - a) (n := c - b)
  rwa [show a + (b - a) = b by omega, show b - a + (c - b) = c - a by omega] at h

/-- Images that are added first and images that are added next add up. -/
theorem Numbering.trans (h : Numbering config s t) (h' : Numbering config t u) :
    Numbering config s u := by
  obtain ⟨told, numbers, h⟩ := h
  obtain ⟨told', numbers', h'⟩ := h'
  refine ⟨told ++ told', numbers ++ numbers', ?_, ?_, Nat.le_trans h.le h'.le, ?_, ?_⟩
  · rw [h'.trace, h.trace, List.append_assoc]
  · rw [h'.images, h.images, List.map_append, List.append_assoc]
  · rw [← range'_append_of_le h.le h'.le]
    exact h.sublist.append h'.sublist
  · intro hno
    rw [← range'_append_of_le h.le h'.le,
      h.of_unfailing fun e he => hno e (List.mem_append_left _ he),
      h'.of_unfailing fun e he => hno e (List.mem_append_right _ he)]

/-- No image is added, and no number is given out. -/
theorem Numbering.none {told : List Occurrence} (trace : t.trace = s.trace ++ told)
    (screenshots : t.session.screenshots = s.session.screenshots)
    (shots : t.world.shots = s.world.shots) : Numbering config s t := by
  refine ⟨told, [], trace, by simpa using screenshots, Nat.le_of_eq shots.symm,
    List.nil_sublist _, fun _ => ?_⟩
  rw [shots, Nat.sub_self]
  rfl

/-- An image is asked for, and added if it is taken. -/
theorem Numbering.shot {r : Except BrowserError String}
    (trace : t.trace = s.trace ++ [.called .screenshot r])
    (screenshots : t.session.screenshots = s.session.screenshots ++ r.toOption.toList)
    (h : Web.Shot config s.world r t.world) : Numbering config s t := by
  have hfailed : ∀ e : BrowserError, r = .error e →
      ¬ ∀ e, .called .screenshot (.error e) ∉ [Occurrence.called .screenshot r] := by
    rintro e rfl hno
    exact hno e List.mem_cons_self
  -- An image that failed may have used up its number, but it leaves no reference.
  cases h with
  | unprepared shots_eq =>
    exact .none trace (by simpa [Except.toOption] using screenshots) shots_eq
  | failed shots_eq =>
    exact ⟨_, [], trace, by simpa [Except.toOption] using screenshots,
      shots_eq ▸ Nat.le_succ _, List.nil_sublist _, fun hno => absurd hno (hfailed _ rfl)⟩
  | taken shots_eq =>
    have hone : List.range' s.world.shots (t.world.shots - s.world.shots) = [s.world.shots] := by
      rw [shots_eq, Nat.add_sub_cancel_left]
      rfl
    exact ⟨_, [s.world.shots], trace, screenshots, shots_eq ▸ Nat.le_succ _,
      hone.symm ▸ List.Sublist.refl _, fun _ => hone.symm⟩

end Stage

/-- The call of a plan is all that carrying it out tells of calls. -/
theorem Plan.told_of_call? {W : Type} {rig : Rig W} {s : Stage W} {plan : Plan} {c : Call}
    (h : plan.call? = some c) : plan.told rig s = [.called c (s.call rig c).1] := by
  cases plan with
  | unasked told verdict => cases h
  | asking c' verdict =>
    cases h
    rfl

/-- Only a step that takes an image asks for one. -/
theorem Step.call?_eq_screenshot_iff (config : RunConfig) (step : Step) :
    step.call? config = some .screenshot ↔
      Action.ofSentence step.sentence = .ok .screenshot ∧ config.captureScreenshots = true := by
  unfold call? plan
  cases Action.ofSentence step.sentence with
  | error e => simp [Plan.call?]
  | ok action =>
    cases action with
    | screenshot =>
      simp only [Action.plan]
      split
      case isTrue h => simp [Plan.call?, h]
      case isFalse h => simp [Plan.call?, Plan.idle, h]
    | verify assertion =>
      rcases assertion with _ | ⟨target, _ | _ | _⟩ | _ | _ <;>
        simp [Action.plan, Assertion.plan, Plan.call?]
    | extract description target =>
      cases target <;> simp [Action.plan, Plan.call?, Plan.idle]
    | scroll target => cases target <;> simp [Action.plan, Plan.order, Plan.call?]
    | _ => simp [Action.plan, Plan.order, Plan.call?]

namespace Step

variable (page : Page P) (web : WebConfig) (clock : Nat → Timestamp) (config : RunConfig)
  (group : String) (step : Step) (s : Stage (WebState P))

/-- Executing a step adds images by their numbers. -/
theorem execute_numbering :
    s.Numbering web ((step.execute (Web.rig page web clock) config group).reached s) := by
  have htrace := (step.execute_advances (Web.rig page web clock) config group s).trace
  obtain ⟨-, hworld, -⟩ := step.execute_asks (Web.rig page web clock) config group s
  have hshooting {reference : String}
      (h : step.Shoots (Web.rig page web clock) config s reference) :=
    step.execute_of_shooting (Web.rig page web clock) config group s h
  have hnone := step.execute_of_not_shooting (Web.rig page web clock) config group s
  generalize (step.execute (Web.rig page web clock) config group).reached s = t at *
  by_cases hcall : step.call? config = some .screenshot
  · -- The step takes an image, if the browser does.
    obtain ⟨action, wanted⟩ := (step.call?_eq_screenshot_iff config).mp hcall
    rw [Plan.told_of_call? hcall] at htrace
    rw [hcall, Option.elim_some] at hworld
    refine .shot htrace ?_ (hworld ▸ Web.call_screenshot page web s.world)
    cases hr : (s.call (Web.rig page web clock) .screenshot).1 with
    | ok reference => exact hshooting ⟨action, wanted, hr⟩
    | error e =>
      refine (hnone fun reference hshoots => ?_).trans (List.append_nil _).symm
      cases hr.symm.trans hshoots.taken
  · refine .none htrace (hnone fun reference hshoots => hcall ?_) ?_
    · exact (step.call?_eq_screenshot_iff config).mpr ⟨hshoots.action, hshoots.wanted⟩
    · rw [hworld]
      cases hc : step.call? config with
      | none => rfl
      | some c => exact Web.call_shots page web (fun h => hcall (h ▸ hc)) s.world

end Step

/-- Whatever happens in a session with a browser on a page adds images by their numbers. -/
theorem Web.numbering_kept (page : Page P) (web : WebConfig) (clock : Nat → Timestamp) :
    Kept (rig page web clock) (Stage.Numbering web) where
  trans := .trans
  quiet h := by
    obtain ⟨told, htrace, -⟩ := h.trace
    exact .none htrace h.screenshots (congrArg WebState.shots h.world)
  execute config group step s := step.execute_numbering page web clock config group s
  call c s hc :=
    .none (s.call_advances (rig page web clock) c).trace rfl (call_shots page web hc s.world)
  idle ms s :=
    .none (s.idle_advances (rig page web clock) ms).trace rfl (idle_shots page web ms s.world)

/-! ## What the reports show -/

namespace Occurrence

/-- The report that an occurrence is, if it was kept. -/
def kept? : Occurrence → Option ReportDocument
  | .persisted document _ _ (.ok _) => some document
  | _ => none

/-- The images that are shown by the reports that were kept. -/
def images (trace : List Occurrence) : List String :=
  (trace.filterMap kept?).flatMap (·.screenshots)

/-- What happens first and what happens next add up. -/
theorem images_append (first next : List Occurrence) :
    images (first ++ next) = images first ++ images next := by
  unfold images
  rw [List.filterMap_append, List.flatMap_append]

/-- No images are shown where no report is given away. -/
theorem images_eq_nil {told : List Occurrence} (h : ∀ document format rendered outcome,
    .persisted document format rendered outcome ∉ told) : images told = [] := by
  have hnone : told.filterMap kept? = [] := by
    rw [List.filterMap_eq_nil_iff]
    intro o ho
    cases o with
    | persisted document format rendered outcome =>
      exact absurd ho (h document format rendered outcome)
    | _ => rfl
  rw [images, hnone]
  rfl

/-- The reports of a session that were kept show images with these numbers. -/
structure Numbered (config : WebConfig) (trace : List Occurrence) (numbers : List Nat) : Prop where
  /-- The images have these numbers. -/
  images : images trace = numbers.map (Web.imagePath config)
  /-- The numbers grow. -/
  increasing : numbers.Pairwise (· < ·)
  /-- They begin with zero and leave out none, if no image failed. -/
  of_unfailing : (∀ e, .called .screenshot (.error e) ∉ trace) →
    numbers = List.range numbers.length

/-- Where no image is shown there are no numbers. -/
theorem numbered_nil {config : WebConfig} {trace : List Occurrence} (h : images trace = []) :
    Numbered config trace [] :=
  ⟨h, .nil, fun _ => rfl⟩

/-- Where the images are shown that were added since a stage without images, the numbers are
theirs. -/
theorem numbered_of_numbers {config : WebConfig} {s t : Stage (WebState P)}
    {told trace : List Occurrence} {numbers : List Nat}
    (h : Stage.Numbers config s t told numbers) (hzero : s.world.shots = 0)
    (hnone : s.session.screenshots = []) (himages : images trace = t.session.screenshots)
    (hpart : ∀ o ∈ told, o ∈ trace) : Numbered config trace numbers where
  images := by rw [himages, h.images, hnone, List.nil_append]
  increasing := List.Pairwise.sublist h.sublist List.pairwise_lt_range'
  of_unfailing hno := by
    have hall := h.of_unfailing fun e he => hno e (hpart _ he)
    rw [hzero, ← List.range_eq_range'] at hall
    rw [hall, List.length_range]

end Occurrence

/-- Opening the first page gives no report away. -/
theorem SessionOp.start_images {W : Type} (rig : Rig W) (url : String) (s : Stage W) :
    Occurrence.images ((start rig url).reached s).trace = Occurrence.images s.trace := by
  have hcall : Occurrence.images (s.call rig (.navigate url)).2.trace =
      Occurrence.images s.trace := by
    rw [(s.call_advances rig (.navigate url)).trace, Occurrence.images_append]
    exact List.append_nil _
  obtain h | h | ⟨record, -, h⟩ := start_reached rig url s <;> rw [h]
  · exact hcall
  · rw [(Stage.record_advances _ record).trace, Occurrence.images_append, hcall]
    exact List.append_nil _

namespace Flow

variable {W : Type} {rig : Rig W} {config : RunConfig} {store : Report.Store W} {text : String}

/-- The images that are shown by what a run gives away are those of its report, if that is kept. -/
theorem Account.images_history (account : Account rig config) (s : Stage W)
    (result : Except RunError Results) :
    Occurrence.images (account.history store text s result) = [] ∨
      ∃ v, account.report = some v ∧ Occurrence.images (account.history store text s result) =
        (reporting rig v).session.screenshots := by
  have htour : Occurrence.images account.tour.told = [] :=
    Occurrence.images_eq_nil account.tour.persisted_not_mem_told
  have hclosing : Occurrence.images (account.closing.elim [] (closingTold rig)) = [] :=
    Occurrence.images_eq_nil fun _ _ _ _ => by cases account.closing <;> simp [closingTold]
  have hemitted (events : List Event) : Occurrence.images (events.map .emitted) = [] :=
    Occurrence.images_eq_nil fun _ _ _ _ => by simp
  -- Only the report saves images.
  have hhistory : Occurrence.images (account.history store text s result) =
      Occurrence.images (account.report.elim [] (reportTold rig config store)) := by
    rw [history, told, ← List.singleton_append]
    simp only [Occurrence.images_append, htour, hclosing, hemitted, List.append_nil,
      List.nil_append]
    rfl
  rw [hhistory]
  cases account.report with
  | none => exact .inl rfl
  | some v =>
    rw [Option.elim_some, reportTold, Occurrence.images_append, hemitted, List.append_nil]
    cases kept rig store (reported rig config v) config.reportFormat (reporting rig v) with
    | error e => exact .inl rfl
    | ok path => exact .inr ⟨v, rfl, List.append_nil _⟩

/-- A run adds to the images that are shown those that the session has when it makes its report, or
none. -/
theorem run_images (rig : Rig W) (config : RunConfig) (store : Report.Store W) (text : String)
    (s : Stage W) :
    let t := (run rig config store text).reached s
    Occurrence.images t.trace = Occurrence.images s.trace ∨
      Occurrence.images t.trace =
        Occurrence.images s.trace ++ (summing rig config text s).session.screenshots ∧
      (summing rig config text s).trace <+: t.trace := by
  intro t
  by_cases begins : s.session.closed = false ∧ s.session.used = false
  · obtain ⟨account, hwhere, -, h⟩ := exists_account_driven rig config store text begins.1 begins.2
    have htrace : t.trace = s.trace ++ account.history store text s
        ((run rig config store text).result s) := h.trace_eq
    rw [htrace, Occurrence.images_append]
    obtain hnone | ⟨v, hreport, himages⟩ :=
      account.images_history s ((run rig config store text).result s)
    · exact .inl (by rw [hnone, List.append_nil])
    · have hprefix := h.summing_trace (hwhere v hreport ▸ hreport)
      rw [himages, hwhere v hreport, ← htrace]
      exact .inr ⟨rfl, (List.prefix_append _ _).trans hprefix⟩
  · have ht : t = s := run_reached_of_refused rig config store text begins
    exact .inl (by rw [ht])

end Flow

section Run

variable (page : Page P) (web : WebConfig) (clock : Nat → Timestamp) (config : RunConfig)
  (store : Report.Store (WebState P)) (text : String) {s t : Stage (WebState P)}

/-- The report of a run shows the images that were taken since the session was opened, by their
numbers. -/
theorem Flow.run_numbered (hopened : s.Numbering web t) (hfirst : s.trace = [])
    (hzero : s.world.shots = 0) (hnone : s.session.screenshots = [])
    (hkept : Occurrence.images t.trace = []) :
    ∃ numbers, Occurrence.Numbered web
      ((run (Web.rig page web clock) config store text).reached t).trace numbers := by
  have hrun : t.Numbering web (summing (Web.rig page web clock) config text t) :=
    (Web.numbering_kept page web clock).summing text t
  obtain ⟨told, numbers, h⟩ := hopened.trans hrun
  have htold := h.trace
  rw [hfirst, List.nil_append] at htold
  rcases run_images (Web.rig page web clock) config store text t with himages | ⟨himages, hpart⟩
  · exact ⟨[], Occurrence.numbered_nil (himages.trans hkept)⟩
  · rw [hkept, List.nil_append] at himages
    exact ⟨numbers, Occurrence.numbered_of_numbers h hzero hnone himages
      fun o ho => hpart.subset (htold ▸ ho)⟩

end Run

end BrowserFlow
