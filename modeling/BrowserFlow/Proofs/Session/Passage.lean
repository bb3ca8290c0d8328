import BrowserFlow.Proofs.Session.Life

/-!
# What is kept from stage to stage

A relation between an earlier and a later stage of a session holds over a whole run if every step
and every call keeps it, the time that passes between them, and all the rest, which is quiet: it
leaves the world and what the session has gathered from it alone. `Kept` says so of a relation, and
the theorems after it carry the relation over a tour, by induction on its executions and groups, to
and from every step on it, and up to the moment in which a run makes its report.
-/

namespace BrowserFlow

open SessionOp

variable {W : Type}

namespace Stage

/-- Between two stages nothing happens to the world, the console, the images and the texts, and the
browser is not called. -/
structure Quiet (s t : Stage W) : Prop where
  /-- The world stays as it is. -/
  world : t.world = s.world
  /-- So do the images. -/
  screenshots : t.session.screenshots = s.session.screenshots
  /-- So do the texts. -/
  extractions : t.session.extractions = s.session.extractions
  /-- So does the console. -/
  console : t.session.console = s.session.console
  /-- The browser has pushed no messages. -/
  written : t.written = s.written
  /-- What happens is no call. -/
  trace : ∃ told, t.trace = s.trace ++ told ∧ ∀ c outcome, .called c outcome ∉ told

variable (s : Stage W)

/-- It is quiet where nothing happens. -/
theorem Quiet.refl : s.Quiet s := ⟨rfl, rfl, rfl, rfl, rfl, [], (List.append_nil _).symm, by simp⟩

/-- Telling an event is quiet. -/
theorem emit_quiet (event : Event) : s.Quiet (s.emit event) :=
  ⟨rfl, rfl, rfl, rfl, rfl, [.emitted event], rfl, by simp⟩

/-- Adding a record is quiet. -/
theorem record_quiet (record : StepRecord) : s.Quiet (s.record record) :=
  ⟨rfl, rfl, rfl, rfl, rfl, [.recorded record], rfl, by simp⟩

/-- Noting a duration is quiet. -/
theorem time_quiet (start : Nat) : s.Quiet (s.time start) :=
  ⟨rfl, rfl, rfl, rfl, rfl, [], (List.append_nil _).symm, by simp⟩

/-- Noting a pause is quiet. -/
theorem paused_quiet (ms : Nat) : s.Quiet (s.note (.paused ms)) :=
  ⟨rfl, rfl, rfl, rfl, rfl, [.paused ms], rfl, by simp⟩

/-- Leaving a group is quiet. -/
theorem leave_quiet (group : Group) (executed : Nat) : s.Quiet (s.leave group executed) := by
  unfold leave
  split
  · exact s.emit_quiet _
  · exact .refl s

/-- Beginning a run is quiet. -/
theorem begun_quiet (text : String) : s.Quiet (Flow.begun s text) :=
  ⟨rfl, rfl, rfl, rfl, rfl, _, rfl, by simp⟩

end Stage

/-- A relation between an earlier and a later stage is kept by whatever happens in a session on a
rig: by steps, by the calls outside them, by the time that passes, and by what is quiet. -/
structure Kept (rig : Rig W) (R : Stage W → Stage W → Prop) : Prop where
  /-- The relation goes on. -/
  trans : ∀ {s t u}, R s t → R t u → R s u
  /-- What is quiet keeps it. -/
  quiet : ∀ {s t}, Stage.Quiet s t → R s t
  /-- Steps keep it. -/
  execute : ∀ config group (step : Step) s, R s ((step.execute rig config group).reached s)
  /-- So do calls for anything but an image. -/
  call : ∀ c s, c ≠ .screenshot → R s (s.call rig c).2
  /-- So does time that passes without a call. -/
  idle : ∀ ms s, R s (s.idle rig ms)

namespace Kept

variable {rig : Rig W} {config : RunConfig} {R : Stage W → Stage W → Prop} (kept : Kept rig R)

include kept

/-- The beginning of a step keeps the relation. -/
theorem before (x : Execution rig config) {s : Stage W} {index : Nat}
    (h : x.before = s.emit (.stepStarted x.group index x.step.sentence)) : R s x.before :=
  h ▸ kept.quiet (s.emit_quiet _)

/-- What lies between a step and what follows it keeps the relation. -/
theorem rest (config : RunConfig) (passed : Bool) (s : Stage W) :
    R s (s.rest rig config passed) := by
  unfold Stage.rest
  split
  · split
    · exact kept.idle 0 s
    · exact kept.trans (kept.idle _ s) (kept.quiet (Stage.paused_quiet _ _))
  · exact kept.idle 0 s

/-- A step that has begun keeps the relation until the run goes on. -/
theorem settled (x : Execution rig config) (index : Nat) : R x.before (x.settled index) := by
  have hstep := kept.execute config x.group x.step x.before
  rw [reached, x.executed] at hstep
  have hend := kept.trans (kept.quiet (x.after.emit_quiet (x.record.event index)))
    (kept.quiet (Stage.record_quiet _ x.record))
  exact kept.trans (kept.trans hstep hend) (kept.rest config x.record.isSuccess _)

/-- Executing steps keeps the relation. -/
theorem course {name : String} {index : Nat} {s t : Stage W} {xs : List (Execution rig config)}
    (h : Course name index s xs t) : R s t := by
  induction h with
  | done _ s => exact kept.quiet (.refl s)
  | @step index s t x xs group_eq before_eq _ ih =>
    subst group_eq
    exact kept.trans (kept.trans (kept.before x before_eq) (kept.settled x index)) ih

/-- The relation leads to every step and from there to the end. -/
theorem course_mem {name : String} {index : Nat} {s t : Stage W} {xs : List (Execution rig config)}
    (h : Course name index s xs t) : ∀ x ∈ xs, R s x.before ∧ R x.before t := by
  induction h with
  | done => simp
  | @step index s t x xs group_eq before_eq later ih =>
    subst group_eq
    have hbefore := kept.before x before_eq
    have hsettled := kept.settled x index
    refine List.forall_mem_cons.mpr ⟨⟨hbefore, kept.trans hsettled (kept.course later)⟩, ?_⟩
    exact fun y hy => ⟨kept.trans (kept.trans hbefore hsettled) (ih y hy).1, (ih y hy).2⟩

/-- Entering and leaving groups keeps the relation. -/
theorem round {s t : Stage W} {visits : List (Visit rig config)} (h : Round s visits t) :
    R s t := by
  induction h with
  | done s => exact kept.quiet (.refl s)
  | @visit s t u visit visits course _ ih =>
    have hbegin := kept.trans (kept.quiet (s.emit_quiet _)) (kept.course course)
    exact kept.trans (kept.trans hbegin (kept.quiet (t.leave_quiet _ _))) ih

/-- The relation leads to every step in the groups and from there to the end. -/
theorem round_mem {s t : Stage W} {visits : List (Visit rig config)} (h : Round s visits t) :
    ∀ visit ∈ visits, ∀ x ∈ visit.executions, R s x.before ∧ R x.before t := by
  induction h with
  | done => simp
  | @visit s t u visit visits course later ih =>
    have hbegin := kept.quiet (s.emit_quiet
      (.groupStarted visit.group.name visit.group.steps.length))
    have hleave := kept.quiet (t.leave_quiet visit.group visit.executions.length)
    refine List.forall_mem_cons.mpr ⟨fun x hx => ?_, fun v hv x hx => ?_⟩
    · obtain ⟨hto, hfrom⟩ := kept.course_mem course x hx
      exact ⟨kept.trans hbegin hto, kept.trans hfrom (kept.trans hleave (kept.round later))⟩
    · obtain ⟨hto, hfrom⟩ := ih v hv x hx
      have hcourse := kept.trans hbegin (kept.course course)
      exact ⟨kept.trans (kept.trans hcourse hleave) hto, hfrom⟩

/-- A tour keeps the relation, also if the browser is lost on it. -/
theorem leads {s t : Stage W} {tour : Tour rig config} (h : Tour.Leads s tour t) : R s t := by
  cases h with
  | whole round => exact kept.round round
  | @lost t u visits visit loss round course before_eq =>
    have hbegin : R u loss.before := before_eq ▸ kept.quiet (u.emit_quiet _)
    have hstep := kept.execute config loss.group loss.step loss.before
    rw [reached, loss.lost] at hstep
    have hvisit := kept.trans (kept.quiet (t.emit_quiet _)) (kept.course course)
    exact kept.trans (kept.trans (kept.trans (kept.round round) hvisit) hbegin) hstep

/-- On a tour the relation leads to every step and from there to the end. -/
theorem leads_mem {s t : Stage W} {tour : Tour rig config} (h : Tour.Leads s tour t) :
    ∀ visit ∈ tour.visits, ∀ x ∈ visit.executions, R s x.before ∧ R x.before t := by
  cases h with
  | whole round => exact kept.round_mem round
  | @lost t u visits visit loss round course before_eq =>
    have hvisit := kept.quiet (t.emit_quiet
      (.groupStarted visit.group.name visit.group.steps.length))
    have hbegin : R u loss.before := before_eq ▸ kept.quiet (u.emit_quiet _)
    have hstep := kept.execute config loss.group loss.step loss.before
    rw [reached, loss.lost] at hstep
    have hend := kept.trans hbegin hstep
    intro v hv x hx
    -- The executions of the visit that was cut short come behind those of the round.
    rcases List.mem_append.mp hv with hv | hv
    · obtain ⟨hto, hfrom⟩ := kept.round_mem round v hv x hx
      have hcourse := kept.trans hvisit (kept.course course)
      exact ⟨hto, kept.trans hfrom (kept.trans hcourse hend)⟩
    · rw [List.mem_singleton.mp hv] at hx
      obtain ⟨hto, hfrom⟩ := kept.course_mem course x hx
      exact ⟨kept.trans (kept.trans (kept.round round) hvisit) hto, kept.trans hfrom hend⟩

/-- On a tour on which the browser is lost the relation leads to the losing step. -/
theorem lost_before {s t : Stage W} {visits : List (Visit rig config)} {visit : Visit rig config}
    {loss : Loss rig config} (h : Tour.Leads s (.lost visits visit loss) t) : R s loss.before := by
  cases h with
  | @lost t u _ _ _ round course before_eq =>
    have hvisit := kept.trans (kept.quiet (t.emit_quiet _)) (kept.course course)
    have hbegin : R u loss.before := before_eq ▸ kept.quiet (u.emit_quiet _)
    exact kept.trans (kept.trans (kept.round round) hvisit) hbegin

/-- Opening the first page keeps the relation. -/
theorem start (url : String) (s : Stage W) : R s ((SessionOp.start rig url).reached s) := by
  have hcall := kept.call (.navigate url) s nofun
  obtain h | h | ⟨record, -, h⟩ := start_reached rig url s <;> rw [h]
  · exact kept.quiet (.refl s)
  · exact hcall
  · exact kept.trans hcall (kept.quiet (Stage.record_quiet _ record))

/-- A run keeps the relation until it makes its report. -/
theorem summing (text : String) (s : Stage W) : R s (Flow.summing rig config text s) := by
  obtain ⟨tour, -, leads, -⟩ := Group.exists_tour rig config (Flow.read text) (Flow.begun s text)
  have hgroups := kept.trans (kept.quiet (s.begun_quiet text)) (kept.leads leads)
  have hdriven : R s (Flow.driven rig config (Flow.read text) (Flow.begun s text)) :=
    kept.trans hgroups (kept.quiet (Stage.time_quiet _ _))
  unfold Flow.summing Flow.reporting
  generalize Flow.driven rig config (Flow.read text) (Flow.begun s text) = v at hdriven ⊢
  exact kept.trans (kept.trans hdriven (kept.call .title v nofun)) (kept.call .url _ nofun)

end Kept

end BrowserFlow
