import BrowserFlow.CommandLine.Program
import BrowserFlow.Proofs.Session.Operation

/-!
# The sessions of the program

The program notes every session that it holds. `Program.Adds` says of a part of the program that it
notes sessions of one kind only, whether it fails or not, and has one rule for each way in which
parts are put together. `Program.Held` is the kind that the program holds: a session for one flow
file, with a browser that nobody has used before. By induction on the flow files, all sessions of a
run of the program are of this kind, with the same options and configuration (`Program.run_held`).
-/

namespace BrowserFlow.CommandLine.Program

open SessionOp (reached)

variable {P α β : Type}

/-! ## What parts of the program note -/

/-- How far the program has come after a part of it, whether that fails or not. -/
def progressed (op : ProgramOp P α) (progress : Progress P) : Progress P :=
  match op progress with
  | .ok _ after => after
  | .error _ after => after

/-- A sequence goes on where its first part leads, and ends there if that fails. -/
theorem bind_apply (op : ProgramOp P α) (next : α → ProgramOp P β) (progress : Progress P) :
    (op >>= next) progress = match op progress with
      | .ok a after => next a after
      | .error e after => .error e after := by
  show EStateM.bind op next progress = _
  unfold EStateM.bind
  cases op progress <;> rfl

/-- Looking at the progress changes nothing. -/
theorem get_apply (progress : Progress P) :
    (get : ProgramOp P (Progress P)) progress = .ok progress progress := rfl

/-- What is the case goes on. -/
theorem decided_ok (a : α) (progress : Progress P) :
    (decided (.ok a) : ProgramOp P α) progress = .ok a progress := rfl

/-- A part of the program notes sessions of this kind only, whether it fails or not. -/
def Adds (D : Drive → Prop) (op : ProgramOp P α) (progress : Progress P) : Prop :=
  ∃ new, (progressed op progress).drives = progress.drives ++ new ∧ ∀ drive ∈ new, D drive

namespace Adds

variable {D : Drive → Prop} {op : ProgramOp P α} {progress : Progress P}

/-- A part without sessions notes none. -/
theorem none (h : (progressed op progress).drives = progress.drives) : Adds D op progress :=
  ⟨[], by rw [h, List.append_nil], by simp⟩

/-- Returning a value notes nothing. -/
theorem pure (a : α) : Adds D (Pure.pure a) progress := none rfl

/-- Printing notes nothing. -/
theorem print (text : String) : Adds D (Program.print text) progress := none rfl

/-- Looking at the progress notes nothing. -/
theorem get : Adds D MonadState.get progress := none rfl

/-- Going on or not notes nothing. -/
theorem decided (result : Except ErrorChain α) : Adds D (Program.decided result) progress := by
  cases result <;> exact none rfl

/-- The listener's part notes nothing. -/
theorem listen (surroundings : Surroundings P) : Adds D (Program.listen surroundings) progress :=
  none rfl

/-- Starting a browser notes nothing. -/
theorem start (op : EStateM ErrorChain (Web.Starting P) α) :
    Adds D (Program.start op) progress := by
  refine none ?_
  unfold progressed Program.start
  dsimp only
  cases op { page := progress.page } <;> rfl

/-- A sequence notes what its parts note. -/
theorem bind {next : α → ProgramOp P β} (h : Adds D op progress)
    (hnext : ∀ a after, Adds D (next a) after) : Adds D (op >>= next) progress := by
  obtain ⟨new, hnew, hkind⟩ := h
  unfold Adds progressed
  unfold progressed at hnew
  rw [bind_apply]
  -- What the second part notes comes behind what the first one noted; an error ends the notes.
  cases hop : op progress with
  | error e after =>
    rw [hop] at hnew
    exact ⟨new, hnew, hkind⟩
  | ok a after =>
    rw [hop] at hnew
    obtain ⟨more, hmore, hkind'⟩ := hnext a after
    refine ⟨new ++ more, ?_, fun drive hdrive => ?_⟩
    · rw [← List.append_assoc, ← hnew]
      exact hmore
    · rcases List.mem_append.mp hdrive with h | h
      · exact hkind drive h
      · exact hkind' drive h

/-- Holding a session notes it with what happened in it. -/
theorem hold {surroundings : Surroundings P} {web : WebConfig} {file : Path}
    {op : Rig (WebState P) → SessionOp (WebState P) RunError α}
    (h : ∀ clock name page files,
      let rig : Rig (WebState P) := { browser := Web.browser surroundings.page web, clock }
      D ⟨file, ((op rig).reached (Stage.first rig name { page, files })).trace⟩) :
    Adds D (Program.hold surroundings web file op) progress := by
  have hD := h (fun ms => surroundings.clock (progress.elapsed + ms))
    (surroundings.names progress.drives.length) progress.page progress.files
  refine ⟨[_], ?_, fun drive hdrive => List.mem_singleton.mp hdrive ▸ hD⟩
  unfold progressed Program.hold reached
  dsimp only
  cases op _ _ <;> rfl

end Adds

/-! ## What the program holds sessions for -/

/-- What a session is held for: the first page is opened, if there is one, and the flow is run. -/
def visit (options : RunOptions) (config : RunConfig) (text : String) (rig : Rig (WebState P)) :
    SessionOp (WebState P) RunError Results := do
  match options.url with
  | some url => SessionOp.start rig url
  | none => pure ()
  Flow.run rig config (Report.Store.directory config.reportDir) text

/-- What a session was held for that the program notes: a flow, on a new browser. -/
def Held (surroundings : Surroundings P) (options : RunOptions) (config : RunConfig)
    (drive : Drive) : Prop :=
  ∃ text clock name page files,
    let web := webConfigFor options config surroundings.environment.browser
    let rig : Rig (WebState P) := { browser := Web.browser surroundings.page web, clock }
    drive.trace =
      ((visit options config text rig).reached (Stage.first rig name { page, files })).trace

variable (surroundings : Surroundings P) (options : RunOptions) (config : RunConfig)

/-- Running a flow file notes its session. -/
theorem runFile_adds (file : Path) (progress : Progress P) :
    Adds (Held surroundings options config) (runFile surroundings options config file)
      progress := by
  refine (Adds.print _).bind fun _ _ => (Adds.listen _).bind fun _ _ => Adds.get.bind fun _ _ => ?_
  refine (Adds.decided _).bind fun text _ => (Adds.start _).bind fun _ _ => ?_
  refine Adds.bind (Adds.hold fun clock name page files => ?_) fun _ _ => .pure _
  exact ⟨text, clock, name, page, files, rfl⟩

/-- Running flow files notes their sessions. -/
theorem runFiles_adds (files : List Path) (progress : Progress P) :
    Adds (Held surroundings options config) (runFiles surroundings options config files)
      progress := by
  induction files generalizing progress with
  | nil => exact .pure 0
  | cons file files ih =>
    refine (runFile_adds surroundings options config file progress).bind fun _ after => ?_
    exact (ih after).bind fun _ _ => .pure _

/-- Telling what is going to be run notes nothing. -/
theorem announce_adds {D : Drive → Prop} (coloured : Bool) (files : List Path)
    (progress : Progress P) : Adds D (announce coloured options config files) progress := by
  refine (Adds.print _).bind fun _ _ => ?_
  cases options.url with
  | none => exact .print _
  | some url => exact (Adds.print _).bind fun _ _ => .print _

/-- Running flows begins with the configuration and then the flow files, and fails at once where
one of the two is missing. -/
theorem runFlows_apply (progress : Progress P) :
    runFlows surroundings options progress =
      match configFor options progress.files, filesFor options progress.files with
      | .error e, _ => .error e progress
      | .ok _, .error e => .error e progress
      | .ok config, .ok files => (do
          announce surroundings.environment.asksForColour options config files
          runFiles surroundings options config files) progress := by
  unfold runFlows
  rw [bind_apply, get_apply]
  dsimp only
  rw [bind_apply]
  cases configFor options progress.files with
  | error e => rfl
  | ok config =>
    rw [decided_ok]
    dsimp only
    rw [bind_apply, get_apply]
    dsimp only
    rw [bind_apply]
    cases filesFor options progress.files <;> rfl

/-- Running flows notes sessions for flow files, all with one configuration. -/
theorem runFlows_adds (progress : Progress P) :
    ∃ config, Adds (Held surroundings options config) (runFlows surroundings options)
      progress := by
  have happly := runFlows_apply surroundings options progress
  cases hconfig : configFor options progress.files with
  | error e =>
    rw [hconfig] at happly
    exact ⟨{}, .none (by rw [progressed, happly])⟩
  | ok config =>
    refine ⟨config, ?_⟩
    cases hfiles : filesFor options progress.files with
    | error e =>
      rw [hconfig, hfiles] at happly
      exact .none (by rw [progressed, happly])
    | ok files =>
      rw [hconfig, hfiles] at happly
      unfold Adds progressed
      rw [happly]
      exact (announce_adds options config _ files progress).bind fun _ _ =>
        runFiles_adds surroundings options config files _

/-- Doing what is asked notes sessions for flow files, all with the same options and
configuration. -/
theorem fulfil_adds (request : Request) (progress : Progress P) :
    ∃ options config, Adds (Held surroundings options config) (fulfil surroundings request)
      progress := by
  cases request with
  | run options =>
    obtain ⟨config, h⟩ := runFlows_adds surroundings options progress
    exact ⟨options, config, h.bind fun _ _ => .pure _⟩
  | parse path =>
    refine ⟨{}, {}, Adds.bind ?_ fun _ _ => .pure _⟩
    exact Adds.get.bind fun _ _ => (Adds.decided _).bind fun _ _ => .print _
  | help topic => exact ⟨{}, {}, (Adds.print _).bind fun _ _ => .pure _⟩
  | version => exact ⟨{}, {}, (Adds.print _).bind fun _ _ => .pure _⟩

/-- All sessions of a run of the program are held for flow files on new browsers, with the same
options and configuration. -/
theorem run_held (arguments : List String) (page : P) (files : Files) :
    ∃ options config, ∀ drive ∈ (run surroundings arguments { page, files }).2.drives,
      Held surroundings options config drive := by
  unfold run
  cases Request.read arguments with
  | error refusal => exact ⟨{}, {}, by simp⟩
  | ok request =>
    obtain ⟨options, config, new, hnew, hkind⟩ :=
      fulfil_adds surroundings request { page, files }
    rw [List.nil_append] at hnew
    refine ⟨options, config, fun drive hdrive => hkind drive ?_⟩
    rw [← hnew, progressed]
    dsimp only at hdrive ⊢
    cases h : fulfil surroundings request { page, files } <;> rw [h] at hdrive <;> exact hdrive

/-- A run of the program that is to run flows does that. If it ends without an error, the listener
comes to its end; otherwise the error is told. -/
theorem run_apply {arguments : List String} {options : RunOptions}
    (hread : Request.read arguments = .ok (.run options)) (p : Progress P) :
    run surroundings arguments p = match runFlows surroundings options p with
      | .ok n q => ({ code := if n = 0 then 0 else 1
                      stdout := String.join ((q.finished surroundings).map Print.text) }, q)
      | .error e q => ({ code := 1
                         stdout := String.join (q.printed.map Print.text)
                         stderr := "Error: " ++ e.report ++ "\n" }, q) := by
  -- The exit code comes from the number of failures.
  have hfulfil : fulfil surroundings (.run options) p =
      (do
        let failures ← runFlows surroundings options
        return if failures = 0 then 0 else 1) p := rfl
  rw [bind_apply] at hfulfil
  unfold run
  rw [hread]
  dsimp only
  rw [hfulfil]
  cases runFlows surroundings options p <;> rfl

/-- It leads where running the flows leads, and its exit code is zero exactly if that leaves no
failures to go on with. -/
theorem run_of_read {arguments : List String} {options : RunOptions}
    (hread : Request.read arguments = .ok (.run options)) (p : Progress P) :
    (run surroundings arguments p).2 = progressed (runFlows surroundings options) p ∧
      (run surroundings arguments p).1.code =
        match runFlows surroundings options p with
        | .ok n _ => if n = 0 then 0 else 1
        | .error _ _ => 1 := by
  rw [run_apply surroundings hread, progressed]
  cases runFlows surroundings options p <;> exact ⟨rfl, rfl⟩

/-- A run of the program that finds flow files leads where running them leads. -/
theorem run_progressed {arguments : List String} {page : P} {files : Files} {paths : List Path}
    {options : RunOptions} {config : RunConfig}
    (hread : Request.read arguments = .ok (.run options))
    (hconfig : configFor options files = .ok config)
    (hfiles : filesFor options files = .ok paths) :
    (run surroundings arguments { page, files }).2 = progressed (do
      announce surroundings.environment.asksForColour options config paths
      runFiles surroundings options config paths) { page, files } := by
  have hflows := runFlows_apply surroundings options { page, files }
  rw [hconfig, hfiles] at hflows
  rw [(run_of_read surroundings hread _).1, progressed, hflows]
  rfl

end BrowserFlow.CommandLine.Program
