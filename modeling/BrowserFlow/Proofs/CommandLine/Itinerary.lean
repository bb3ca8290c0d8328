import BrowserFlow.Proofs.CommandLine.Images
import BrowserFlow.Proofs.Session.Tally

/-!
# The itinerary of the program

What a run of the program does with its flow files, as data. The fate of a flow file says how far
the program came with it; `Meets` says which progress makes a file meet its fate, and leaves out
nothing that the program does with the file. An `Itinerary` puts the files one after another: a file
whose run ended well is followed by the next one, a file that ended in an error by none.

`Program.run_itinerary` says that every run of the program makes an itinerary through the flow files
that were found, in their order, and reads the exit code off the fates: it is zero exactly if the
configuration could be loaded, there were flow files, and every one of them was run without a
failure. The proof follows the program: one file (`runFile_meets`), the files by induction
(`runFiles_itinerary`), and what surrounds them (`runFlows_cases`).
-/

namespace BrowserFlow

variable {P : Type}

/-! ## Starting a browser -/

namespace Web

/-- What the library is asked when a browser is started, in this order. -/
def launchCalls (config : WebConfig) (environment : BrowserEnvironment) : List PageCall :=
  [.initialize_,
    .launch config.engine config.headless
      (if config.engine == .chromium then environment.executable else none),
    .newContext, .newPage, .setViewportSize config.width.toNat config.height.toNat]

/-- What is said if the library cannot do one of these things. -/
def launchError (config : WebConfig) (c : PageCall) (message : String) : ErrorChain :=
  match c with
  | .initialize_ => (ErrorChain.ofText message).context "Failed to initialize Playwright"
  | .launch _ _ _ =>
    (ErrorChain.ofText message).context ("Failed to launch " ++ config.engine.display)
  | _ => .ofText message

/-- The start of a browser goes on when the library has been asked something. -/
def Starting.after (page : Page P) (c : PageCall) (start : Starting P) : Starting P where
  page := (page.call c start.page).2
  elapsed := start.elapsed + (page.call c start.page).1.elapsed

/-- The library is asked one thing after another, up to the first one that fails, if there is such a
one, which then is the failure. -/
inductive Prepares (page : Page P) :
    Starting P → List PageCall → Option (PageCall × String) → Starting P → Prop
  /-- There is nothing left to be asked. -/
  | done (start : Starting P) : Prepares page start [] none start
  /-- What is asked is done, and the rest is asked. -/
  | next {start t : Starting P} {c : PageCall} {answer : c.Answer} {calls : List PageCall}
    {failure : Option (PageCall × String)}
    (passed : (page.call c start.page).1.outcome = .ok answer)
    (later : Prepares page (start.after page c) calls failure t) :
    Prepares page start (c :: calls) failure t
  /-- What is asked fails, and nothing else is asked. -/
  | failed {start : Starting P} {c : PageCall} {message : String} (calls : List PageCall)
    (failed : (page.call c start.page).1.outcome = .error message) :
    Prepares page start (c :: calls) (some (c, message)) (start.after page c)

/-- What the start of a browser comes to if there is this failure, or none. -/
def launched (config : WebConfig) (failure : Option (PageCall × String)) (t : Starting P) :
    EStateM.Result ErrorChain (Starting P) Unit :=
  match failure with
  | none => .ok () t
  | some (c, message) => .error (launchError config c message) t

/-- Asking for something comes first, and the rest comes behind it if that is done. -/
theorem Prepares.bind {page : Page P} {config : WebConfig} {c : PageCall} {summary : Option String}
    {calls : List PageCall} {rest : c.Answer → EStateM ErrorChain (Starting P) Unit}
    (said : ∀ message, (match summary with
      | some summary => (ErrorChain.ofText message).context summary
      | none => .ofText message) = launchError config c message)
    (later : ∀ answer start, ∃ failure t, Prepares page start calls failure t ∧
      rest answer start = launched config failure t) (start : Starting P) :
    ∃ failure t, Prepares page start (c :: calls) failure t ∧
      (prepare page c summary >>= rest) start = launched config failure t := by
  have hbind : (prepare page c summary >>= rest) start =
      EStateM.bind (prepare page c summary) rest start := rfl
  simp only [EStateM.bind, prepare] at hbind
  rw [hbind]
  cases houtcome : (page.call c start.page).1.outcome with
  | error message =>
    exact ⟨_, _, .failed calls houtcome, congrArg (EStateM.Result.error · _) (said message)⟩
  | ok answer =>
    obtain ⟨failure, t, hlater, hrest⟩ := later answer (start.after page c)
    exact ⟨failure, t, .next houtcome hlater, hrest⟩

/-- To start a browser the library is asked for what belongs to that, and the first failure is
told. -/
theorem launch_prepares (page : Page P) (config : WebConfig) (environment : BrowserEnvironment)
    (start : Starting P) :
    ∃ failure t, Prepares page start (launchCalls config environment) failure t ∧
      launch page config environment start = launched config failure t := by
  -- The last call is followed by nothing.
  have hlast : launch page config environment = (do
      prepare page .initialize_ (some "Failed to initialize Playwright")
      prepare page (.launch config.engine config.headless
        (if config.engine == .chromium then environment.executable else none))
        (some ("Failed to launch " ++ config.engine.display))
      prepare page .newContext none
      prepare page .newPage none
      prepare page (.setViewportSize config.width.toNat config.height.toNat) none
      pure ()) := by
    rw [launch, bind_pure_unit]
  rw [hlast]
  refine Prepares.bind (fun _ => rfl) (fun _ => ?_) start
  refine Prepares.bind (fun _ => rfl) fun _ => ?_
  refine Prepares.bind (fun _ => rfl) fun _ => ?_
  refine Prepares.bind (fun _ => rfl) fun _ => ?_
  refine Prepares.bind (fun _ => rfl) fun _ t => ?_
  exact ⟨none, t, .done t, rfl⟩

end Web

namespace CommandLine

/-! ## Fates -/

/-- How far the program comes with a flow file. -/
inductive Fate
  /-- The file cannot be read. -/
  | unread (error : ErrorChain)
  /-- The file has been read, and no browser can be started. -/
  | unstarted (error : ErrorChain)
  /-- There is a browser, and it is lost when the first page is to be opened. -/
  | unopened (reason : String)
  /-- The flow is run, and the run ends in an error. -/
  | failed (error : RunError)
  /-- The flow is run, and the run returns results. -/
  | ran (results : Results)

namespace Fate

/-- What the program has to go on with: an error, or a number of failures in 32 bits. -/
def outcome : Fate → Except ErrorChain UInt32
  | .unread error | .unstarted error => .error error
  | .unopened reason =>
    .error (RunError.sessionLost (BrowserError.sessionLost reason).message).chain
  | .failed error => .error error.chain
  | .ran results => .ok results.failureCount

/-- The records that a file leaves that ended well. -/
def records : Fate → List StepRecord
  | .ran results => results.steps
  | _ => []

/-- How many failures are recorded in the results of files that ended well. -/
def failures (fates : List Fate) : Nat :=
  (fates.flatMap records).countP (·.status == .failure)

/-- The run returned results, and none of their records is a failure. -/
def Flawless (fate : Fate) : Prop :=
  ∃ results, fate = .ran results ∧ ∀ record ∈ results.steps, record.status ≠ .failure

/-- What files with these fates leave to go on with. -/
def total : List Fate → Except ErrorChain UInt32
  | [] => .ok 0
  | fate :: fates => do return (← fate.outcome) + (← total fates)

/-- The counts of results are those of their records. -/
def Tallied : Fate → Prop
  | .ran results => results.Tallies
  | _ => True

/-- Only a run that returned results leaves a number to go on with. -/
theorem exists_ran_of_outcome_eq_ok {fate : Fate} {n : UInt32} (h : fate.outcome = .ok n) :
    ∃ results, fate = .ran results := by
  cases fate with
  | ran results => exact ⟨results, rfl⟩
  | _ => cases h

/-- A file is flawless exactly if its run returned results and it has left no record of a failure. -/
theorem flawless_iff (fate : Fate) : fate.Flawless ↔
    (∃ results, fate = .ran results) ∧ ∀ record ∈ fate.records, record.status ≠ .failure := by
  constructor
  · rintro ⟨results, rfl, h⟩
    exact ⟨⟨results, rfl⟩, h⟩
  · rintro ⟨⟨results, rfl⟩, h⟩
    exact ⟨results, rfl, h⟩

/-- There are no failures exactly if no file has left a record of one. -/
theorem failures_eq_zero_iff (fates : List Fate) : failures fates = 0 ↔
    ∀ fate ∈ fates, ∀ record ∈ fate.records, record.status ≠ .failure := by
  unfold failures
  simp only [List.countP_eq_zero, List.mem_flatMap, beq_iff_eq, forall_exists_index, and_imp]
  exact ⟨fun h fate hfate record hrecord => h record fate hfate hrecord,
    fun h record fate hfate hrecord => h fate hfate record hrecord⟩

/-- Either all files ended well and their failures are added up in 32 bits, or one of them did not,
and there is an error. -/
theorem total_cases (fates : List Fate) (tallied : ∀ fate ∈ fates, fate.Tallied) :
    ((∀ fate ∈ fates, ∃ results, fate = .ran results) ∧
        total fates = .ok (.ofNat (failures fates))) ∨
      (∃ fate ∈ fates, ¬ ∃ results, fate = .ran results) ∧ ∃ e, total fates = .error e := by
  induction fates with
  | nil => exact .inl ⟨by simp, rfl⟩
  | cons fate fates ih =>
    obtain ⟨htallied, hlater⟩ := List.forall_mem_cons.mp tallied
    rw [total]
    cases houtcome : fate.outcome with
    | error e =>
      have hran : ¬ ∃ results, fate = .ran results := by
        rintro ⟨results, rfl⟩
        cases houtcome
      exact .inr ⟨⟨fate, List.mem_cons_self, hran⟩, e, rfl⟩
    | ok n =>
      obtain ⟨results, rfl⟩ := exists_ran_of_outcome_eq_ok houtcome
      -- What is counted are the failures among the records.
      have hn : n = .ofNat (results.steps.countP (·.status == .failure)) := by
        rw [← Except.ok.inj houtcome]
        exact htallied.failures
      rcases ih hlater with ⟨hran, hsum⟩ | ⟨⟨other, hmem, hran⟩, e, hsum⟩
      · refine .inl ⟨List.forall_mem_cons.mpr ⟨⟨results, rfl⟩, hran⟩, ?_⟩
        have hfailures : failures (.ran results :: fates) =
            results.steps.countP (·.status == .failure) + failures fates := by
          unfold failures
          rw [List.flatMap_cons, List.countP_append]
          rfl
        rw [hsum, hn, hfailures, UInt32.ofNat_add]
        rfl
      · exact .inr ⟨⟨other, List.mem_cons_of_mem _ hmem, hran⟩, e, by rw [hsum]; rfl⟩

/-- As long as 32 bits hold the failures, there are none exactly if all files are flawless. -/
theorem total_eq_zero_iff {fates : List Fate} (tallied : ∀ fate ∈ fates, fate.Tallied)
    (few : failures fates < UInt32.size) :
    total fates = .ok 0 ↔ ∀ fate ∈ fates, fate.Flawless := by
  have hflawless : (∀ fate ∈ fates, fate.Flawless) ↔
      (∀ fate ∈ fates, ∃ results, fate = .ran results) ∧ failures fates = 0 := by
    simp only [flawless_iff, forall₂_and, failures_eq_zero_iff]
  rw [hflawless]
  rcases total_cases fates tallied with ⟨hran, hsum⟩ | ⟨⟨fate, hmem, hran⟩, e, hsum⟩
  · have hzero : UInt32.ofNat (failures fates) = 0 ↔ failures fates = 0 := by
      rw [← UInt32.toNat_inj, UInt32.toNat_ofNat_of_lt' few, UInt32.toNat_zero]
    rw [hsum, Except.ok.injEq, hzero, and_iff_right hran]
  · rw [hsum]
    exact iff_of_false nofun fun h => hran (h.1 fate hmem)

end Fate

/-! ## What happens to a flow file -/

section Session

variable {W : Type}

/-- The first page is opened before a flow is run, if there is one to be opened, and the browser is
not lost in that. It is recorded as a step that passed or failed. -/
inductive Opens (rig : Rig W) : Option String → Stage W → Stage W → Prop
  /-- No page is to be opened. -/
  | nothing (s : Stage W) : Opens rig none s s
  /-- The browser is asked for the page, and its answer is recorded. -/
  | page {url : String} {s : Stage W} {record : StepRecord}
    (kept : ∀ reason, (s.call rig (.navigate url)).1 ≠ .error (.sessionLost reason))
    (group_eq : record.group = Flow.untitled)
    (description_eq : record.description = "Navegou para " ++ url)
    (failure_iff : record.status = .failure ↔ ∃ e, (s.call rig (.navigate url)).1 = .error e)
    (sound : record.Sound) :
    Opens rig (some url) s ((s.call rig (.navigate url)).2.record record)

/-- A session meets its fate: the first page is opened, and then the flow is run, all records being
among the results. If the browser is lost at the first page, nothing else is done. -/
inductive Visits (rig : Rig W) (config : RunConfig) (store : Report.Store W) (url : Option String)
    (text : String) (s : Stage W) : Fate → Stage W → Prop
  /-- The browser is lost at the first page. -/
  | unopened {page reason : String} (url_eq : url = some page)
    (lost : (s.call rig (.navigate page)).1 = .error (.sessionLost reason)) :
    Visits rig config store url text s (.unopened reason) (s.call rig (.navigate page)).2
  /-- The run ends in an error. -/
  | failed {u t : Stage W} {e : RunError} (opened : Opens rig url s u)
    (run_eq : Flow.run rig config store text u = .error e t) :
    Visits rig config store url text s (.failed e) t
  /-- The run returns results. -/
  | ran {u t : Stage W} {results : Results} (opened : Opens rig url s u)
    (run_eq : Flow.run rig config store text u = .ok results t)
    (kept : u.session.results.steps <+: results.steps) :
    Visits rig config store url text s (.ran results) t

end Session

namespace Progress

/-- The progress when a flow file has been named, and the listener has gone on. -/
def named (progress : Progress P) (surroundings : Surroundings P) (file : Path) : Progress P :=
  let coloured := surroundings.environment.asksForColour
  listen surroundings { progress with printed := progress.printed ++
    [.told ("\n" ++ Style.blue.apply coloured "📄" ++ " " ++ file ++ "\n")] }

/-- The progress when a browser has been started, or could not be. -/
def started (progress : Progress P) (start : Web.Starting P) : Progress P :=
  { progress with page := start.page, elapsed := progress.elapsed + start.elapsed }

/-- The progress when the session of a flow file has ended in a stage, and its events have been sent
to the listener. -/
def seen (progress : Progress P) (surroundings : Surroundings P) (file : Path)
    (t : Stage (WebState P)) : Progress P :=
  { t.events.foldl (send surroundings) progress with
    page := t.world.page
    files := t.world.files
    elapsed := progress.elapsed + t.elapsed
    drives := progress.drives ++ [⟨file, t.trace⟩] }

/-- The rig of the session that is held next. -/
def rig (progress : Progress P) (surroundings : Surroundings P) (web : WebConfig) :
    Rig (WebState P) :=
  Web.rig surroundings.page web fun ms => surroundings.clock (progress.elapsed + ms)

/-- The first stage of the session that is held next: a new session, whose browser has not taken any
image. -/
def first (progress : Progress P) (surroundings : Surroundings P) (web : WebConfig) :
    Stage (WebState P) :=
  .first (progress.rig surroundings web) (surroundings.names progress.drives.length)
    { page := progress.page, files := progress.files }

end Progress

section Files

variable (surroundings : Surroundings P) (web : WebConfig) (config : RunConfig)
  (url : Option String)

/-- A flow file meets its fate: it is named and read, a browser is started, and a session is held
with that browser, as far as nothing of this fails. -/
inductive Meets (file : Path) (p : Progress P) : Fate → Progress P → Prop
  /-- The file cannot be read. -/
  | unread {e : ErrorChain} (read_eq : FlowFiles.read p.files file = .error e) :
    Meets file p (.unread e) (p.named surroundings file)
  /-- No browser can be started. -/
  | unstarted {text message : String} {c : PageCall} {start : Web.Starting P}
    (read_eq : FlowFiles.read p.files file = .ok text)
    (prepares : Web.Prepares surroundings.page { page := p.page }
      (Web.launchCalls web surroundings.environment.browser) (some (c, message)) start) :
    Meets file p (.unstarted (Web.launchError web c message))
      ((p.named surroundings file).started start)
  /-- A session is held. -/
  | held {text : String} {start : Web.Starting P} {q : Progress P} {fate : Fate}
    {t : Stage (WebState P)} (read_eq : FlowFiles.read p.files file = .ok text)
    (prepares : Web.Prepares surroundings.page { page := p.page }
      (Web.launchCalls web surroundings.environment.browser) none start)
    (started : q = (p.named surroundings file).started start)
    (visits : Visits (q.rig surroundings web) config (Report.Store.directory config.reportDir) url
      text (q.first surroundings web) fate t) :
    Meets file p fate (q.seen surroundings file t)

/-- Flow files meet their fates one after another. After a file that ended in an error there is no
other one. -/
inductive Itinerary : Progress P → List Path → List Fate → Progress P → Prop
  /-- There is no file left. -/
  | done (p : Progress P) : Itinerary p [] [] p
  /-- A file whose run returned results is followed by the others. -/
  | next {p q r : Progress P} {file : Path} {files : List Path} {results : Results}
    {fates : List Fate} (meets : Meets surroundings web config url file p (.ran results) q)
    (later : Itinerary q files fates r) :
    Itinerary p (file :: files) (.ran results :: fates) r
  /-- A file that ended in an error is the last one. -/
  | last {p q : Progress P} {file : Path} {files : List Path} {fate : Fate} {e : ErrorChain}
    (meets : Meets surroundings web config url file p fate q) (ended : fate.outcome = .error e) :
    Itinerary p (file :: files) [fate] q

end Files

/-! ## One flow file -/

section Session

variable {W : Type} {rig : Rig W} {url : Option String} {s u : Stage W}

/-- Opening the first page adds at most its record to the session, which is sound, and does not send
the browser away. -/
theorem Opens.advances (h : Opens rig url s u) :
    ∃ told records, (∀ outcome, .called .close outcome ∉ told) ∧
      (∀ record ∈ records, record.Sound) ∧ s.Advances u told records := by
  cases h with
  | nothing => exact ⟨[], [], by simp, by simp, .refl s⟩
  | @page url s record _ _ _ _ sound =>
    have hcall := s.call_advances rig (.navigate url)
    have hrecord := Stage.record_advances (s.call rig (.navigate url)).2 record
    exact ⟨_, [record], by simp, by simpa using sound, hcall.trans hrecord⟩

end Session

namespace Program

variable (surroundings : Surroundings P) (options : RunOptions) (config : RunConfig)

/-- What a part of the program comes to if it has this outcome in a progress. -/
def ending {α : Type} (outcome : Except ErrorChain α) (q : Progress P) :
    EStateM.Result ErrorChain (Progress P) α :=
  match outcome with
  | .ok a => .ok a q
  | .error e => .error e q

/-- A part of the program leads to the progress that it is known to end in. -/
theorem progressed_of_ending {α : Type} {op : ProgramOp P α} {p q : Progress P}
    {outcome : Except ErrorChain α} (h : op p = ending outcome q) : progressed op p = q := by
  rw [progressed, h]
  cases outcome <;> rfl

/-- Asking for the first page either opens it or loses the browser. -/
theorem start_opens_or_lost {W : Type} (rig : Rig W) (url : String) {s : Stage W}
    (isOpen : s.session.closed = false) :
    (∃ u, SessionOp.start rig url s = .ok () u ∧ Opens rig (some url) s u) ∨
      ∃ reason, (s.call rig (.navigate url)).1 = .error (.sessionLost reason) ∧
        SessionOp.start rig url s =
          .error (.sessionLost (BrowserError.sessionLost reason).message)
            (s.call rig (.navigate url)).2 := by
  have hstart := SessionOp.start_apply rig url isOpen
  dsimp only at hstart
  cases hcall : (s.call rig (.navigate url)).1 with
  | ok answer =>
    rw [hcall] at hstart
    exact .inl ⟨_, hstart, .page (by simp [hcall]) rfl rfl (by simp [hcall, StepRecord.success])
      (StepRecord.success_sound ..)⟩
  | error e =>
    rw [hcall] at hstart
    -- Only a lost session ends the start. Any other failure is recorded, and the session is open.
    cases e with
    | sessionLost reason => exact .inr ⟨reason, rfl, hstart⟩
    | _ =>
      exact .inl ⟨_, hstart, .page (by simp [hcall]) rfl rfl
        (by simp [hcall, StepRecord.failure]) (StepRecord.failure_sound ..)⟩

/-- When a session is held for a flow, either the first page is opened, if there is one, and what
follows is the run, or the browser is lost at that page. -/
theorem visit_opens_or_lost (rig : Rig (WebState P)) (text : String) {s : Stage (WebState P)}
    (isOpen : s.session.closed = false) :
    (∃ u, Opens rig options.url s u ∧ visit options config text rig s =
        Flow.run rig config (Report.Store.directory config.reportDir) text u) ∨
      ∃ url reason, options.url = some url ∧
        (s.call rig (.navigate url)).1 = .error (.sessionLost reason) ∧
        visit options config text rig s =
          .error (.sessionLost (BrowserError.sessionLost reason).message)
            (s.call rig (.navigate url)).2 := by
  unfold visit
  cases options.url with
  | none => exact .inl ⟨s, .nothing s, rfl⟩
  | some url =>
    dsimp only
    rw [SessionOp.bind_apply]
    obtain ⟨u, hstart, opened⟩ | ⟨reason, lost, hstart⟩ :=
      start_opens_or_lost rig url isOpen
    · exact .inl ⟨u, opened, by rw [hstart]⟩
    · exact .inr ⟨url, reason, rfl, lost, by rw [hstart]⟩

/-- A session that is held for a flow meets its fate. -/
theorem visit_meets (rig : Rig (WebState P)) (text : String) {s : Stage (WebState P)}
    (isOpen : s.session.closed = false) (unused : s.session.used = false)
    (tallies : s.session.results.Tallies) :
    ∃ fate t,
      Visits rig config (Report.Store.directory config.reportDir) options.url text s fate t ∧
      fate.Tallied ∧
      match visit options config text rig s with
      | .ok results u => u = t ∧ fate.outcome = .ok results.failureCount
      | .error e u => u = t ∧ fate.outcome = .error e.chain := by
  obtain ⟨u, opened, hvisit⟩ | ⟨url, reason, hurl, lost, hvisit⟩ :=
    visit_opens_or_lost options config rig text isOpen
  · -- The flow is run, in a session that is as fresh as before.
    obtain ⟨told, records, -, sound, hadvances⟩ := opened.advances
    have isOpen' : u.session.closed = false := hadvances.closed.trans isOpen
    have unused' : u.session.used = false := hadvances.used.trans unused
    have tallies' : u.session.results.Tallies := by
      rw [hadvances.results]
      exact tallies.add sound _
    rw [hvisit]
    cases hrun : Flow.run rig config (Report.Store.directory config.reportDir) text u with
    | error e t => exact ⟨.failed e, t, .failed opened hrun, trivial, rfl, rfl⟩
    | ok results t =>
      obtain ⟨hkept, htallies⟩ := Flow.run_results isOpen' unused' hrun
      exact ⟨.ran results, t, .ran opened hrun hkept, htallies tallies', rfl, rfl⟩
  · rw [hvisit]
    exact ⟨.unopened reason, _, .unopened hurl lost, trivial, rfl, rfl⟩

/-- Starting a browser takes its time, and leaves the page as it is then. -/
theorem start_apply {α : Type} (op : EStateM ErrorChain (Web.Starting P) α) (p : Progress P) :
    start op p = match op { page := p.page } with
      | .ok a start => .ok a (p.started start)
      | .error e start => .error e (p.started start) := rfl

/-- Holding a session does with it what is to be done, and leaves what was seen of it. -/
theorem hold_apply {α : Type} (web : WebConfig) (file : Path)
    (op : Rig (WebState P) → SessionOp (WebState P) RunError α) (p : Progress P) :
    hold surroundings web file op p =
      match op (p.rig surroundings web) (p.first surroundings web) with
      | .ok a t => .ok a (p.seen surroundings file t)
      | .error e t => .error e.chain (p.seen surroundings file t) := rfl

/-- Running a flow file names it, reads it, starts a browser and holds a session, as far as nothing
of this fails. -/
theorem runFile_apply (file : Path) (p : Progress P) :
    let web := webConfigFor options config surroundings.environment.browser
    runFile surroundings options config file p = match FlowFiles.read p.files file with
      | .error e => .error e (p.named surroundings file)
      | .ok text =>
        match Web.launch surroundings.page web surroundings.environment.browser
          { page := p.page } with
        | .error e start => .error e ((p.named surroundings file).started start)
        | .ok _ start =>
          let q := (p.named surroundings file).started start
          match visit options config text (q.rig surroundings web) (q.first surroundings web) with
          | .ok results t => .ok results.failureCount (q.seen surroundings file t)
          | .error e t => .error e.chain (q.seen surroundings file t) := by
  intro web
  -- The name of the file is told first, so that what follows starts from the progress with the
  -- name.
  have hread : runFile surroundings options config file p =
      (do
        let text ← decided (FlowFiles.read p.files file)
        start (Web.launch surroundings.page web surroundings.environment.browser)
        let results ← hold surroundings web file (visit options config text)
        return results.failureCount) (p.named surroundings file) := rfl
  rw [hread, bind_apply]
  cases FlowFiles.read p.files file with
  | error e => rfl
  | ok text =>
    rw [decided_ok]
    dsimp only
    rw [bind_apply, start_apply, show (p.named surroundings file).page = p.page from rfl]
    cases Web.launch surroundings.page web surroundings.environment.browser
      { page := p.page } with
    | error e start => rfl
    | ok _ start =>
      dsimp only
      rw [bind_apply, hold_apply]
      cases visit options config text _ _ <;> rfl

/-- A flow file that the program runs meets its fate, and the program goes on with that. -/
theorem runFile_meets (file : Path) (p : Progress P) :
    ∃ fate q, Meets surroundings (webConfigFor options config surroundings.environment.browser)
        config options.url file p fate q ∧ fate.Tallied ∧
      runFile surroundings options config file p = ending fate.outcome q := by
  rw [runFile_apply]
  generalize webConfigFor options config surroundings.environment.browser = web
  dsimp only
  cases hread : FlowFiles.read p.files file with
  | error e => exact ⟨.unread e, _, .unread hread, trivial, rfl⟩
  | ok text =>
    dsimp only
    obtain ⟨failure, start, hprepares, hlaunch⟩ := Web.launch_prepares surroundings.page web
      surroundings.environment.browser { page := p.page }
    rw [hlaunch]
    rcases failure with _ | ⟨c, message⟩
    · dsimp only [Web.launched]
      generalize hq : (p.named surroundings file).started start = q
      -- The session is new.
      obtain ⟨fate, t, hvisits, htallied, hvisit⟩ := visit_meets options config
        (q.rig surroundings web) text (s := q.first surroundings web) rfl rfl .empty
      refine ⟨fate, _, .held hread hprepares hq.symm hvisits, htallied, ?_⟩
      cases hends : visit options config text (q.rig surroundings web) (q.first surroundings web)
      all_goals
        rw [hends] at hvisit
        obtain ⟨rfl, houtcome⟩ := hvisit
        rw [houtcome]
        rfl
    · exact ⟨.unstarted _, _, .unstarted hread hprepares, trivial, rfl⟩

/-- Flow files that the program runs meet their fates one after another, and the program goes on
with the total. -/
theorem runFiles_itinerary (files : List Path) (p : Progress P) :
    ∃ fates q, Itinerary surroundings
        (webConfigFor options config surroundings.environment.browser) config options.url p files
        fates q ∧ (∀ fate ∈ fates, fate.Tallied) ∧
      runFiles surroundings options config files p = ending (Fate.total fates) q := by
  induction files generalizing p with
  | nil => exact ⟨[], p, .done p, by simp, rfl⟩
  | cons file files ih =>
    obtain ⟨fate, q, hmeets, htallied, hfile⟩ := runFile_meets surroundings options config file p
    have hfiles : runFiles surroundings options config (file :: files) p =
        (do
          let failures ← runFile surroundings options config file
          return failures + (← runFiles surroundings options config files)) p := rfl
    rw [hfiles, bind_apply, hfile]
    cases houtcome : fate.outcome with
    | error e =>
      -- A file with an error is the last one.
      refine ⟨[fate], q, .last hmeets houtcome, by simpa using htallied, ?_⟩
      rw [Fate.total, houtcome]
      rfl
    | ok n =>
      obtain ⟨results, rfl⟩ := Fate.exists_ran_of_outcome_eq_ok houtcome
      obtain ⟨fates, r, hlater, htallied', hrest⟩ := ih q
      refine ⟨.ran results :: fates, r, .next hmeets hlater,
        List.forall_mem_cons.mpr ⟨htallied, htallied'⟩, ?_⟩
      dsimp only [ending]
      rw [bind_apply, hrest, Fate.total, houtcome]
      cases Fate.total fates <;> rfl

end Program

/-- On an itinerary on which every file ended well, no file is left out. -/
theorem Itinerary.length_eq {surroundings : Surroundings P} {web : WebConfig} {config : RunConfig}
    {url : Option String} {p q : Progress P} {files : List Path} {fates : List Fate}
    (h : Itinerary surroundings web config url p files fates q)
    (ran : ∀ fate ∈ fates, ∃ results, fate = .ran results) : fates.length = files.length := by
  induction h with
  | done => rfl
  | next _ _ ih =>
    rw [List.length_cons, List.length_cons, ih (List.forall_mem_cons.mp ran).2]
  | last _ ended =>
    obtain ⟨results, rfl⟩ := ran _ (List.mem_singleton_self _)
    cases ended

/-! ## The whole run -/

/-- What is to be said of a run of the program that leads from one progress to another: which fates
the flow files met that it came to, and what its exit code says about them. -/
structure Accounts (surroundings : Surroundings P) (options : RunOptions) (p : Progress P)
    (fates : List Fate) (code : UInt32) (q : Progress P) : Prop where
  /-- Without a configuration nothing is done. -/
  of_not_configured : (∀ config, Program.configFor options p.files ≠ .ok config) →
    fates = [] ∧ q = p
  /-- Without flow files nothing is done. -/
  of_not_found : (∀ paths, FlowFiles.find p.files options.path = .ok paths → paths = []) →
    fates = [] ∧ q = p
  /-- Flow files that are found are driven one after another, in the order in which they are
  found. -/
  itinerary : ∀ config paths, Program.configFor options p.files = .ok config →
    FlowFiles.find p.files options.path = .ok paths → paths ≠ [] →
    Itinerary surroundings
      (Program.webConfigFor options config surroundings.environment.browser) config options.url
      (Program.progressed (Program.announce surroundings.environment.asksForColour options config
        paths) p) paths fates q
  /-- As long as 32 bits hold the failures, the exit code is zero exactly if there is a
  configuration, there are flow files, the program came to all of them, and all are flawless. -/
  code_eq_zero_iff : Fate.failures fates < UInt32.size →
    (code = 0 ↔ (∃ config, Program.configFor options p.files = .ok config) ∧
      (∃ paths, FlowFiles.find p.files options.path = .ok paths ∧ paths ≠ [] ∧
        fates.length = paths.length) ∧
      ∀ fate ∈ fates, fate.Flawless)
  /-- There is one exit code besides zero. -/
  code_eq : code = 0 ∨ code = 1

namespace Program

variable (surroundings : Surroundings P) (options : RunOptions)

/-- There are flow files to be run exactly if some are found. -/
theorem filesFor_eq_ok_iff {files : Files} {paths : List Path} :
    filesFor options files = .ok paths ↔
      FlowFiles.find files options.path = .ok paths ∧ paths ≠ [] := by
  unfold filesFor
  rcases FlowFiles.find files options.path with e | _ | ⟨file, others⟩
  · exact iff_of_false nofun fun h => nomatch h.1
  · exact iff_of_false nofun fun h => h.2 (Except.ok.inj h.1).symm
  · show Except.ok (file :: others) = .ok paths ↔ _
    exact (and_iff_left_of_imp fun h => Except.ok.inj h ▸ List.cons_ne_nil file others).symm

/-- Telling what is going to be run never fails. -/
theorem announce_apply (coloured : Bool) (config : RunConfig) (files : List Path)
    (p : Progress P) : announce coloured options config files p =
      .ok () (progressed (announce coloured options config files) p) := by
  unfold announce
  cases options.url <;> rfl

/-- Running flows fails at once without a configuration or without flow files, and otherwise makes
an itinerary. -/
theorem runFlows_cases (p : Progress P) :
    ((∃ e, runFlows surroundings options p = .error e p) ∧
        ¬ ((∃ config, configFor options p.files = .ok config) ∧
          ∃ paths, filesFor options p.files = .ok paths)) ∨
      ∃ config paths fates q, configFor options p.files = .ok config ∧
        filesFor options p.files = .ok paths ∧
        Itinerary surroundings (webConfigFor options config surroundings.environment.browser)
          config options.url
          (progressed (announce surroundings.environment.asksForColour options config paths) p)
          paths fates q ∧
        (∀ fate ∈ fates, fate.Tallied) ∧
        runFlows surroundings options p = ending (Fate.total fates) q := by
  have hflows := runFlows_apply surroundings options p
  cases hconfig : configFor options p.files with
  | error e =>
    rw [hconfig] at hflows
    exact .inl ⟨⟨e, hflows⟩, by simp⟩
  | ok config =>
    cases hfiles : filesFor options p.files with
    | error e =>
      rw [hconfig, hfiles] at hflows
      exact .inl ⟨⟨e, hflows⟩, by simp⟩
    | ok paths =>
      rw [hconfig, hfiles] at hflows
      dsimp only at hflows
      rw [bind_apply, announce_apply] at hflows
      obtain ⟨fates, q, hitinerary, htallied, hruns⟩ := runFiles_itinerary surroundings options
        config paths
        (progressed (announce surroundings.environment.asksForColour options config paths) p)
      exact .inr ⟨config, paths, fates, q, rfl, rfl, hitinerary, htallied, hflows.trans hruns⟩

/-- The account of a run that fails at once, since there is no configuration or no flow file. -/
theorem accounts_of_refused {options : RunOptions} {p : Progress P}
    (hnone : ¬ ((∃ config, configFor options p.files = .ok config) ∧
      ∃ paths, filesFor options p.files = .ok paths)) :
    Accounts surroundings options p [] 1 p where
  of_not_configured _ := ⟨rfl, rfl⟩
  of_not_found _ := ⟨rfl, rfl⟩
  itinerary config paths hconfig hfind hsome := by
    have hfiles := (filesFor_eq_ok_iff options).mpr ⟨hfind, hsome⟩
    exact absurd ⟨⟨config, hconfig⟩, paths, hfiles⟩ hnone
  code_eq_zero_iff _ := by
    refine iff_of_false (by simp) ?_
    rintro ⟨hconfig, ⟨paths, hfind, hsome, -⟩, -⟩
    exact hnone ⟨hconfig, paths, (filesFor_eq_ok_iff options).mpr ⟨hfind, hsome⟩⟩
  code_eq := .inr rfl

/-- The account of a run that makes an itinerary, whose exit code is zero exactly if the total is. -/
theorem accounts_of_itinerary {options : RunOptions} {p q : Progress P} {config : RunConfig}
    {paths : List Path} {fates : List Fate} {code : UInt32}
    (hconfig : configFor options p.files = .ok config)
    (hfiles : filesFor options p.files = .ok paths)
    (hitinerary : Itinerary surroundings
      (webConfigFor options config surroundings.environment.browser) config options.url
      (progressed (announce surroundings.environment.asksForColour options config paths) p)
      paths fates q)
    (tallied : ∀ fate ∈ fates, fate.Tallied) (hzero : code = 0 ↔ Fate.total fates = .ok 0)
    (hcode : code = 0 ∨ code = 1) : Accounts surroundings options p fates code q where
  of_not_configured hno := absurd hconfig (hno config)
  of_not_found hno :=
    have ⟨hfind, hsome⟩ := (filesFor_eq_ok_iff options).mp hfiles
    absurd (hno paths hfind) hsome
  itinerary config' paths' hconfig' hfind' hsome' := by
    have hfiles' := (filesFor_eq_ok_iff options).mpr ⟨hfind', hsome'⟩
    obtain rfl := Except.ok.inj (hconfig.symm.trans hconfig')
    obtain rfl := Except.ok.inj (hfiles.symm.trans hfiles')
    exact hitinerary
  code_eq_zero_iff few := by
    obtain ⟨hfind, hsome⟩ := (filesFor_eq_ok_iff options).mp hfiles
    rw [hzero, Fate.total_eq_zero_iff tallied few]
    refine ⟨fun hall => ?_, fun h => h.2.2⟩
    -- If all files are flawless, none of them has ended the itinerary.
    have hran : ∀ fate ∈ fates, ∃ results, fate = .ran results :=
      fun fate hfate => ((Fate.flawless_iff fate).mp (hall fate hfate)).1
    exact ⟨⟨config, hconfig⟩, ⟨paths, hfind, hsome, hitinerary.length_eq hran⟩, hall⟩
  code_eq := hcode

/-- A run of the program drives the flow files that are found one after another, every one in a
session of its own, until one of them ends in an error, and its exit code tells whether all of them
were flawless. -/
theorem run_itinerary {arguments : List String} {options : RunOptions}
    (hread : Request.read arguments = .ok (.run options)) (p : Progress P) :
    ∃ fates, Accounts surroundings options p fates (run surroundings arguments p).1.code
      (run surroundings arguments p).2 := by
  obtain ⟨hq, hcode⟩ := run_of_read surroundings hread p
  rw [hq, hcode]
  rcases runFlows_cases surroundings options p with
    ⟨⟨e, hflows⟩, hnone⟩ | ⟨config, paths, fates, q, hconfig, hfiles, hitinerary, htallied, hflows⟩
  · rw [progressed, hflows]
    exact ⟨[], accounts_of_refused surroundings hnone⟩
  · rw [progressed_of_ending hflows, hflows]
    refine ⟨fates,
      accounts_of_itinerary surroundings hconfig hfiles hitinerary htallied ?_ ?_⟩
    all_goals
      cases Fate.total fates with
      | error e => simp [ending]
      | ok n => by_cases hn : n = 0 <;> simp [ending, hn]

/-- What surrounds a run on the scripted page, with a library by which addresses can be opened in
the first browser only. -/
def failingLater (message : String) : Surroundings ScriptedPage where
  __ := Surroundings.scripted
  page :=
    { ScriptedPage.driver with
      call := fun c page =>
        match c with
        | .goto url =>
          if page.calls.count .initialize_ = 1 then ScriptedPage.driver.call (.goto url) page
          else (⟨.error message, [], 0⟩, { page with calls := page.calls ++ [.goto url] })
        | c => ScriptedPage.driver.call c page }

/-- Where the first page cannot be opened in the second browser, the exit code tells so, although
both flows are run and all their steps pass. -/
theorem run_itinerary_unreachable :
    let surroundings := failingLater "net::ERR_NAME_NOT_RESOLVED"
    let arguments := ["run", "flows", "--url", "https://example.org"]
    let options : RunOptions := { path := "flows", url := some "https://example.org" }
    let p : Progress ScriptedPage := { page := { script := {} }, files := twoFlows }
    let q := (run surroundings arguments p).2
    Request.read arguments = .ok (.run options) ∧
      q.drives.map (fun drive => drive.trace.filterMap fun
        | .recorded record => some record.isSuccess
        | _ => none) = [[true, true], [false, true, true]] ∧
      ∃ fates, Accounts surroundings options p fates 1 q := by
  intro surroundings arguments options p q
  have hread : Request.read arguments = .ok (.run options) := rfl
  have hq : q = _ := run_progressed surroundings hread rfl filesFor_twoFlows
  have hcode : (run surroundings arguments p).1.code = 1 := by
    have hfiles : filesFor options p.files = _ := filesFor_twoFlows
    rw [(run_of_read surroundings hread p).2, runFlows_apply, hfiles]
    decide +kernel
  have hrecords : q.drives.map (fun drive => drive.trace.filterMap fun
      | .recorded record => some record.isSuccess
      | _ => none) = [[true, true], [false, true, true]] := by
    rw [hq]
    decide +kernel
  exact ⟨hread, hrecords, hcode ▸ run_itinerary surroundings hread p⟩

end Program

end CommandLine

end BrowserFlow
