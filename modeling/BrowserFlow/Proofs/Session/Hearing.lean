import BrowserFlow.Proofs.Console.Sharing
import BrowserFlow.Proofs.Session.Isolation
import BrowserFlow.Proofs.Session.Passage

/-!
# What a session hears

The browser pushes messages through a handle of its own, a clone of the session's. They arrive
during calls, between steps, and while nothing else is done. Nothing else that happens in a session
touches the console, apart from a reset, which empties it through the session's handle.

`Stage.Hears` says of two stages that the browser has pushed certain messages in between, and that
nothing else was done with the console. Which messages these are is said of everything that can
happen (`Stage.Pushes`), from a single call up to a whole run, whose messages are those of the steps
on its tour, of its report and of its closing (`Flow.run_hears`).

Turns without a reset are such a way from stage to stage, so that in any moment of a session its
console shows what was pushed since the last reset, or since the beginning (`Stage.Listens`). The
two handles stay where they are, at logs of one origin (`Console.Held`), whence the theory of
logs in general applies to them.
-/

namespace BrowserFlow

open SessionOp

variable {W : Type}

/-! ## The logs of a session -/

namespace Console

open Consoles (Move after)

/-- The session's log is the first one, the browser's is a clone of it, and since then these moves
were made: messages were pushed through the browser's log, and the session's was emptied. -/
structure Held (console : Console) (moves : List Move) : Prop where
  /-- The session's log is the first one. -/
  own : console.own = 0
  /-- The browser's is the next one. -/
  sink : console.sink = 1
  /-- The one was cloned, and the moves were made. -/
  consoles : console.consoles = after (.clone 0 :: moves)
  /-- The browser pushes messages, and the session empties its log. -/
  moves : ∀ move ∈ moves, (∃ entry, move = .push 1 entry) ∨ move = .clear 0

/-- No moves have been made on a new console. -/
theorem opened_held : opened.Held [] := ⟨rfl, rfl, rfl, nofun⟩

variable {console : Console} {moves : List Move}

/-- The two logs of a session have one origin. -/
theorem Held.sameOrigin (h : console.Held moves) :
    Consoles.SameOrigin (.clone 0 :: moves) console.own console.sink := by
  rw [h.own, h.sink]
  exact (Consoles.after_shared []).cloned 0 Nat.zero_lt_one |>.append moves

/-- Pushing a message is a move. -/
theorem Held.push (h : console.Held moves) (entry : LogEntry) :
    (console.push entry).Held (moves ++ [.push 1 entry]) where
  own := h.own
  sink := h.sink
  consoles := by
    rw [← List.cons_append, Consoles.after_concat, ← h.consoles]
    exact congrArg (console.consoles.push · entry) h.sink
  moves := List.forall_mem_append.mpr ⟨h.moves, by simp⟩

/-- Emptying the console is a move. -/
theorem Held.clear (h : console.Held moves) : console.clear.Held (moves ++ [.clear 0]) where
  own := h.own
  sink := h.sink
  consoles := by
    rw [← List.cons_append, Consoles.after_concat, ← h.consoles]
    exact congrArg console.consoles.clear h.own
  moves := List.forall_mem_append.mpr ⟨h.moves, by simp⟩

/-- Pushing some messages is making some moves. -/
theorem Held.foldl_push (h : console.Held moves) (entries : Transcript) :
    ∃ moves, (entries.foldl Console.push console).Held moves := by
  induction entries generalizing console moves with
  | nil => exact ⟨moves, h⟩
  | cons entry entries ih => exact ih (h.push entry)

end Console

/-! ## Messages between stages -/

namespace Stage

/-- On the way from one stage to the other the browser pushes these messages through its handle, in
this order, and nothing else is done with the console. -/
structure Hears (s : Stage W) (pushed : Transcript) (t : Stage W) : Prop where
  /-- The messages come behind those from before. -/
  written : t.written = s.written ++ pushed
  /-- The console is the same one, with the messages. -/
  console : t.session.console = pushed.foldl Console.push s.session.console

variable {rig : Rig W} {s t u : Stage W} {pushed first next : Transcript}

/-- What is pushed is what the session reads last. -/
theorem Hears.transcript (h : s.Hears pushed t) :
    t.session.transcript = s.session.transcript ++ pushed := by
  rw [Session.transcript, h.console, Console.foldl_push_transcript, Session.transcript]

/-- Nothing is pushed where nothing happens. -/
theorem Hears.refl (s : Stage W) : s.Hears [] s := ⟨(List.append_nil _).symm, rfl⟩

/-- What is pushed first comes first. -/
theorem Hears.trans (h : s.Hears first t) (h' : t.Hears next u) : s.Hears (first ++ next) u where
  written := by rw [h'.written, h.written, List.append_assoc]
  console := by rw [h'.console, h.console, List.foldl_append]

/-- Nothing is pushed where all is quiet. -/
theorem Quiet.hears (h : s.Quiet t) : s.Hears [] t where
  written := by rw [h.written, List.append_nil]
  console := h.console

/-- Nothing is pushed on a quiet way before. -/
theorem Hears.after_quiet (h : s.Hears pushed t) (quiet : u.Quiet s) : u.Hears pushed t :=
  quiet.hears.trans h

/-- Nothing is pushed on a quiet way behind. -/
theorem Hears.before_quiet (h : s.Hears pushed t) (quiet : t.Quiet u) : s.Hears pushed u := by
  have hall := h.trans quiet.hears
  rwa [List.append_nil] at hall

/-- Messages that the browser pushes by itself are pushed, each with the time of its arrival. -/
theorem receive_hears (rig : Rig W) (messages : List Message) (s : Stage W) :
    s.Hears (messages.map (·.entry (rig.clock s.elapsed))) (s.receive rig messages) := ⟨rfl, rfl⟩

/-- A call pushes what arrives while it is under way. -/
theorem call_hears (rig : Rig W) (c : Call) (s : Stage W) :
    s.Hears (s.heard rig c) (s.call rig c).2 := ⟨rfl, rfl⟩

/-- While time passes what arrives then is pushed. -/
theorem idle_hears (rig : Rig W) (ms : Nat) (s : Stage W) :
    s.Hears (s.overheard rig ms) (s.idle rig ms) := ⟨rfl, rfl⟩

/-- Telling events pushes nothing. -/
theorem tell_hears (s : Stage W) (events : List Event) : s.Hears [] (s.tell events) :=
  ⟨(List.append_nil _).symm, rfl⟩

/-- What a step leaves in the session is no message. -/
theorem capture_hears (s : Stage W) (capture : Capture) : s.Hears [] (s.capture capture) := by
  cases capture <;> exact ⟨(List.append_nil _).symm, rfl⟩

/-- Between a step and what follows it, the messages are pushed that arrive in the pause, or in no
time if there is none. -/
theorem rest_hears (rig : Rig W) (config : RunConfig) (passed : Bool) (s : Stage W) :
    s.Hears (s.overheard rig (if passed then config.pause else 0)) (s.rest rig config passed) := by
  unfold rest RunConfig.pause
  cases passed with
  | false => exact s.idle_hears rig 0
  | true =>
    simp only [↓reduceIte]
    cases config.stepDelayMs with
    | none => exact s.idle_hears rig 0
    | some ms =>
      dsimp only
      split
      · rename_i h
        rw [h]
        exact s.idle_hears rig 0
      · exact (s.idle_hears rig (pauseLength ms)).before_quiet (paused_quiet _ _)

end Stage

open Stage (Hears)

/-- What is pushed while a step is executed in a stage: what arrives during its call, if it has
one. -/
def Step.pushed (rig : Rig W) (config : RunConfig) (step : Step) (s : Stage W) : Transcript :=
  (step.call? config).elim [] (s.heard rig)

/-- Executing a step pushes what arrives during its call. -/
theorem Step.execute_hears (rig : Rig W) (config : RunConfig) (group : String) (step : Step)
    (s : Stage W) :
    s.Hears (step.pushed rig config s) ((step.execute rig config group).reached s) := by
  rw [execute_reached, pushed, call?]
  cases step.plan config with
  | unasked told verdict =>
    rw [Plan.unasked_reached]
    exact s.tell_hears _
  | asking c verdict =>
    rw [Plan.asking_reached]
    have hcall := (s.call_hears rig c).trans
      (Stage.capture_hears _ ((Plan.asking c verdict).captured rig s))
    rwa [List.append_nil] at hcall

/-- Whatever happens in a session, the browser pushes some messages meanwhile. -/
theorem hears_kept (rig : Rig W) : Kept rig fun s t => ∃ pushed, s.Hears pushed t where
  trans := fun ⟨_, h⟩ ⟨_, h'⟩ => ⟨_, h.trans h'⟩
  quiet h := ⟨[], h.hears⟩
  execute config group step s := ⟨_, step.execute_hears rig config group s⟩
  call c s _ := ⟨_, s.call_hears rig c⟩
  idle ms s := ⟨_, s.idle_hears rig ms⟩

/-! ## The messages of a tour -/

section Tour

variable {rig : Rig W} {config : RunConfig}

/-- What is pushed from the beginning of a step until the run goes on: what arrives while it is
executed, and what arrives in the pause behind it. -/
def Execution.pushed (x : Execution rig config) : Transcript :=
  x.step.pushed rig config x.before ++
    x.after.overheard rig (if x.record.isSuccess then config.pause else 0)

/-- What is pushed while the steps of a group are executed. -/
def Visit.pushed (visit : Visit rig config) : Transcript :=
  visit.executions.flatMap Execution.pushed

/-- What is pushed on a tour, also during the call in which the browser is lost. -/
def Tour.pushed : Tour rig config → Transcript
  | .whole visits => visits.flatMap Visit.pushed
  | .lost visits visit loss =>
    visits.flatMap Visit.pushed ++ visit.pushed ++ loss.step.pushed rig config loss.before

/-- A step that has begun pushes its messages until the run goes on. -/
theorem Execution.settled_hears (x : Execution rig config) (index : Nat) :
    x.before.Hears x.pushed (x.settled index) := by
  have hstep := x.step.execute_hears rig config x.group x.before
  rw [reached, x.executed] at hstep
  have hend := (hstep.before_quiet (x.after.emit_quiet (x.record.event index))).before_quiet
    (Stage.record_quiet _ x.record)
  exact hend.trans (Stage.rest_hears rig config x.record.isSuccess _)

/-- Executing steps pushes their messages. -/
theorem Course.hears {name : String} {index : Nat} {s t : Stage W}
    {xs : List (Execution rig config)} (h : Course name index s xs t) :
    s.Hears (xs.flatMap Execution.pushed) t := by
  induction h with
  | done _ s => exact .refl s
  | @step index s t x xs _ before_eq _ ih =>
    have hbegin : s.Quiet x.before := before_eq ▸ s.emit_quiet _
    exact ((x.settled_hears index).after_quiet hbegin).trans ih

/-- Entering and leaving groups pushes the messages of their steps. -/
theorem Round.hears {s t : Stage W} {visits : List (Visit rig config)} (h : Round s visits t) :
    s.Hears (visits.flatMap Visit.pushed) t := by
  induction h with
  | done s => exact .refl s
  | @visit s t u visit visits course _ ih =>
    exact ((course.hears.after_quiet (s.emit_quiet _)).before_quiet (t.leave_quiet _ _)).trans ih

/-- A tour pushes its messages. -/
theorem Tour.Leads.hears {s t : Stage W} {tour : Tour rig config} (h : Leads s tour t) :
    s.Hears tour.pushed t := by
  cases h with
  | whole round => exact round.hears
  | @lost t u visits visit loss round course before_eq =>
    have hbegin : u.Quiet loss.before := before_eq ▸ u.emit_quiet _
    have hstep := loss.step.execute_hears rig config loss.group loss.before
    rw [reached, loss.lost] at hstep
    have hvisit := course.hears.after_quiet (t.emit_quiet _)
    exact (round.hears.trans hvisit).trans (hstep.after_quiet hbegin)

end Tour

namespace Flow

variable (rig : Rig W) (config : RunConfig) (store : Report.Store W) (text : String) {s : Stage W}

/-! ## The messages of a run -/

/-- What is pushed while a report is made: what arrives while the browser tells title and
address. -/
def reportPushed (s : Stage W) : Transcript :=
  s.heard rig .title ++ (s.call rig .title).2.heard rig .url

/-- What is pushed behind the groups, depending on how they ended: there is a report unless the
browser was lost. -/
def drivenPushed (ran : Except RunError Unit) (s : Stage W) : Transcript :=
  match ran with
  | .ok _ => reportPushed rig s
  | .error _ => []

/-- What is pushed at the end: what arrives while the browser goes away, unless it is to stay. -/
def finishPushed (s : Stage W) : Transcript :=
  if config.keepOpen then [] else s.heard rig .close

/-- What is pushed in a run that begins in a stage, behind its groups. -/
def endPushed (s : Stage W) : Transcript :=
  let groups := Flow.read text
  drivenPushed rig ((Group.runAll rig config groups).result (begun s text))
      (driven rig config groups (begun s text)) ++
    finishPushed rig config ((drive rig config store groups).reached (begun s text))

/-- Writing the report pushes what arrives while the browser tells title and address. -/
theorem writeReport_hears (s : Stage W) :
    s.Hears (reportPushed rig s) ((writeReport rig config store).reached s) := by
  have htell : s.Hears (reportPushed rig s) (reporting rig s) :=
    (s.call_hears rig .title).trans (Stage.call_hears rig .url _)
  -- The store may change the world; the session and what was pushed it leaves alone.
  have hwritten :
      ((writeReport rig config store).reached s).written = (reporting rig s).written := by
    rw [reached, writeReport_apply, persist_apply]
    dsimp only
    cases kept rig store (reported rig config s) config.reportFormat (reporting rig s) <;> rfl
  refine ⟨hwritten.trans htell.written, ?_⟩
  rw [writeReport_session]
  exact htell.console

/-- When groups have been run, the report pushes what arrives during its calls, if there is one. -/
theorem drive_hears (groups : List Group) (s : Stage W) :
    (driven rig config groups s).Hears
      (drivenPushed rig ((Group.runAll rig config groups).result s) (driven rig config groups s))
      ((drive rig config store groups).reached s) := by
  have hdrive := drive_apply rig config store groups s
  cases hran : (Group.runAll rig config groups).result s with
  | ok _ =>
    simp only [hran] at hdrive
    rw [reached_congr hdrive]
    exact writeReport_hears rig config store _
  | error e =>
    simp only [hran] at hdrive
    rw [reached, hdrive]
    exact .refl _

/-- Finishing a run pushes what arrives while the browser goes away, if it does. -/
theorem finish_hears {t : Stage W} (isOpen : t.session.closed = false) :
    t.Hears (finishPushed rig config t) ((finish rig config).reached t) := by
  rw [finish_reached rig config isOpen, finishPushed]
  split
  · exact .refl t
  · exact ⟨rfl, rfl⟩

/-- When the groups of a run have been run, the rest of it pushes what arrives during its calls. -/
theorem run_hears_driven (isOpen : s.session.closed = false) (unused : s.session.used = false) :
    (driven rig config (Flow.read text) (begun s text)).Hears (endPushed rig config store text s)
      ((run rig config store text).reached s) := by
  have hdrive := drive_hears rig config store (Flow.read text) (begun s text)
  have hopen := (drive_flags rig config store (Flow.read text) (begun s text)).2.trans isOpen
  -- If nothing failed, one more event is told at last.
  rw [(run_spec rig config store text isOpen unused).2]
  have htell := (finish_hears rig config hopen).trans (Stage.tell_hears _
    (finishedEvents ((run rig config store text).result s)))
  rw [List.append_nil] at htell
  exact hdrive.trans htell

/-- A run pushes the messages of its tour, and those behind it. -/
theorem run_hears (isOpen : s.session.closed = false) (unused : s.session.used = false) :
    ∃ tour : Tour rig config, Toured text s tour ∧
      s.Hears (tour.pushed ++ endPushed rig config store text s)
        ((run rig config store text).reached s) := by
  obtain ⟨tour, covers, leads, ran⟩ :=
    Group.exists_tour rig config (Flow.read text) (begun s text)
  have htour := (leads.hears.after_quiet (s.begun_quiet text)).before_quiet
    (Stage.time_quiet _ (begun s text).elapsed)
  have hend := run_hears_driven rig config store text isOpen unused
  exact ⟨tour, ⟨covers, leads, ran⟩, htour.trans hend⟩

end Flow

/-! ## The messages of turns -/

namespace Stage

/-- Which messages are pushed when something happens in a stage, whatever it is. -/
structure Pushes (rig : Rig W) (s : Stage W) : Prop where
  /-- During a call those that arrive while it is under way. -/
  call : ∀ c, s.Hears (s.heard rig c) (s.call rig c).2
  /-- While time passes those that arrive then. -/
  idle : ∀ ms, s.Hears (s.overheard rig ms) (s.idle rig ms)
  /-- While nothing is done those that the browser pushes. -/
  hear : ∀ messages, s.Hears (messages.map (·.entry (rig.clock s.elapsed)))
    (Turn.next rig s (.hear messages))
  /-- When the first page is opened those of the call, unless the session is closed. -/
  start : ∀ url, s.Hears (if s.session.closed then [] else s.heard rig (.navigate url))
    (Turn.next rig s (.start url))
  /-- When a step is executed those of its call, if it has one. -/
  execute : ∀ config group (step : Step), s.Hears (step.pushed rig config s)
    (Turn.next rig s (.execute config group step))
  /-- In a run those of the steps on its tour, of the pauses, of its report and of its closing. -/
  run : ∀ config store text, s.session.closed = false → s.session.used = false →
    ∃ tour : Tour rig config, Flow.Toured text s tour ∧
      s.Hears (tour.pushed ++ Flow.endPushed rig config store text s)
        (Turn.next rig s (.run config store text))
  /-- In a run that is refused none. -/
  refused : ∀ config store text, ¬ (s.session.closed = false ∧ s.session.used = false) →
    s.Hears [] (Turn.next rig s (.run config store text))
  /-- When the session is closed those that arrive while the browser goes away, unless it has gone
  before. -/
  close : s.Hears (if s.session.closed then [] else s.heard rig .close) (Turn.next rig s .close)
  /-- In a reset none, and the console is emptied through the session's log. -/
  reset : (Turn.next rig s .reset).written = s.written ∧
    (Turn.next rig s .reset).session.console = s.session.console.clear

/-- In any stage the messages are pushed that arrive. -/
theorem pushes (rig : Rig W) (s : Stage W) : s.Pushes rig where
  call c := s.call_hears rig c
  idle ms := s.idle_hears rig ms
  hear messages := s.receive_hears rig messages
  start url := by
    rw [Turn.next]
    cases closed : s.session.closed with
    | true =>
      rw [reached, start_of_closed rig url closed]
      exact .refl s
    | false =>
      have hcall := s.call_hears rig (.navigate url)
      rw [reached, start_apply rig url closed]
      dsimp only
      cases (s.call rig (.navigate url)).1 with
      | ok _ => exact hcall.before_quiet (record_quiet _ _)
      | error e =>
        cases e with
        | sessionLost reason => exact hcall
        | _ => exact hcall.before_quiet (record_quiet _ _)
  execute config group step := step.execute_hears rig config group s
  run config store text isOpen unused := Flow.run_hears rig config store text isOpen unused
  refused config store text refused := by
    rw [Turn.next, Flow.run_reached_of_refused rig config store text refused]
    exact .refl s
  close := by
    rw [Turn.next, close_reached]
    split
    · exact .refl s
    · exact ⟨rfl, rfl⟩
  reset := ⟨rfl, rfl⟩

/-- On the way through any turn but a reset the browser pushes some messages. -/
theorem next_hears (rig : Rig W) (s : Stage W) (turn : Turn W) (noReset : turn ≠ .reset) :
    ∃ pushed, s.Hears pushed (turn.next rig s) := by
  have hpushes := s.pushes rig
  cases turn with
  | start url => exact ⟨_, hpushes.start url⟩
  | run config store text =>
    by_cases begins : s.session.closed = false ∧ s.session.used = false
    · obtain ⟨tour, -, h⟩ := hpushes.run config store text begins.1 begins.2
      exact ⟨_, h⟩
    · exact ⟨_, hpushes.refused config store text begins⟩
  | execute config group step => exact ⟨_, hpushes.execute config group step⟩
  | hear messages => exact ⟨_, hpushes.hear messages⟩
  | reset => exact absurd rfl noReset
  | close => exact ⟨_, hpushes.close⟩

/-- So it is through any turns without a reset. -/
theorem after_hears (rig : Rig W) (s : Stage W) (turns : List (Turn W))
    (noReset : .reset ∉ turns) : ∃ pushed, s.Hears pushed (s.after rig turns) := by
  revert noReset
  refine after_induction (P := fun turns t => .reset ∉ turns → ∃ pushed, s.Hears pushed t)
    ?_ ?_ turns
  · exact fun _ => ⟨[], .refl s⟩
  · intro turns t turn ih noReset
    rw [List.mem_append, List.mem_singleton, not_or] at noReset
    obtain ⟨_, hbefore⟩ := ih noReset.1
    obtain ⟨_, hturn⟩ := t.next_hears rig turn (Ne.symm noReset.2)
    exact ⟨_, hbefore.trans hturn⟩

/-- Messages leave the logs of a session where they are. -/
theorem Hears.held {s t : Stage W} {pushed : Transcript} (h : s.Hears pushed t)
    (held : ∃ moves, s.session.console.Held moves) : ∃ moves, t.session.console.Held moves := by
  obtain ⟨moves, hmoves⟩ := held
  rw [h.console]
  exact hmoves.foldl_push pushed

/-- So do all turns. -/
theorem after_held (rig : Rig W) (id : String) (world : W) (turns : List (Turn W)) :
    ∃ moves, ((first rig id world).after rig turns).session.console.Held moves := by
  refine after_induction (P := fun _ t => ∃ moves, t.session.console.Held moves) ?_ ?_ turns
  · exact (call_hears rig .subscribeConsole { session := { id }, world }).held
      ⟨[], Console.opened_held⟩
  · intro turns t turn ih
    by_cases reset : turn = .reset
    · obtain ⟨moves, h⟩ := ih
      rw [reset, (t.pushes rig).reset.2]
      exact ⟨_, h.clear⟩
    · obtain ⟨_, hturn⟩ := t.next_hears rig turn reset
      exact hturn.held ih

/-! ## What is seen of the console -/

/-- A moment between a stage and the end of the next turn in which somebody may look at the
console. -/
inductive Moment (rig : Rig W) (s : Stage W) : Stage W → Prop
  /-- Nothing is done, or the turn begins. -/
  | still : Moment rig s s
  /-- A step of a run begins, in which the browser is not lost. -/
  | step {config : RunConfig} {text : String} {tour : Tour rig config} {visit : Visit rig config}
    {x : Execution rig config} (toured : Flow.Toured text s tour) (entered : visit ∈ tour.visits)
    (executed : x ∈ visit.executions) : Moment rig s x.before
  /-- A step of a run begins, in which the browser is lost. -/
  | loss {config : RunConfig} {text : String} {visits : List (Visit rig config)}
    {visit : Visit rig config} {loss : Loss rig config}
    (toured : Flow.Toured text s (.lost visits visit loss)) : Moment rig s loss.before
  /-- A run makes its report. -/
  | report (config : RunConfig) (text : String) : Moment rig s (Flow.summing rig config text s)

/-- The browser has pushed some messages until any moment. -/
theorem Moment.hears {rig : Rig W} {s m : Stage W} (h : s.Moment rig m) :
    ∃ pushed, s.Hears pushed m := by
  have kept := hears_kept rig
  cases h with
  | still => exact ⟨[], .refl s⟩
  | step toured entered executed =>
    exact kept.trans (kept.quiet (s.begun_quiet _))
      (kept.leads_mem toured.leads _ entered _ executed).1
  | loss toured =>
    exact kept.trans (kept.quiet (s.begun_quiet _)) (kept.lost_before toured.leads)
  | report config text => exact kept.summing text s

/-- The messages that a session shows in a moment, and through what they are seen. -/
structure Shows (rig : Rig W) (m : Stage W) (shown : Transcript) : Prop where
  /-- The session's log shows them. -/
  own : m.session.console.consoles.read m.session.console.own = shown
  /-- So does the one through which the browser pushes. -/
  sink : m.session.console.consoles.read m.session.console.sink = shown
  /-- A step that asserts that a text is on the console passes exactly if it is in one of them. -/
  asserts : ∀ config group (step : Step) expected,
    Action.ofSentence step.sentence = .ok (.verify (.log expected)) →
    ∃ record t, step.execute rig config group m = .ok record t ∧
      (record.isSuccess = true ↔ ∃ entry ∈ shown, Text.contains entry.text expected = true)
  /-- A step that captures messages tells how many they are. -/
  counts : ∀ config group (step : Step), Action.ofSentence step.sentence = .ok .captureLogs →
    ((step.execute rig config group).reached m).trace = m.trace ++
      [.emitted (.log (Text.decimal shown.length ++ " console message(s) captured"))]
  /-- A report that is made shows them, if it is to show messages. -/
  reports : ∀ config title url at_, (Flow.report config m.session title url at_).logs =
    if config.captureLogs then shown else []

/-- A session shows the messages that it reads in every way. -/
theorem shows (rig : Rig W) (m : Stage W) : m.Shows rig m.session.transcript where
  own := rfl
  sink := m.session.console.read_sink
  asserts config group step expected h := by
    have hmentions : m.session.transcript.mentions expected = true ↔
        ∃ entry ∈ m.session.transcript, Text.contains entry.text expected = true := by
      rw [Transcript.mentions, List.any_eq_true]
    rw [← hmentions]
    have hexecute := step.execute_apply rig config group m
    rw [Step.plan_of_action h, Action.plan, Assertion.plan] at hexecute
    simp only [result, Plan.carryOut, Plan.judge] at hexecute
    cases hm : m.session.transcript.mentions expected <;>
      simp only [hm, if_true, Bool.false_eq_true, if_false] at hexecute
    · exact ⟨_, _, hexecute, Iff.rfl⟩
    · exact ⟨_, _, hexecute, Iff.rfl⟩
  counts config group step h := by
    rw [(step.execute_advances rig config group m).trace, Step.plan_of_action h]
    rfl
  reports _ _ _ _ := rfl

/-- What is on the console in a moment of a session that began in a first stage, before or in the
turn that comes next behind some others. -/
structure Listens (rig : Rig W) (m first : Stage W) (turns : List (Turn W)) :
    Prop where
  /-- If there was no reset, it is all that the browser has pushed. -/
  of_no_reset : .reset ∉ turns → m.Shows rig m.written
  /-- If there was one, it is what the browser has pushed since the last one. -/
  of_reset : ∀ earlier later, turns = earlier ++ .reset :: later → .reset ∉ later →
    ∃ shown, m.written = (first.after rig earlier).written ++ shown ∧ m.Shows rig shown
  /-- The session and the browser have still the logs that they began with, which have one
  origin. -/
  logs : ∃ moves, m.session.console.Held moves ∧
    Consoles.SameOrigin (.clone 0 :: moves) m.session.console.own m.session.console.sink

/-- In every moment of a session, whatever was done with it, what is seen of the console is what was
pushed since the last reset; what is pushed is what arrives; and so are logs shared in general. -/
theorem console_shared (rig : Rig W) (id : String) (world : W) :
    (∀ turns m, ((first rig id world).after rig turns).Moment rig m →
        m.Listens rig (first rig id world) turns) ∧
      (∀ s : Stage W, s.Pushes rig) ∧
      ∀ moves, Consoles.Shared moves := by
  refine ⟨fun turns m moment => ?_, pushes rig, Consoles.after_shared⟩
  obtain ⟨now, hmoment⟩ := moment.hears
  refine ⟨fun noReset => ?_, fun earlier later split noReset => ?_, ?_⟩
  · obtain ⟨before, hbefore⟩ := (first rig id world).after_hears rig turns noReset
    have hall := hbefore.trans hmoment
    -- What the session has heard when it begins is what was pushed until then.
    have hfirst : (first rig id world).session.transcript = (first rig id world).written :=
      call_transcript ..
    have hshown : m.written = m.session.transcript := by rw [hall.written, hall.transcript, hfirst]
    rw [hshown]
    exact m.shows rig
  · let r := Turn.next rig ((first rig id world).after rig earlier) .reset
    have hsplit : (first rig id world).after rig turns = r.after rig later := by
      rw [split, after, List.foldl_append]
      rfl
    rw [hsplit] at hmoment
    obtain ⟨before, hbefore⟩ := r.after_hears rig later noReset
    have hall := hbefore.trans hmoment
    have hr : r.session.transcript = [] := Session.reset_transcript _
    refine ⟨m.session.transcript, ?_, m.shows rig⟩
    rw [hall.written, hall.transcript, hr, List.nil_append]
    rfl
  · obtain ⟨moves, held⟩ := hmoment.held (after_held rig id world turns)
    exact ⟨moves, held, held.sameOrigin⟩

end Stage

end BrowserFlow
