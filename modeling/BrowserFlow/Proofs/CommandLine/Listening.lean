import BrowserFlow.Proofs.CommandLine.Itinerary
import Mathlib.Data.List.Induction

/-!
# What the listener prints

The listener runs beside the program, which does not decide how far it gets meanwhile. Where its
lines stand in the output is therefore left open; what they are is not. `Listener.Follows` says that
a listener has printed, of certain events, all lines but those that it has still to print. A step of
the listener keeps that (`Follows.step`), an event that is sent adds itself (`Follows.send`), and so
by induction over the flow files of a run the listener prints the lines of all events that were not
lost (`Program.run_heard`).

Events are lost only where the channel is full. It never is if no more events are sent than it
holds, or if the listener is quick enough to print every event before the next one: what it has to
do for one event is at most `Listener.stepsPerEvent` steps (`Listener.work_run`).
-/

namespace BrowserFlow

namespace Channel

variable {channel : Channel}

/-- What the watcher gets next is the first of all that it gets. -/
theorem notices_of_receive? {channel' : Channel} {notice : Notice}
    (h : channel.receive? = some (notice, channel')) :
    channel.notices = notice :: channel'.notices := by
  unfold receive? at h
  by_cases hmissed : channel.missed = 0
  · rw [if_pos hmissed] at h
    cases hkept : channel.kept with
    | nil => simp [hkept] at h
    | cons event kept =>
      rw [hkept] at h
      cases h
      simp [notices, hmissed, hkept]
  · rw [if_neg hmissed] at h
    cases h
    simp [notices, hmissed]

/-- The watcher gets nothing exactly if there is nothing to be got. -/
theorem receive?_eq_none_iff : channel.receive? = none ↔ channel.notices = [] := by
  unfold receive? notices
  by_cases hmissed : channel.missed = 0
  · cases channel.kept <;> simp [hmissed]
  · simp [hmissed]

/-- As long as there is room, an event that is sent is kept. -/
theorem send_of_room (room : channel.kept.length < capacity) (event : Event) :
    channel.send event = { channel with kept := channel.kept ++ [event] } :=
  if_pos room

/-- If there is no room, the oldest event makes room for the one that is sent. -/
theorem send_of_full (full : ¬ channel.kept.length < capacity) (event : Event) :
    channel.send event = { missed := channel.missed + 1, kept := channel.kept.tail ++ [event] } :=
  if_neg full

/-- As long as nobody gets anything, the channel keeps the last events, and counts the others. -/
theorem foldl_send (events : List Event) :
    events.foldl send {} =
      { missed := events.length - capacity, kept := events.drop (events.length - capacity) } := by
  induction events using List.reverseRecOn with
  | nil => rfl
  | append_singleton events event ih =>
    rw [List.foldl_append, List.foldl_cons, List.foldl_nil, ih, List.length_append,
      List.length_singleton]
    have hcapacity : 0 < capacity := by decide
    by_cases room : events.length < capacity
    · have hnone : events.length - capacity = 0 := by omega
      have hnone' : events.length + 1 - capacity = 0 := by omega
      rw [send_of_room (by rwa [hnone]), hnone, hnone']
      rfl
    · have hone : events.length + 1 - capacity = events.length - capacity + 1 := by omega
      rw [send_of_full (by rw [List.length_drop]; omega), hone, List.tail_drop,
        List.drop_append_of_le_length (by omega)]

/-- A watcher that looks when everything has been sent is told how many events it has lost, if it has
lost any, and gets the others. -/
theorem foldl_send_notices (events : List Event) :
    (events.foldl send {}).notices =
      if events.length ≤ capacity then events.map .event
      else .lagged (events.length - capacity) ::
        (events.drop (events.length - capacity)).map .event := by
  rw [foldl_send, notices]
  by_cases few : events.length ≤ capacity
  · rw [if_pos few, if_pos (Nat.sub_eq_zero_of_le few), Nat.sub_eq_zero_of_le few, List.drop_zero]
  · rw [if_neg few, if_neg (Nat.sub_ne_zero_of_lt (Nat.lt_of_not_le few))]

end Channel

namespace CommandLine

namespace Watcher

/-- What a watcher remembers after some events. -/
def after (watcher : Watcher) (events : List Event) : Watcher :=
  events.foldl next watcher

/-- What is printed for more events comes behind what is printed for the first ones. -/
theorem watch_append (coloured : Bool) (watcher : Watcher) (first more : List Event) :
    watcher.watch coloured (first ++ more) =
      watcher.watch coloured first ++ (watcher.after first).watch coloured more := by
  induction first generalizing watcher with
  | nil => rfl
  | cons event first ih =>
    rw [List.cons_append, watch, ih, watch, List.append_assoc]
    rfl

/-- Getting one more event, a watcher remembers what comes next. -/
theorem after_concat (watcher : Watcher) (events : List Event) (event : Event) :
    watcher.after (events ++ [event]) = (watcher.after events).next event := by
  unfold after
  rw [List.foldl_append]
  rfl

/-- For no event there are more lines than the listener has time for. -/
theorem length_lines_lt (coloured : Bool) (watcher : Watcher) (event : Event) :
    (watcher.lines coloured event).length < Listener.stepsPerEvent := by
  cases event <;> cases watcher <;> simp [lines, stepLines, Listener.stepsPerEvent]

end Watcher

namespace Listener

variable {coloured : Bool} {events : List Event} {printed : List String} {listener : Listener}

/-- How many steps the listener has to take at most. -/
def work (listener : Listener) : Nat :=
  listener.pending.length + stepsPerEvent * listener.channel.kept.length +
    if listener.channel.missed = 0 then 0 else 1

/-- A step is done, if there is anything to do. -/
theorem work_step (coloured : Bool) (listener : Listener) :
    (listener.step coloured).2.work ≤ listener.work - 1 := by
  rcases listener with ⟨⟨missed, kept⟩, watcher, _ | ⟨line, pending⟩⟩
  · rcases kept with _ | ⟨event, kept⟩ <;> by_cases hmissed : missed = 0
    · simp [step, Channel.receive?, hmissed, work]
    · simp [step, Channel.receive?, hmissed, work]
    · have hlines := watcher.length_lines_lt coloured event
      simp only [step, Channel.receive?, hmissed, work, ↓reduceIte, List.length_nil,
        List.length_cons, Nat.mul_succ]
      omega
    · simp [step, Channel.receive?, hmissed, work]
  · show pending.length + stepsPerEvent * kept.length + (if missed = 0 then 0 else 1) ≤
      pending.length + 1 + stepsPerEvent * kept.length + (if missed = 0 then 0 else 1) - 1
    omega

/-- In so many steps, so much is done. -/
theorem work_run (coloured : Bool) (n : Nat) (listener : Listener) :
    (listener.run coloured n).2.work ≤ listener.work - n := by
  induction n generalizing listener with
  | zero => exact Nat.le_refl _
  | succ n ih =>
    have hstep := work_step coloured listener
    have hrest := ih (listener.step coloured).2
    have hrun : (listener.run coloured (n + 1)).2 =
        ((listener.step coloured).2.run coloured n).2 := rfl
    rw [hrun]
    omega

/-- Of these events the listener has printed all lines but those that it has still to print. -/
def Follows (coloured : Bool) (events : List Event) (printed : List String)
    (listener : Listener) : Prop :=
  ∃ got, events = got ++ listener.channel.kept ∧ listener.watcher = Watcher.after none got ∧
    printed ++ listener.pending = Watcher.watch coloured none got

/-- In the beginning there are no events. -/
theorem follows_nil : Follows coloured [] [] {} := ⟨[], rfl, rfl, rfl⟩

namespace Follows

/-- A step of the listener prints what is next. -/
theorem step (h : Follows coloured events printed listener) :
    Follows coloured events (printed ++ (listener.step coloured).1) (listener.step coloured).2 := by
  obtain ⟨got, hevents, hwatcher, hprinted⟩ := h
  rcases listener with ⟨⟨missed, kept⟩, watcher, _ | ⟨line, pending⟩⟩
  · -- Nothing is printed. An event that the listener gets leaves its lines to be printed.
    rw [List.append_nil] at hprinted
    rcases kept with _ | ⟨event, kept⟩ <;> by_cases hmissed : missed = 0 <;>
      simp only [Listener.step, Channel.receive?, hmissed, ↓reduceIte, List.append_nil]
    · exact ⟨got, hevents, hwatcher, by rw [hprinted, List.append_nil]⟩
    · exact ⟨got, hevents, hwatcher, by rw [hprinted, List.append_nil]⟩
    · refine ⟨got ++ [event], ?_, ?_, ?_⟩
      · rw [hevents, List.append_assoc]
        rfl
      · rw [Watcher.after_concat, ← hwatcher]
      · rw [Watcher.watch_append, ← hwatcher, hprinted]
        simp [Watcher.watch]
    · exact ⟨got, hevents, hwatcher, by rw [hprinted, List.append_nil]⟩
  · -- A line is printed.
    exact ⟨got, hevents, hwatcher, by simpa [Listener.step] using hprinted⟩

/-- Some steps of the listener print what is next. -/
theorem run (n : Nat) (h : Follows coloured events printed listener) :
    Follows coloured events (printed ++ (listener.run coloured n).1)
      (listener.run coloured n).2 := by
  induction n generalizing listener printed with
  | zero =>
    rw [show (listener.run coloured 0).1 = [] from rfl, List.append_nil]
    exact h
  | succ n ih =>
    have hrun := ih h.step
    rw [List.append_assoc] at hrun
    exact hrun

/-- An event that is sent is the last one, and if the channel is full, an older one is lost. -/
theorem send (h : Follows coloured events printed listener) (event : Event) :
    ∃ events', events'.Sublist (events ++ [event]) ∧
      (listener.channel.kept.length < Channel.capacity → events' = events ++ [event]) ∧
      Follows coloured events' printed (listener.send event) := by
  obtain ⟨got, hevents, hwatcher, hprinted⟩ := h
  unfold Listener.send
  by_cases room : listener.channel.kept.length < Channel.capacity
  · refine ⟨events ++ [event], List.Sublist.refl _, fun _ => rfl, got, ?_, hwatcher, hprinted⟩
    rw [Channel.send_of_room room, hevents, List.append_assoc]
  · refine ⟨got ++ (listener.channel.kept.tail ++ [event]), ?_, fun h => absurd h room, got, ?_,
      hwatcher, hprinted⟩
    · rw [hevents, List.append_assoc]
      exact ((List.tail_sublist _).append_right _).append_left _
    · rw [Channel.send_of_full room]

/-- When also the listener has come to its end, all lines have been printed. -/
theorem remaining (h : Follows coloured events printed listener) :
    printed ++ listener.remaining coloured = Watcher.watch coloured none events := by
  obtain ⟨got, hevents, hwatcher, hprinted⟩ := h
  rw [Listener.remaining, ← List.append_assoc, hprinted, hevents, Watcher.watch_append, hwatcher]

end Follows

end Listener

/-- The line, if the listener has printed it. -/
def Print.heard? : Print → Option String
  | .heard line => some line
  | .told _ => none

/-- The lines of the listener among what is printed. -/
def Print.lines (printed : List Print) : List String :=
  printed.filterMap heard?

/-- Lines of the listener are lines of the listener. -/
theorem Print.lines_append_map (printed : List Print) (lines : List String) :
    Print.lines (printed ++ lines.map .heard) = Print.lines printed ++ lines := by
  unfold Print.lines
  rw [List.filterMap_append, List.filterMap_map]
  congr 1
  exact List.filterMap_some

/-- The events of some sessions. -/
def Drive.events (drives : List Drive) : List Event :=
  drives.flatMap fun drive => drive.trace.filterMap Occurrence.event?

variable {P : Type} {surroundings : Surroundings P}

/-- The listener goes on quickly enough to print an event before anything else happens. -/
def Surroundings.Prompt (surroundings : Surroundings P) : Prop :=
  ∀ n, Listener.stepsPerEvent ≤ surroundings.pace n

namespace Progress

/-- These events have been sent, and the listener follows those that were not lost. None were if the
channel has never had to hold too many; a prompt listener has nothing left to do. -/
structure Followed (surroundings : Surroundings P) (sent : List Event) (p : Progress P) : Prop where
  /-- The listener follows some of the events, all of them if the channel suffices. -/
  follows : ∃ events : List Event, events.Sublist sent ∧
    (surroundings.Prompt ∨ sent.length ≤ Channel.capacity → events = sent) ∧
    Listener.Follows surroundings.environment.asksForColour events (Print.lines p.printed)
      p.listener
  /-- A prompt listener has nothing left to do. -/
  idle : surroundings.Prompt → p.listener.work = 0

variable {sent : List Event} {p : Progress P}

/-- The listener goes on with what was sent. -/
theorem Followed.listen_of_work (follows : ∃ events : List Event, events.Sublist sent ∧
      (surroundings.Prompt ∨ sent.length ≤ Channel.capacity → events = sent) ∧
      Listener.Follows surroundings.environment.asksForColour events (Print.lines p.printed)
        p.listener)
    (few : surroundings.Prompt → p.listener.work ≤ Listener.stepsPerEvent) :
    (p.listen surroundings).Followed surroundings sent where
  follows := by
    obtain ⟨events, hsome, hall, hfollows⟩ := follows
    refine ⟨events, hsome, hall, ?_⟩
    have hrun := hfollows.run (surroundings.pace p.turns)
    rw [← Print.lines_append_map] at hrun
    exact hrun
  idle prompt := by
    have hwork := Listener.work_run surroundings.environment.asksForColour
      (surroundings.pace p.turns) p.listener
    have hpace := prompt p.turns
    have hfew := few prompt
    show (p.listener.run _ _).2.work = 0
    omega

/-- An event is sent, and the listener goes on. -/
theorem Followed.send (h : p.Followed surroundings sent) (event : Event) :
    (p.send surroundings event).Followed surroundings (sent ++ [event]) := by
  obtain ⟨events, hsome, hall, hfollows⟩ := h.follows
  obtain ⟨events', hsome', hall', hfollows'⟩ := hfollows.send event
  refine listen_of_work ⟨events', hsome'.trans (hsome.append_right _), fun suffices_ => ?_,
    hfollows'⟩ fun prompt => ?_
  · -- The channel has room: it is empty, or it holds some of what was sent before.
    have hbefore : surroundings.Prompt ∨ sent.length < Channel.capacity :=
      suffices_.imp_right fun hlength => by simpa [Nat.succ_le_iff] using hlength
    have hroom : p.listener.channel.kept.length < Channel.capacity := by
      rcases hbefore with prompt | hlength
      · have hidle := h.idle prompt
        unfold Listener.work Listener.stepsPerEvent at hidle
        unfold Channel.capacity
        omega
      · obtain ⟨got, hevents, -⟩ := hfollows
        have hle := hsome.length_le
        rw [hevents, List.length_append] at hle
        omega
    rw [hall' hroom, hall (hbefore.imp_right Nat.le_of_lt)]
  · -- One event is all that there is to do.
    have hidle := h.idle prompt
    have hnone : p.listener.channel.kept.length = 0 := by
      unfold Listener.work Listener.stepsPerEvent at hidle
      omega
    show (p.listener.send event).work ≤ _
    unfold Listener.work Listener.stepsPerEvent at *
    rw [Listener.send, Channel.send_of_room (by rw [hnone]; decide)]
    simp only [List.length_append, List.length_singleton]
    omega

/-- Some events are sent one after another. -/
theorem Followed.foldl_send (h : p.Followed surroundings sent) (events : List Event) :
    (events.foldl (Progress.send surroundings) p).Followed surroundings (sent ++ events) := by
  induction events generalizing p sent with
  | nil => rwa [List.append_nil]
  | cons event events ih =>
    rw [List.append_cons]
    exact ih (h.send event)

/-- What the program prints itself is none of the listener's lines. -/
theorem Followed.told (h : p.Followed surroundings sent) (text : String) :
    ({ p with printed := p.printed ++ [.told text] } : Progress P).Followed surroundings sent where
  follows := by
    have hheard : Print.lines (p.printed ++ [Print.told text]) = Print.lines p.printed := by
      simp [Print.lines, Print.heard?]
    dsimp only
    rw [hheard]
    exact h.follows
  idle := h.idle

/-- A flow file is named, and the listener goes on. -/
theorem Followed.named (h : p.Followed surroundings sent) (file : Path) :
    (p.named surroundings file).Followed surroundings sent :=
  have htold := h.told _
  listen_of_work htold.follows fun prompt =>
    Nat.le_trans (Nat.le_of_eq (htold.idle prompt)) (Nat.zero_le _)

/-- The listener prints the lines of the events that were not lost, the last of them when it comes
to its end. -/
theorem Followed.finished (h : p.Followed surroundings sent) :
    ∃ events : List Event, events.Sublist sent ∧
      (surroundings.Prompt ∨ sent.length ≤ Channel.capacity → events = sent) ∧
      Print.lines p.printed <+: Watcher.watch surroundings.environment.asksForColour none events ∧
      Print.lines (p.finished surroundings) =
        Watcher.watch surroundings.environment.asksForColour none events := by
  obtain ⟨events, hsome, hall, hfollows⟩ := h.follows
  refine ⟨events, hsome, hall, ⟨_, hfollows.remaining⟩, ?_⟩
  rw [Progress.finished, Print.lines_append_map]
  exact hfollows.remaining

end Progress

/-- The listener follows the events of a flow file. -/
theorem Meets.followed {web : WebConfig} {config : RunConfig} {url : Option String} {file : Path}
    {p q : Progress P} {fate : Fate} (h : Meets surroundings web config url file p fate q)
    (hp : p.Followed surroundings (Drive.events p.drives)) :
    q.Followed surroundings (Drive.events q.drives) := by
  have hnamed := hp.named file
  cases h with
  | unread => exact hnamed
  | unstarted => exact ⟨hnamed.follows, hnamed.idle⟩
  | @held text start q fate t _ _ started visits =>
    have hstarted : q.Followed surroundings (Drive.events p.drives) := by
      rw [started]
      exact ⟨hnamed.follows, hnamed.idle⟩
    have hevents : Drive.events (q.seen surroundings file t).drives =
        Drive.events p.drives ++ t.events := by
      have hdrives : (q.seen surroundings file t).drives = q.drives ++ [⟨file, t.trace⟩] := rfl
      rw [hdrives, started]
      unfold Drive.events
      rw [List.flatMap_append, List.flatMap_singleton]
      rfl
    rw [hevents]
    have hsent := hstarted.foldl_send t.events
    exact ⟨hsent.follows, hsent.idle⟩

/-- So it does with those of all flow files. -/
theorem Itinerary.followed {web : WebConfig} {config : RunConfig} {url : Option String}
    {p q : Progress P} {files : List Path} {fates : List Fate}
    (h : Itinerary surroundings web config url p files fates q)
    (hp : p.Followed surroundings (Drive.events p.drives)) :
    q.Followed surroundings (Drive.events q.drives) := by
  induction h with
  | done => exact hp
  | next meets _ ih => exact ih (meets.followed hp)
  | last meets _ => exact meets.followed hp

namespace Program

/-- What a run prints: if it ends without an error, also what the listener prints at last, and
otherwise only what has been printed so far. -/
theorem run_printed (surroundings : Surroundings P) {arguments : List String}
    {options : RunOptions} (hread : Request.read arguments = .ok (.run options)) (p : Progress P) :
    let output := (run surroundings arguments p).1
    let q := (run surroundings arguments p).2
    (output.stderr = "" ∧
        output.stdout = String.join ((q.finished surroundings).map Print.text)) ∨
      output.stderr ≠ "" ∧ output.stdout = String.join (q.printed.map Print.text) := by
  rw [run_apply surroundings hread]
  cases runFlows surroundings options p with
  | ok failures q => exact .inl ⟨rfl, rfl⟩
  | error e q => exact .inr ⟨by simp, rfl⟩

/-- A run prints lines of its own, and between them, whatever the pace of the listener, the lines of
the events of all sessions, in order, but for events that were lost; none were if there are no more
than the channel holds, or if the listener is prompt. If the run ends in an error, the last lines may
be missing. -/
theorem run_heard (surroundings : Surroundings P) {arguments : List String} {options : RunOptions}
    (hread : Request.read arguments = .ok (.run options)) (page : P) (files : Files) :
    let output := (run surroundings arguments { page, files }).1
    let sent := Drive.events (run surroundings arguments { page, files }).2.drives
    ∃ (printed : List Print) (events : List Event),
      output.stdout = String.join (printed.map Print.text) ∧ events.Sublist sent ∧
      (surroundings.Prompt ∨ sent.length ≤ Channel.capacity → events = sent) ∧
      Print.lines printed <+: Watcher.watch surroundings.environment.asksForColour none events ∧
      (output.stderr = "" → Print.lines printed =
        Watcher.watch surroundings.environment.asksForColour none events) := by
  intro output sent
  have hfirst : ({ page, files } : Progress P).Followed surroundings [] :=
    ⟨⟨[], .refl _, fun _ => rfl, Listener.follows_nil⟩, fun _ => rfl⟩
  have hfollowed : (run surroundings arguments { page, files }).2.Followed surroundings sent := by
    simp only [sent]
    rw [(run_of_read surroundings hread { page, files }).1]
    rcases runFlows_cases surroundings options { page, files } with
      ⟨⟨e, hflows⟩, -⟩ | ⟨config, paths, fates, q, -, -, hitinerary, -, hflows⟩
    · rw [progressed, hflows]
      exact hfirst
    · rw [progressed_of_ending hflows]
      refine hitinerary.followed ?_
      unfold announce
      cases options.url with
      | none => exact (hfirst.told _).told _
      | some url => exact ((hfirst.told _).told _).told _
  obtain ⟨events, hsome, hall, hprinted, hfinished⟩ := hfollowed.finished
  rcases run_printed surroundings hread { page, files } with ⟨-, hout⟩ | ⟨hfailed, hout⟩
  · exact ⟨_, events, hout, hsome, hall, hfinished ▸ List.prefix_refl _, fun _ => hfinished⟩
  · exact ⟨_, events, hout, hsome, hall, hprinted, fun hnone => absurd hnone hfailed⟩

end Program

end CommandLine

end BrowserFlow
