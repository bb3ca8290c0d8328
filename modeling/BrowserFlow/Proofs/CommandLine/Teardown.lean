import BrowserFlow.Proofs.CommandLine.Itinerary

/-!
# Sending the browsers away

A run that begins sends its browser away, whatever happens in it, unless the browser is to stay
open. The program does not send browsers away itself, so a browser is sent away exactly if the
program comes to the run (`Program.run_dismissed`). It does not come to it if the browser is lost at
the first page: then the session is given up, and the browser that was started for it is left as it
is (`Program.run_not_dismissed`). Such a session is the last one.
-/

namespace BrowserFlow.CommandLine

open Occurrence (farewells farewells_append farewells_eq_zero)

variable {P : Type}

/-- The session was given up at the first page: the browser was lost there, and nothing else has
happened in the session. -/
def Drive.GivenUp (url : Option String) (drive : Drive) : Prop :=
  ∃ page collected reason, url = some page ∧ drive.trace =
    [.called .subscribeConsole collected, .called (.navigate page) (.error (.sessionLost reason))]

/-- The browsers of sessions were sent away once, but for the last one if that was given up. -/
structure Dismissed (url : Option String) (drives : List Drive) : Prop where
  /-- A session that was not given up has sent its browser away once. -/
  once : ∀ drive ∈ drives, ¬ drive.GivenUp url → farewells drive.trace = 1
  /-- A session that was given up has not sent its browser away. -/
  never : ∀ drive ∈ drives, drive.GivenUp url → farewells drive.trace = 0
  /-- Only the last session can have been given up. -/
  only_last : ∀ drive ∈ drives.dropLast, ¬ drive.GivenUp url

/-- A session that was given up has not sent its browser away. -/
theorem Drive.GivenUp.farewells_eq {url : Option String} {drive : Drive} (h : drive.GivenUp url) :
    farewells drive.trace = 0 := by
  obtain ⟨page, collected, reason, -, htrace⟩ := h
  rw [htrace]
  rfl

namespace Dismissed

variable {url : Option String} {drives : List Drive}

/-- Without sessions there is nothing to be sent away. -/
theorem nil : Dismissed url [] :=
  ⟨by simp, by simp, by simp⟩

/-- A session that has sent its browser away may come before others. -/
theorem cons {drive : Drive} (h : farewells drive.trace = 1) (later : Dismissed url drives) :
    Dismissed url (drive :: drives) where
  once := List.forall_mem_cons.mpr ⟨fun _ => h, later.once⟩
  never := by
    refine List.forall_mem_cons.mpr ⟨fun hup => ?_, later.never⟩
    exact hup.farewells_eq
  only_last other hother hup := by
    cases drives with
    | nil => simp at hother
    | cons next rest =>
      rw [List.dropLast_cons_cons, List.mem_cons] at hother
      rcases hother with rfl | hother
      · rw [hup.farewells_eq] at h
        cases h
      · exact later.only_last other hother hup

/-- A session that was given up may come last. -/
theorem givenUp {drive : Drive} (h : drive.GivenUp url) : Dismissed url [drive] where
  once := by simpa using fun hnot => absurd h hnot
  never := by simpa using fun hup : drive.GivenUp url => hup.farewells_eq
  only_last := by simp

end Dismissed

/-! ## One session -/

section Session

variable {W : Type} {rig : Rig W} {config : RunConfig} {store : Report.Store W}
  {url : Option String} {text : String} {s t u : Stage W}

/-- A session that meets its fate has sent the browser away once, unless it was given up. -/
theorem Visits.farewells_eq {fate : Fate} (h : Visits rig config store url text s fate t)
    (isOpen : s.session.closed = false) (unused : s.session.used = false)
    (hkeep : config.keepOpen = false) (opened : ∀ reason, fate ≠ .unopened reason) :
    farewells t.trace = farewells s.trace + 1 := by
  -- Opening the first page does not send the browser away, and leaves the session as it was.
  have hrun {u t : Stage W} (opens : Opens rig url s u)
      (hreached : (Flow.run rig config store text).reached u = t) :
      farewells t.trace = farewells s.trace + 1 := by
    obtain ⟨told, records, stays, -, hadvances⟩ := opens.advances
    have hfarewells := Flow.run_farewells rig config store text
      (hadvances.closed.trans isOpen) (hadvances.used.trans unused)
    rw [hkeep, if_neg (by simp)] at hfarewells
    rw [← hreached, hfarewells, hadvances.trace, farewells_append, farewells_eq_zero stays]
  cases h with
  | unopened => exact absurd rfl (opened _)
  | failed opens run_eq => exact hrun opens (by rw [SessionOp.reached, run_eq])
  | ran opens run_eq => exact hrun opens (by rw [SessionOp.reached, run_eq])

end Session

/-! ## The sessions of the program -/

section Files

variable {surroundings : Surroundings P} {web : WebConfig} {config : RunConfig}
  {url : Option String} {p q : Progress P}

/-- A flow file adds no session, or one that has sent its browser away, or one that was given up;
this is then what ends the program. -/
theorem Meets.drives_eq {file : Path} {fate : Fate}
    (h : Meets surroundings web config url file p fate q) (hkeep : config.keepOpen = false) :
    (q.drives = p.drives ∧ ∀ results, fate ≠ .ran results) ∨
      ∃ drive : Drive, q.drives = p.drives ++ [drive] ∧ (farewells drive.trace = 1 ∨
        drive.GivenUp url ∧ ∀ results, fate ≠ .ran results) := by
  cases h with
  | unread => exact .inl ⟨rfl, nofun⟩
  | unstarted => exact .inl ⟨rfl, nofun⟩
  | @held text start q fate t _ _ started visits =>
    subst started
    refine .inr ⟨⟨file, t.trace⟩, rfl, ?_⟩
    -- Without a first page there is no run, and nobody sends the browser away.
    by_cases hopened : ∃ reason, fate = .unopened reason
    · obtain ⟨reason, rfl⟩ := hopened
      cases visits with
      | unopened url_eq lost => exact .inr ⟨⟨_, _, _, url_eq, by rw [← lost]; rfl⟩, nofun⟩
    · exact .inl (visits.farewells_eq rfl rfl hkeep fun reason heq => hopened ⟨reason, heq⟩)

/-- On an itinerary all sessions send their browsers away, but for the last one if that is given
up. -/
theorem Itinerary.dismissed {files : List Path} {fates : List Fate}
    (h : Itinerary surroundings web config url p files fates q) (hkeep : config.keepOpen = false) :
    ∃ new, q.drives = p.drives ++ new ∧ Dismissed url new := by
  induction h with
  | done => exact ⟨[], (List.append_nil _).symm, .nil⟩
  | next meets _ ih =>
    -- A file that is followed by others has not been given up.
    obtain ⟨new, hnew, hdismissed⟩ := ih
    obtain ⟨-, hran⟩ | ⟨drive, hdrives, hsent | ⟨-, hran⟩⟩ := meets.drives_eq hkeep
    · exact absurd rfl (hran _)
    · exact ⟨drive :: new, by rw [hnew, hdrives, List.append_assoc]; rfl, hdismissed.cons hsent⟩
    · exact absurd rfl (hran _)
  | last meets _ =>
    obtain ⟨hdrives, -⟩ | ⟨drive, hdrives, hsent | ⟨hup, -⟩⟩ := meets.drives_eq hkeep
    · exact ⟨[], by rw [hdrives, List.append_nil], .nil⟩
    · exact ⟨[drive], hdrives, .cons hsent .nil⟩
    · exact ⟨[drive], hdrives, .givenUp hup⟩

end Files

namespace Program

variable (surroundings : Surroundings P)

/-- If browsers are not to stay open, every session of a run of the program sends its browser away
once, but for one that is given up at its first page. -/
theorem run_dismissed {arguments : List String} {options : RunOptions} {files : Files}
    (hread : Request.read arguments = .ok (.run options))
    (hkeep : ∀ config, configFor options files = .ok config → config.keepOpen = false) (page : P) :
    Dismissed options.url (run surroundings arguments { page, files }).2.drives := by
  rw [(run_of_read surroundings hread { page, files }).1]
  rcases runFlows_cases surroundings options { page, files } with
    ⟨⟨e, hflows⟩, -⟩ | ⟨config, paths, fates, q, hconfig, -, hitinerary, -, hflows⟩
  · rw [progressed, hflows]
    exact .nil
  · -- Telling what is going to be run has not added a session.
    have hnone : (progressed (announce surroundings.environment.asksForColour options config
        paths) { page, files }).drives = [] := by
      unfold announce
      cases options.url <;> rfl
    obtain ⟨new, hnew, hdismissed⟩ := hitinerary.dismissed (hkeep config hconfig)
    rwa [progressed_of_ending hflows, hnew, hnone]

/-- Where the second browser is lost at its first page, the session of the first flow file has sent
its browser away, and that of the second one is given up. -/
theorem run_dismissed_closing :
    let surroundings := failingLater "Target closed"
    let arguments := ["run", "flows", "--url", "https://example.org"]
    let options : RunOptions := { path := "flows", url := some "https://example.org" }
    let drives :=
      (run surroundings arguments { page := { script := {} }, files := twoFlows }).2.drives
    Request.read arguments = .ok (.run options) ∧
      (∀ config, configFor options twoFlows = .ok config → config.keepOpen = false) ∧
      drives.map (farewells ·.trace) = [1, 0] ∧ Dismissed options.url drives := by
  intro surroundings arguments options drives
  have hread : Request.read arguments = .ok (.run options) := rfl
  have hkeep : ∀ config, configFor options twoFlows = .ok config → config.keepOpen = false := by
    intro config hconfig
    cases hconfig
    rfl
  have hfarewells : drives.map (farewells ·.trace) = [1, 0] := by
    have hdrives : drives = (progressed _ _).drives :=
      congrArg Progress.drives (run_progressed surroundings hread rfl filesFor_twoFlows)
    rw [hdrives]
    decide +kernel
  exact ⟨hread, hkeep, hfarewells, run_dismissed surroundings hread hkeep { script := {} }⟩

/-- A file with a flow of one step. -/
def oneFlow : Files where
  entries := [(["a.flow"], .file (.text "1. Volte"))]
  working := []

/-- A page whose browser is lost when an address is to be opened. -/
def closing : ScriptedPage where
  script := { rules := [⟨"goto", none, "Target closed", none⟩] }

/-- On that page, a browser is started that is not to stay open, and it is not sent away: these are
all the calls that the library gets. -/
theorem run_not_dismissed :
    let arguments := ["run", "a.flow", "--url", "https://example.org"]
    let options : RunOptions := { path := "a.flow", url := some "https://example.org" }
    let q := (run Surroundings.scripted arguments { page := closing, files := oneFlow }).2
    (configFor options oneFlow).map (·.keepOpen) = .ok false ∧
      q.page.calls = [.initialize_, .launch .chromium false none, .newContext, .newPage,
        .setViewportSize 1280 720, .subscribeEvents, .goto "https://example.org"] ∧
      q.drives.map (farewells ·.trace) = [0] := by
  decide +kernel

end Program

end BrowserFlow.CommandLine
