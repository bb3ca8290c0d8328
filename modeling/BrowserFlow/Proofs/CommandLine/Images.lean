import BrowserFlow.Page.Scripted
import BrowserFlow.Proofs.CommandLine.Drives
import BrowserFlow.Proofs.Session.Shots
import Mathlib.Data.List.Nodup

/-!
# The images in the reports of a run of the program

Every session of the program has a browser of its own, and every browser numbers its images from
zero; but all of them write into one directory. The reports of one session therefore show different
images (`Program.run_images_nodup_iff`), and those of different sessions show different images only
as long as their numbers are different: if no image fails, only if at most one of the reports shows
any. Two flows with an image each are enough for a second image over the first one
(`Program.run_images_not_nodup`).
-/

namespace BrowserFlow

/-! ## Images of two sessions -/

namespace Occurrence.Numbered

variable {web : WebConfig} {trace trace' : List Occurrence} {numbers numbers' : List Nat}

/-- The images of one session are different. -/
theorem images_nodup (h : Numbered web trace numbers) : (Occurrence.images trace).Nodup := by
  rw [h.images]
  have hnodup : numbers.Nodup := h.increasing.imp Nat.ne_of_lt
  exact hnodup.map (Web.imagePath_injective web)

/-- There are no images exactly if there are no numbers. -/
theorem images_eq_nil_iff (h : Numbered web trace numbers) :
    Occurrence.images trace = [] ↔ numbers = [] := by
  rw [h.images, List.map_eq_nil_iff]

/-- Two sessions share no image exactly if they share no number. -/
theorem images_disjoint_iff (h : Numbered web trace numbers) (h' : Numbered web trace' numbers') :
    (Occurrence.images trace).Disjoint (Occurrence.images trace') ↔ numbers.Disjoint numbers' := by
  have hinjective := Web.imagePath_injective web
  rw [h.images, h'.images]
  refine ⟨fun hdisjoint n hn hn' => ?_, List.disjoint_map hinjective⟩
  exact hdisjoint (List.mem_map_of_mem hn) (List.mem_map_of_mem hn')

/-- Two sessions in which no image failed share no image exactly if one of them has none. -/
theorem images_disjoint_iff_of_unfailing (h : Numbered web trace numbers)
    (h' : Numbered web trace' numbers') (hno : ∀ e, .called .screenshot (.error e) ∉ trace)
    (hno' : ∀ e, .called .screenshot (.error e) ∉ trace') :
    (Occurrence.images trace).Disjoint (Occurrence.images trace') ↔
      Occurrence.images trace = [] ∨ Occurrence.images trace' = [] := by
  rw [h.images_disjoint_iff h', h.images_eq_nil_iff, h'.images_eq_nil_iff]
  constructor
  · intro hdisjoint
    by_contra hsome
    obtain ⟨hn, hn'⟩ := not_or.mp hsome
    -- Both begin with zero.
    have hzero := List.mem_range.mpr (List.length_pos_iff.mpr hn)
    have hzero' := List.mem_range.mpr (List.length_pos_iff.mpr hn')
    rw [← h.of_unfailing hno] at hzero
    rw [← h'.of_unfailing hno'] at hzero'
    exact hdisjoint hzero hzero'
  · rintro (rfl | rfl)
    · exact List.disjoint_nil_left _
    · exact List.disjoint_nil_right _

end Occurrence.Numbered

namespace CommandLine

/-! ## Images of a run -/

variable {P : Type}

/-- What surrounds a run on the scripted page, with a clock that starts with 1970 and a listener that
prints every event at once. -/
def Surroundings.scripted : Surroundings ScriptedPage where
  environment := {}
  page := ScriptedPage.driver
  clock ms := ⟨ms⟩
  names := Text.decimal
  pace _ := Listener.stepsPerEvent

/-- The images that the reports of a session show. -/
def Drive.images (drive : Drive) : List String :=
  Occurrence.images drive.trace

namespace Program

open SessionOp (reached)

/-- The report of a session that is held for a flow shows images by growing numbers. -/
theorem visit_numbered (page : Page P) (web : WebConfig) (clock : Nat → Timestamp)
    (options : RunOptions) (config : RunConfig) (text name : String) (state : P) (files : Files) :
    let rig := Web.rig page web clock
    ∃ numbers, Occurrence.Numbered web ((visit options config text rig).reached
      (Stage.first rig name { page := state, files })).trace numbers := by
  intro rig
  -- Before its first call the session is blank.
  let blank : Stage (WebState P) := { session := { id := name }, world := { page := state, files } }
  have hkept : Kept rig (Stage.Numbering web) := Web.numbering_kept page web clock
  have hfirst : blank.Numbering web (Stage.first rig name { page := state, files }) :=
    hkept.call .subscribeConsole blank nofun
  have himages : Occurrence.images (Stage.first rig name { page := state, files }).trace = [] := rfl
  have hrun {t : Stage (WebState P)} (ht : blank.Numbering web t)
      (hnone : Occurrence.images t.trace = []) :=
    Flow.run_numbered page web clock config (Report.Store.directory config.reportDir) text ht
      rfl rfl rfl hnone
  rw [show Web.rig page web clock = rig from rfl] at hrun
  generalize Stage.first rig name { page := state, files } = first at hfirst himages ⊢
  unfold visit
  cases options.url with
  | none => exact hrun hfirst himages
  | some url =>
    -- The first page is opened before the run, and that shows no image.
    have hstart := hfirst.trans (hkept.start url first)
    have hnone := (SessionOp.start_images rig url first).trans himages
    dsimp only
    unfold reached at hstart hnone ⊢
    rw [SessionOp.bind_apply]
    cases h : SessionOp.start rig url first with
    | error e t =>
      rw [h] at hnone
      exact ⟨[], Occurrence.numbered_nil hnone⟩
    | ok _ t =>
      rw [h] at hstart hnone
      exact hrun hstart hnone

/-- The reports of a session that the program holds show images by growing numbers. -/
theorem Held.numbered {surroundings : Surroundings P} {options : RunOptions} {config : RunConfig}
    {drive : Drive} (h : Held surroundings options config drive) :
    ∃ numbers, Occurrence.Numbered
      (webConfigFor options config surroundings.environment.browser) drive.trace numbers := by
  obtain ⟨text, clock, name, page, files, htrace⟩ := h
  rw [htrace]
  exact visit_numbered surroundings.page _ clock options config text name page files

/-- In a run of the program the reports of each session show images by growing numbers. Over all its
sessions the images are different exactly if the sessions share no number; if no image failed, that
means that the reports of at most one session show any. -/
theorem run_images_nodup_iff (surroundings : Surroundings P) (arguments : List String) (page : P)
    (files : Files) :
    let drives := (run surroundings arguments { page, files }).2.drives
    ∃ (web : WebConfig) (numbers : Drive → List Nat),
      (∀ drive ∈ drives, Occurrence.Numbered web drive.trace (numbers drive)) ∧
      ((drives.flatMap Drive.images).Nodup ↔
        drives.Pairwise fun a b => (numbers a).Disjoint (numbers b)) ∧
      ((∀ drive ∈ drives, ∀ e, .called .screenshot (.error e) ∉ drive.trace) →
        ((drives.flatMap Drive.images).Nodup ↔
          drives.Pairwise fun a b => a.images = [] ∨ b.images = [])) := by
  intro drives
  obtain ⟨options, config, hheld⟩ := run_held surroundings arguments page files
  choose! numbers hnumbered using fun drive hdrive => (hheld drive hdrive).numbered
  have hnodup : (drives.flatMap Drive.images).Nodup ↔
      drives.Pairwise fun a b => a.images.Disjoint b.images := by
    rw [List.nodup_flatMap]
    exact and_iff_right fun drive hdrive => (hnumbered drive hdrive).images_nodup
  refine ⟨webConfigFor options config surroundings.environment.browser, numbers, hnumbered, ?_,
    fun hno => ?_⟩
  · exact hnodup.trans (List.Pairwise.iff_of_mem fun {a b} ha hb =>
      (hnumbered a ha).images_disjoint_iff (hnumbered b hb))
  · exact hnodup.trans (List.Pairwise.iff_of_mem fun {a b} ha hb =>
      (hnumbered a ha).images_disjoint_iff_of_unfailing (hnumbered b hb) (hno a ha) (hno b hb))

/-- Two flow files in one directory, each of which asks for an image. The second one waits for a
second before, so that its report is not written over the first one. -/
def twoFlows : Files where
  entries := [(["flows"], .directory false),
    (["flows", "a.flow"], .file (.text "1. Capture screenshot")),
    (["flows", "b.flow"], .file (.text "1. Aguarde 1\n2. Capture screenshot"))]
  working := []

/-- The directory with the two flow files stands for them. -/
theorem filesFor_twoFlows : filesFor { path := "flows" } twoFlows =
    .ok ["flows/a.flow", "flows/b.flow"] := by
  have hlookup : twoFlows.lookup "flows" = .ok (["flows"], .directory false) := rfl
  have hfound : (twoFlows.contents "flows").filterMap FlowFiles.flowFile? =
      ["flows/a.flow", "flows/b.flow"] := by
    decide +kernel
  unfold filesFor FlowFiles.find Files.isFile Files.isDirectory
  rw [hlookup]
  dsimp only
  rw [hfound, List.mergeSort_of_pairwise (by decide +kernel)]
  rfl

/-- When the two flow files are run, both reports show an image that was written to the same
place. -/
theorem run_images_not_nodup :
    let drives := (run Surroundings.scripted ["run", "flows"]
      { page := { script := {} }, files := twoFlows }).2.drives
    drives.map Drive.images = [["relatorios/screenshots/screenshot_0.png"],
        ["relatorios/screenshots/screenshot_0.png"]] ∧
      ¬ (drives.flatMap Drive.images).Nodup := by
  dsimp only
  rw [run_progressed Surroundings.scripted rfl rfl filesFor_twoFlows]
  decide +kernel

end Program

end CommandLine

end BrowserFlow
