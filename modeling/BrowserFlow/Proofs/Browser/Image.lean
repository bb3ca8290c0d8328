import Mathlib.Tactic.SplitIfs
import BrowserFlow.Proofs.Browser.Dialogue

/-!
# Images and their numbers

A browser writes its images into one directory, each under the next number. No other call touches
the numbers (`Web.call_shots`), and no time that passes (`Web.idle_shots`), so that the numbers tell
in which order the images were taken. `Web.Shot` says what may become of a number: it is not used
if the directory cannot be made, and otherwise it is used up, whether there is an image or not.
-/

namespace BrowserFlow

variable {P α β : Type}

namespace Web

/-- Where the image with a number is written. -/
def imagePath (config : WebConfig) (number : Nat) : Path :=
  Path.join config.screenshotDir ("screenshot_" ++ Text.decimal number ++ ".png")

/-- Images with different numbers are written to different places. -/
theorem imagePath_injective (config : WebConfig) : Function.Injective (imagePath config) := by
  intro m n h
  have hname : "screenshot_" ++ Text.decimal m ++ ".png" =
      "screenshot_" ++ Text.decimal n ++ ".png" := by
    unfold imagePath Path.join at h
    split_ifs at h
    · exact (String.append_right_inj _).mp h
    · exact (String.append_right_inj _).mp h
  have hdecimal : Text.decimal m = Text.decimal n :=
    (String.append_right_inj _).mp ((String.append_left_inj _).mp hname)
  have hdigits : Nat.toDigits 10 m = Nat.toDigits 10 n := String.ofList_injective hdecimal
  rw [← Nat.ofDigitChars_ten_toDigits (n := m), hdigits, Nat.ofDigitChars_ten_toDigits]

/-! ## What uses up no number -/

end Web

/-- What happens on a page uses up no number. -/
@[simp]
theorem WebState.observe_shots (state : WebState P) (events : List PageEvent) :
    (state.observe events).shots = state.shots := by
  unfold observe
  split <;> rfl

namespace Web

/-- Whatever becomes of an operation, it uses up no number. -/
def Numberless (op : PageOp P α) : Prop :=
  ∀ state, ∃ r after, op state = ended r after ∧ after.shots = state.shots

namespace Numberless

variable {op : PageOp P α}

/-- Questions to the library use up no number. -/
theorem ask (page : Page P) (c : PageCall) : Numberless (ask page c) := fun state =>
  ⟨_, _, ask_apply page c state, WebState.observe_shots ..⟩

/-- Letting time pass uses up no number. -/
theorem linger (page : Page P) (ms : Nat) : Numberless (linger page ms) := fun state =>
  ⟨_, _, linger_apply page ms state, WebState.observe_shots ..⟩

/-- Returning a value uses up no number. -/
theorem pure (a : α) : Numberless (pure a : PageOp P α) := fun state =>
  ⟨.ok a, state, rfl, rfl⟩

/-- Failing uses up no number. -/
theorem throw (e : BrowserError) : Numberless (throw e : PageOp P α) := fun state =>
  ⟨.error e, state, rfl, rfl⟩

/-- A sequence uses up no number if its parts do not. -/
theorem bind {next : α → PageOp P β} (h : Numberless op) (hnext : ∀ a, Numberless (next a)) :
    Numberless (op >>= next) := by
  intro state
  obtain ⟨r, after, hop, hafter⟩ := h state
  rw [bind_apply hop]
  cases r with
  | error e => exact ⟨.error e, after, rfl, hafter⟩
  | ok a =>
    obtain ⟨r, last, hlast, hshots⟩ := hnext a after
    exact ⟨r, last, hlast, hshots.trans hafter⟩

/-- Two ways use up no number if neither of them does. -/
theorem catching {other : BrowserError → PageOp P α} (h : Numberless op)
    (hother : ∀ e, Numberless (other e)) : Numberless (tryCatch op other) := by
  intro state
  obtain ⟨r, after, hop, hafter⟩ := h state
  rw [tryCatch_apply hop]
  cases r with
  | ok a => exact ⟨.ok a, after, rfl, hafter⟩
  | error e =>
    obtain ⟨r, last, hlast, hshots⟩ := hother e after
    exact ⟨r, last, hlast, hshots.trans hafter⟩

/-- A reply uses up no number if the operation does not. -/
theorem reply {op : PageOp P α} (h : Numberless op) (state : WebState P) :
    (reply op state).2.shots = state.shots := by
  obtain ⟨r, after, hop, hafter⟩ := h state
  rw [reply_apply hop]
  exact hafter

end Numberless

/-- The search for an element uses up no number. -/
theorem resolve_numberless (page : Page P) (locators : List Locator) :
    Numberless (resolve page locators) := by
  induction locators with
  | nil => exact .pure none
  | cons locator rest ih =>
    refine (Numberless.ask page _).bind ?_
    rintro (_ | _)
    · exact ih
    · exact .pure _

/-- The search for an element that must be there uses up no number. -/
theorem find_numberless (page : Page P) (target : Target) : Numberless (find page target) := by
  refine (resolve_numberless page target.locators).bind ?_
  rintro (_ | selector)
  · exact .throw _
  · exact .pure selector

/-- Whatever a browser is asked but for an image, it uses up no number. -/
theorem perform_numberless (page : Page P) (config : WebConfig) {c : Call}
    (hc : c ≠ .screenshot) : Numberless (perform page config c) := by
  cases c with
  | screenshot => exact absurd rfl hc
  | wait => exact .linger page _
  | subscribeConsole | navigate | goBack | reload | scrollToBottom | title | url | close =>
    exact .ask page _
  | click | fill | check | uncheck | scrollIntoView | textContent =>
    exact (find_numberless page _).bind fun _ => .ask page _
  | selectOption target value =>
    refine (find_numberless page target).bind fun _ => ?_
    exact (Numberless.ask page _).catching fun _ => .ask page _
  | pressKey => exact (Numberless.ask page _).bind fun _ => .ask page _
  | isVisible target =>
    refine (resolve_numberless page target.locators).bind ?_
    rintro (_ | selector)
    · exact .pure false
    · exact .ask page _
  | isPresent target => exact (resolve_numberless page target.locators).bind fun _ => .pure _

/-- A call uses up no number, unless it asks for an image. -/
theorem call_shots (page : Page P) (config : WebConfig) {c : Call} (hc : c ≠ .screenshot)
    (state : WebState P) : ((browser page config).call c state).2.shots = state.shots :=
  (perform_numberless page config hc).reply state

/-- Time that passes uses up no number. -/
theorem idle_shots (page : Page P) (config : WebConfig) (ms : Nat) (state : WebState P) :
    ((browser page config).idle ms state).2.shots = state.shots :=
  (Numberless.linger page ms).reply state

/-! ## Taking an image -/

/-- How making the directory for images ends. -/
def preparation (config : WebConfig) (files : Files) : Except BrowserError Unit × Files :=
  match Files.makeDirectories config.screenshotDir files with
  | .ok _ files => (.ok (), files)
  | .error e files => (.error (.ofChain ((ErrorChain.ofText e.message).context
      ("Failed to create screenshot dir: " ++ config.screenshotDir))), files)

/-- Making the directory for images changes nothing but the files, and may fail. -/
theorem makeScreenshotDir_apply (config : WebConfig) (state : WebState P) :
    makeScreenshotDir config state = ended (preparation config state.files).1
      { state with files := (preparation config state.files).2 } := by
  simp only [makeScreenshotDir, FileOp.within, HasFiles.files, HasFiles.withFiles, preparation]
  cases Files.makeDirectories config.screenshotDir state.files <;> rfl

/-- The number of the next image, which is used up. -/
def nextShot : PageOp P Nat :=
  modifyGet fun state => (state.shots, { state with shots := state.shots + 1 })

/-- Numbering an image changes nothing but the number of the next one. -/
theorem nextShot_apply (state : WebState P) :
    nextShot state = ended (.ok state.shots) { state with shots := state.shots + 1 } := rfl

/-- An image is taken into the directory for images, under the next number. -/
theorem screenshot_eq (page : Page P) (config : WebConfig) :
    screenshot page config = (do
      makeScreenshotDir config
      let number ← nextShot
      ask page (.screenshot (imagePath config number) true)
      return imagePath config number) := rfl

/-- What may become of the wish for an image in a state. -/
inductive Shot (config : WebConfig) (state : WebState P) :
    Except BrowserError String → WebState P → Prop
  /-- The directory cannot be made, and no number is used up. -/
  | unprepared {e : BrowserError} {after : WebState P} (shots_eq : after.shots = state.shots) :
    Shot config state (.error e) after
  /-- The library fails, and the number is used up. -/
  | failed {e : BrowserError} {after : WebState P} (shots_eq : after.shots = state.shots + 1) :
    Shot config state (.error e) after
  /-- The image is taken under its number. -/
  | taken {after : WebState P} (shots_eq : after.shots = state.shots + 1) :
    Shot config state (.ok (imagePath config state.shots)) after

/-- The wish for an image ends in one of these ways. -/
theorem screenshot_shot (page : Page P) (config : WebConfig) (state : WebState P) :
    ∃ r after, screenshot page config state = ended r after ∧ Shot config state r after := by
  rw [screenshot_eq, bind_apply (makeScreenshotDir_apply config state)]
  rcases preparation config state.files with ⟨e | _, files⟩
  · exact ⟨_, _, rfl, .unprepared rfl⟩
  · dsimp only
    rw [bind_apply (nextShot_apply _)]
    dsimp only
    rw [bind_apply (ask_apply ..)]
    rcases page.call (.screenshot (imagePath config state.shots) true) state.page with
      ⟨⟨message | _, events, elapsed⟩, p⟩
    · exact ⟨_, _, rfl, .failed (WebState.observe_shots ..)⟩
    · exact ⟨_, _, rfl, .taken (WebState.observe_shots ..)⟩

/-- The call for an image ends in one of these ways. -/
theorem call_screenshot (page : Page P) (config : WebConfig) (state : WebState P) :
    Shot config state ((browser page config).call .screenshot state).1.outcome
      ((browser page config).call .screenshot state).2 := by
  obtain ⟨r, after, h, hshot⟩ := screenshot_shot page config state
  rw [browser_call, perform, reply_apply h]
  -- Handing over what has been collected leaves the numbers alone.
  cases hshot with
  | unprepared shots_eq => exact .unprepared shots_eq
  | failed shots_eq => exact .failed shots_eq
  | taken shots_eq => exact .taken shots_eq

end Web

end BrowserFlow
