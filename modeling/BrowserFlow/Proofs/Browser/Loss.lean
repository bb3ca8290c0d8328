import BrowserFlow.Page.Scripted
import BrowserFlow.Proofs.Browser.Image
import BrowserFlow.Proofs.Text.LetterCase

/-!
# Whether the loss of the browser is told

The page fails with a text that says that something is closed when the browser is gone. A call to
the browser should then end with the loss of the browser, whatever it was about.

`Web.call_tellsLoss` says exactly when it does: if a call to the page tells the loss that is not the
attempt to choose an option by its value. The failure of that attempt is passed over, whatever it
says, and the option is looked for by its text. So what was asked may well be done after the page
has told the loss (`Web.selectOption_hides_loss`), in this call and in no other.
-/

namespace BrowserFlow

variable {P α β : Type}

/-- The words of a failure of the page say that the browser is gone. -/
def SaysClosed (message : String) : Prop :=
  Text.Mentions message "closed"

/-- A failure of the page is the loss of the browser exactly if its words say so. -/
theorem BrowserError.ofPage_eq_sessionLost_iff (message reason : String) :
    ofPage message = .sessionLost reason ↔ message = reason ∧ SaysClosed message := by
  have hall : "closed".toList.all (fun c => decide (Text.IsPlain c)) = true := by decide
  have hplain : ∀ c ∈ "closed".toList, Text.IsPlain c := fun c hc =>
    of_decide_eq_true (List.all_eq_true.mp hall c hc)
  unfold ofPage SaysClosed
  rw [← Text.contains_toLower_iff hplain]
  split_ifs with h
  · simp [h]
  · simp [h]

namespace Exchange

/-- The page has failed, and its words say that the browser is gone. -/
def TellsLoss (e : Exchange) (reason : String) : Prop :=
  e.outcome = .error reason ∧ SaysClosed reason

/-- The page was asked to choose an option by its value. -/
def IsValueAttempt (e : Exchange) : Prop :=
  ∃ selector value, e.call = .selectOption selector .value value

end Exchange

namespace Web

/-- What a call to the browser says and how it ends fit together, as far as the loss of the browser
is concerned. -/
structure TellsLoss (c : Call) (told : List Exchange) (r : Except BrowserError α) : Prop where
  /-- The loss is the end exactly if the page has told it, other than in an attempt to choose an
  option by its value. -/
  lost_iff : ∀ reason, r = .error (.sessionLost reason) ↔
    ∃ e ∈ told, e.TellsLoss reason ∧ ¬ e.IsValueAttempt
  /-- Options are chosen only if that is asked for. -/
  attempts : ∀ e ∈ told, e.IsValueAttempt → ∃ target value, c = .selectOption target value

variable {c : Call}

/-- An operation and its like say what fits their end. -/
abbrev Tells (c : Call) (op : PageOp P α) (like : PageOp (P × List Exchange) α) : Prop :=
  Talks op like (TellsLoss c)

/-- Nothing is said and the browser is not lost. -/
theorem TellsLoss.nil {r : Except BrowserError α} (h : ∀ reason, r ≠ .error (.sessionLost reason)) :
    TellsLoss c [] r where
  lost_iff reason := by simp [h reason]
  attempts e he := by cases he

/-- After what has ended well the loss is told by what follows. -/
theorem TellsLoss.append {told more : List Exchange} {a : α} {r : Except BrowserError β}
    (h : TellsLoss c told (.ok a)) (hmore : TellsLoss c more r) : TellsLoss c (told ++ more) r where
  lost_iff reason := by
    have hnone : ¬ ∃ e ∈ told, e.TellsLoss reason ∧ ¬ e.IsValueAttempt := fun he => by
      cases (h.lost_iff reason).mpr he
    simp only [List.mem_append, or_and_right, exists_or, hnone, false_or]
    exact hmore.lost_iff reason
  attempts e he := (List.mem_append.mp he).elim (h.attempts e) (hmore.attempts e)

/-- What has ended badly is the end, of whatever kind the answer was to be. -/
theorem TellsLoss.error {told : List Exchange} {e : BrowserError}
    (h : TellsLoss c told (.error e : Except BrowserError α)) :
    TellsLoss c told (.error e : Except BrowserError β) where
  lost_iff reason := by
    rw [← h.lost_iff reason, Except.error.injEq, Except.error.injEq]
  attempts := h.attempts

/-- The answer of the page to anything but an attempt is the answer. -/
theorem TellsLoss.answered {asked : PageCall} (r : Except String asked.Answer)
    (h : ∀ selector value, asked ≠ .selectOption selector .value value) :
    TellsLoss c [⟨asked, r⟩] (answered r) where
  lost_iff reason := by
    have hnot : ¬ (Exchange.mk asked r).IsValueAttempt := fun ⟨selector, value, he⟩ =>
      h selector value he
    simp only [List.mem_singleton, exists_eq_left, hnot, not_false_eq_true, and_true,
      Exchange.TellsLoss]
    cases r with
    | ok a => simp [Web.answered]
    | error message =>
      simp only [Web.answered, Except.error.injEq, BrowserError.ofPage_eq_sessionLost_iff]
      exact and_congr_right fun hm => by rw [hm]
  attempts e he hattempt := by
    obtain ⟨selector, value, hcall⟩ := hattempt
    rw [List.mem_singleton] at he
    subst he
    exact absurd hcall (h selector value)

/-- Whatever the answer to an attempt is, it does not end the call badly. -/
theorem TellsLoss.attempt {target : Target} {selector value : String} (r : Except String Unit) :
    TellsLoss (.selectOption target value) [⟨.selectOption selector .value value, r⟩]
      (.ok () : Except BrowserError Unit) where
  lost_iff reason := by
    have hattempt : (Exchange.mk (.selectOption selector .value value) r).IsValueAttempt :=
      ⟨selector, value, rfl⟩
    simp [hattempt]
  attempts _ _ _ := ⟨target, value, rfl⟩

/-! ## The parts of a call -/

/-- A question that is no attempt. -/
theorem Tells.ask (page : Page P) (asked : PageCall)
    (h : ∀ selector value, asked ≠ .selectOption selector .value value) :
    Tells c (ask page asked) (Web.ask page.noting asked) :=
  Talks.ask page asked fun r => .answered r h

/-- A sequence. -/
theorem Tells.bind {op : PageOp P α} {like : PageOp (P × List Exchange) α}
    {next : α → PageOp P β} {likeNext : α → PageOp (P × List Exchange) β} (h : Tells c op like)
    (hnext : ∀ a, Tells c (next a) (likeNext a)) : Tells c (op >>= next) (like >>= likeNext) :=
  Talks.bind h (fun _ a htold => (hnext a).mono fun _ _ hmore => htold.append hmore)
    fun _ _ htold => htold.error

/-- A result without a question. -/
theorem Tells.pure (a : α) : Tells c (pure a : PageOp P α) (pure a) :=
  Talks.pure (.nil nofun)

/-- The search for an element. -/
theorem resolve_tells (page : Page P) (locators : List Locator) :
    Tells c (resolve page locators) (resolve page.noting locators) := by
  induction locators with
  | nil => exact Tells.pure none
  | cons locator rest ih =>
    refine Tells.bind (Tells.ask page _ nofun) ?_
    rintro (_ | _)
    · exact ih
    · exact Tells.pure _

/-- The search for an element that must be there. -/
theorem find_tells (page : Page P) (target : Target) :
    Tells c (find page target) (find page.noting target) := by
  refine Tells.bind (resolve_tells page target.locators) ?_
  rintro (_ | selector)
  · exact Talks.throw (.nil nofun)
  · exact Tells.pure selector

/-- The choice of an option. -/
theorem selectOption_tells (page : Page P) (target : Target) (value : String) :
    Tells (.selectOption target value) (selectOption page target value)
      (selectOption page.noting target value) := by
  refine Tells.bind (find_tells page target) fun selector => ?_
  exact Talks.ask_catching page _ (fun a => .attempt (.ok a)) fun message =>
    (Tells.ask page _ (by simp)).mono fun _ _ h => (TellsLoss.attempt (.error message)).append h

/-- What has no question says nothing, and loses no browser. -/
theorem Tells.silent {op : PageOp P α} {like : PageOp (P × List Exchange) α}
    {f : WebState P → Except BrowserError α}
    (h : ∀ state, ∃ after, op state = ended (f state) after ∧
      ∀ log, like (state.noted log) = ended (f state) (after.noted log))
    (hlost : ∀ state reason, f state ≠ .error (.sessionLost reason)) : Tells c op like := by
  intro state
  obtain ⟨after, hplain, hnoted⟩ := h state
  exact ⟨[], f state, after, ⟨hplain, fun log => by rw [hnoted, List.append_nil]⟩,
    .nil (hlost state)⟩

/-- Making the directory for images says nothing to the page. -/
theorem makeScreenshotDir_tells (config : WebConfig) :
    Tells c (makeScreenshotDir config : PageOp P Unit) (makeScreenshotDir config) := by
  refine Tells.silent (fun state => ⟨_, makeScreenshotDir_apply config state, fun log =>
    makeScreenshotDir_apply config (state.noted log)⟩) ?_
  intro state reason
  unfold preparation
  cases Files.makeDirectories config.screenshotDir state.files <;> simp [BrowserError.ofChain]

/-- Numbering an image says nothing to the page. -/
theorem nextShot_tells : Tells c (nextShot : PageOp P Nat) nextShot :=
  Tells.silent (fun state => ⟨_, nextShot_apply state, fun log => nextShot_apply (state.noted log)⟩)
    nofun

/-- Whatever a browser is asked. -/
theorem perform_tells (page : Page P) (config : WebConfig) (c : Call) :
    Tells c (perform page config c) (perform page.noting config c) := by
  cases c with
  | wait => exact Talks.linger page _ (.nil nofun)
  | subscribeConsole | navigate | goBack | reload | scrollToBottom | title | url | close =>
    exact Tells.ask page _ nofun
  | click | fill | check | uncheck | scrollIntoView | textContent =>
    exact Tells.bind (find_tells page _) fun _ => Tells.ask page _ nofun
  | selectOption target value => exact selectOption_tells page target value
  | pressKey => exact Tells.bind (Tells.ask page _ nofun) fun _ => Tells.ask page _ nofun
  | isVisible target =>
    refine Tells.bind (resolve_tells page target.locators) ?_
    rintro (_ | selector)
    · exact Tells.pure false
    · exact Tells.ask page _ nofun
  | isPresent target => exact Tells.bind (resolve_tells page target.locators) fun _ => Tells.pure _
  | screenshot =>
    change Tells _ (screenshot page config) (screenshot page.noting config)
    rw [screenshot_eq, screenshot_eq]
    refine Tells.bind (makeScreenshotDir_tells config) fun _ => ?_
    refine Tells.bind nextShot_tells fun _ => ?_
    exact Tells.bind (Tells.ask page _ nofun) fun _ => Tells.pure _

/-- What is said tells the loss of the browser, but only in an attempt to choose an option by its
value. -/
structure Hides (told : List Exchange) : Prop where
  /-- The page tells the loss. -/
  tells : ∃ e ∈ told, ∃ reason, e.TellsLoss reason
  /-- It does so in attempts only. -/
  attempts : ∀ e ∈ told, ∀ reason, e.TellsLoss reason → e.IsValueAttempt

/-- The loss of the browser is the end of a call exactly if the page tells it other than in an
attempt to choose an option by its value. So a loss that the page tells is the end of the call,
unless it is told in such attempts only. -/
theorem call_tellsLoss (page : Page P) (config : WebConfig) (c : Call) (state : WebState P) :
    TellsLoss c (dialogue page config c state) (outcome page config c state) ∧
      (((∃ e ∈ dialogue page config c state, ∃ reason, e.TellsLoss reason) →
          ∃ reason, outcome page config c state = .error (.sessionLost reason)) ↔
        ¬ Hides (dialogue page config c state)) := by
  have htells := (perform_tells page config c).dialogue state
  refine ⟨htells, ?_⟩
  constructor
  · rintro hlost ⟨htold, hattempts⟩
    obtain ⟨reason, hr⟩ := hlost htold
    obtain ⟨e, he, htold, hnot⟩ := (htells.lost_iff reason).mp hr
    exact hnot (hattempts e he reason htold)
  · intro hhides htold
    by_contra hlost
    refine hhides ⟨htold, fun e he reason htells' => ?_⟩
    by_contra hnot
    exact hlost ⟨reason, (htells.lost_iff reason).mpr ⟨e, he, htells', hnot⟩⟩

/-- A page with one field. It is closed when an option of the field is first chosen, and whenever
the field is clicked. -/
def closingPage : WebState ScriptedPage where
  page := {
    script := {
      elements := [{ selector := "text=\"Size\"" }]
      rules := [⟨"select_option", none, "Target closed", some 1⟩,
        ⟨"click", none, "Page CLOSED by user", none⟩] } }
  files := ⟨[], []⟩

/-- A click on a page that is closed ends with the loss of the browser. -/
theorem click_tells_loss :
    outcome ScriptedPage.driver {} (.click (.ofLabel "Size")) closingPage =
      .error (.sessionLost "Page CLOSED by user") := by
  have hdialogue : dialogue ScriptedPage.driver {} (.click (.ofLabel "Size")) closingPage =
      [⟨.query "text=\"Size\"", .ok true⟩,
        ⟨.click "text=\"Size\"", .error "Page CLOSED by user"⟩] := by
    rfl
  have htells := (call_tellsLoss ScriptedPage.driver {} (.click (.ofLabel "Size")) closingPage).1
  rw [hdialogue] at htells
  refine (htells.lost_iff _).mpr ⟨_, List.mem_cons_of_mem _ List.mem_cons_self, ?_, ?_⟩
  · exact ⟨rfl, "Page ".toList, "CLOSED".toList, " by user".toList, rfl, rfl⟩
  · rintro ⟨selector, value, h⟩
    cases h

/-- A page may tell that it is closed while an option is chosen, and the call ends well. -/
theorem selectOption_hides_loss :
    (∃ e ∈ dialogue ScriptedPage.driver {} (.selectOption (.ofLabel "Size") "M") closingPage,
      ∃ reason, e.TellsLoss reason) ∧
    outcome ScriptedPage.driver {} (.selectOption (.ofLabel "Size") "M") closingPage = .ok () := by
  have hdialogue :
      dialogue ScriptedPage.driver {} (.selectOption (.ofLabel "Size") "M") closingPage =
        [⟨.query "text=\"Size\"", .ok true⟩,
          ⟨.selectOption "text=\"Size\"" .value "M", .error "Target closed"⟩,
          ⟨.selectOption "text=\"Size\"" .label "M", .ok ()⟩] := by
    rfl
  refine ⟨?_, rfl⟩
  rw [hdialogue]
  refine ⟨_, List.mem_cons_of_mem _ List.mem_cons_self, "Target closed", rfl, ?_⟩
  exact ⟨"Target ".toList, "closed".toList, [], rfl, rfl⟩

end Web

end BrowserFlow
