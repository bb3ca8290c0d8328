import BrowserFlow.Page.Scripted
import BrowserFlow.Proofs.Browser.Dialogue

/-!
# How an element is found

Nine calls are about an element. In each the page is asked for one locator of the target after the
other, until one finds an element or the page fails. `Resolves` says what such a call says to the
page and how it is answered: if an element is found, what follows is about the selector that found
it, as `Acts` has it; if none is, nothing follows.

Whether an element is there is answered by the search alone. So what can be seen is there, if the
page answers the same query in the same way, which is the second part of `Web.call_resolves`.
-/

namespace BrowserFlow

namespace Web

variable {P : Type}

/-! ## The search -/

/-- A query that finds no element. -/
def unfound (locator : Locator) : Exchange :=
  ⟨.query locator.selector, .ok false⟩

/-- What is said in search of an element, and what is found. -/
inductive Sought (locators : List Locator) :
    List Exchange → Except BrowserError (Option String) → Prop
  /-- No locator finds one. -/
  | missed : Sought locators (locators.map unfound) (.ok none)
  /-- The page fails at a locator, when those before it have found none. -/
  | failed {before after : List Locator} {locator : Locator} {message : String}
    (split : locators = before ++ locator :: after) :
    Sought locators (before.map unfound ++ [⟨.query locator.selector, .error message⟩])
      (.error (.ofPage message))
  /-- A locator finds one, when those before it have found none. -/
  | found {before after : List Locator} {locator : Locator}
    (split : locators = before ++ locator :: after) :
    Sought locators (before.map unfound ++ [⟨.query locator.selector, .ok true⟩])
      (.ok (some locator.selector))

/-- A search goes on after a locator that finds nothing. -/
theorem Sought.cons {locator : Locator} {rest : List Locator} {told : List Exchange}
    {r : Except BrowserError (Option String)} (h : Sought rest told r) :
    Sought (locator :: rest) (unfound locator :: told) r := by
  cases h with
  | missed => exact .missed
  | failed split =>
    rw [← List.cons_append, ← List.map_cons]
    exact .failed (by rw [split, List.cons_append])
  | found split =>
    rw [← List.cons_append, ← List.map_cons]
    exact .found (by rw [split, List.cons_append])

/-- The page is searched in the order of the locators. -/
theorem resolve_talks (page : Page P) (locators : List Locator) :
    Talks (resolve page locators) (resolve page.noting locators) (Sought locators) := by
  induction locators with
  | nil => exact Talks.pure .missed
  | cons locator rest ih =>
    have split : locator :: rest = [] ++ locator :: rest := rfl
    refine Talks.ask_bind page (.query locator.selector) ?_ fun message => .failed split
    rintro (_ | _)
    · exact ih.mono fun _ _ h => h.cons
    · exact Talks.pure (.found split)

/-! ## What is done with an element -/

/-- What is said of the element that a selector has found, and how the call is answered. -/
inductive Acts (selector : String) :
    (c : Call) → List Exchange → Except BrowserError c.Answer → Prop
  /-- The element is clicked. -/
  | click {target : Target} (r : Except String Unit) :
    Acts selector (.click target) [⟨.click selector, r⟩] (answered r)
  /-- The value is typed into the element. -/
  | fill {target : Target} {value : String} (r : Except String Unit) :
    Acts selector (.fill target value) [⟨.fill selector value, r⟩] (answered r)
  /-- The option is chosen by its value. -/
  | selectByValue {target : Target} {value : String} :
    Acts selector (.selectOption target value) [⟨.selectOption selector .value value, .ok ()⟩]
      (.ok ())
  /-- The option cannot be chosen by its value, and is to be chosen by its text. -/
  | selectByLabel {target : Target} {value message : String} (r : Except String Unit) :
    Acts selector (.selectOption target value)
      [⟨.selectOption selector .value value, .error message⟩,
        ⟨.selectOption selector .label value, r⟩] (answered r)
  /-- The box is ticked. -/
  | check {target : Target} (r : Except String Unit) :
    Acts selector (.check target) [⟨.check selector, r⟩] (answered r)
  /-- The box is unticked. -/
  | uncheck {target : Target} (r : Except String Unit) :
    Acts selector (.uncheck target) [⟨.uncheck selector, r⟩] (answered r)
  /-- The page is scrolled to the element. -/
  | scrollIntoView {target : Target} (r : Except String Unit) :
    Acts selector (.scrollIntoView target) [⟨.scrollIntoView selector, r⟩] (answered r)
  /-- The element is asked whether it can be seen. -/
  | isVisible {target : Target} (r : Except String Bool) :
    Acts selector (.isVisible target) [⟨.isVisible selector, r⟩] (answered r)
  /-- That the element was found is the answer. -/
  | isPresent {target : Target} : Acts selector (.isPresent target) [] (.ok true)
  /-- The element is asked for its text. -/
  | textContent {target : Target} (r : Except String String) :
    Acts selector (.textContent target) [⟨.evaluateOn selector textScript, r⟩] (answered r)

/-- The answer to a call about an element that is not found. -/
def missed (target : Target) : (c : Call) → Except BrowserError c.Answer
  | .isVisible _ | .isPresent _ => .ok false
  | _ => .error (.notResolved target.label)

/-- What is said in a call about an element, and how the call is answered. -/
inductive Resolves (c : Call) (target : Target) :
    List Exchange → Except BrowserError c.Answer → Prop
  /-- No locator finds the element, and that is all. -/
  | missed : Resolves c target (target.locators.map unfound) (missed target c)
  /-- The page fails at a locator, and its failure is the answer. -/
  | failed {before after : List Locator} {locator : Locator} {message : String}
    (split : target.locators = before ++ locator :: after) :
    Resolves c target (before.map unfound ++ [⟨.query locator.selector, .error message⟩])
      (.error (.ofPage message))
  /-- The first locator that finds an element is what the rest of the call is about. -/
  | found {before after : List Locator} {locator : Locator} {later : List Exchange}
    {r : Except BrowserError c.Answer} (split : target.locators = before ++ locator :: after)
    (acts : Acts locator.selector c later r) :
    Resolves c target (before.map unfound ++ ⟨.query locator.selector, .ok true⟩ :: later) r

/-- A call is resolved if it begins with the search and acts on what that finds. -/
theorem resolve_bind_talks {page : Page P} {c : Call} {target : Target}
    {next : Option String → PageOp P c.Answer}
    {likeNext : Option String → PageOp (P × List Exchange) c.Answer}
    (hfound : ∀ selector, Talks (next (some selector)) (likeNext (some selector)) (Acts selector c))
    (hmissed : Talks (next none) (likeNext none) fun told r => told = [] ∧ r = missed target c) :
    Talks (resolve page target.locators >>= next) (resolve page.noting target.locators >>= likeNext)
      (Resolves c target) := by
  refine (resolve_talks page target.locators).bind ?_ ?_
  · intro told found h
    cases h with
    | missed =>
      refine hmissed.mono ?_
      rintro _ _ ⟨rfl, rfl⟩
      rw [List.append_nil]
      exact .missed
    | found split =>
      refine (hfound _).mono fun later r acts => ?_
      rw [List.append_assoc]
      exact .found split acts
  · intro told e h
    cases h with
    | failed split => exact .failed split

/-- A call is resolved if it needs an element and acts on the one that is found. -/
theorem find_bind_talks {page : Page P} (c : Call) {target : Target}
    {next : String → PageOp P c.Answer} {likeNext : String → PageOp (P × List Exchange) c.Answer}
    (hc : missed target c = .error (.notResolved target.label))
    (h : ∀ selector, Talks (next selector) (likeNext selector) (Acts selector c)) :
    Talks (find page target >>= next) (find page.noting target >>= likeNext)
      (Resolves c target) := by
  unfold find
  rw [bind_assoc, bind_assoc]
  refine resolve_bind_talks (fun selector => ?_) ?_
  · rw [pure_bind, pure_bind]
    exact h selector
  · -- a failure is not gone on from
    exact Talks.throw ⟨rfl, hc.symm⟩

/-- An option is chosen by its value, or else by its text. -/
theorem selectOption_talks (page : Page P) (target : Target) (value : String) :
    Talks (selectOption page target value) (selectOption page.noting target value)
      (Resolves (.selectOption target value) target) := by
  unfold selectOption
  refine find_bind_talks (.selectOption target value) rfl fun selector => ?_
  exact Talks.ask_catching page _ (fun _ => .selectByValue) fun _ =>
    Talks.ask page _ .selectByLabel

/-- Whatever is asked about an element is resolved. -/
theorem perform_talks_of_target (page : Page P) (config : WebConfig) {c : Call} {target : Target}
    (h : c.target? = some target) :
    Talks (perform page config c) (perform page.noting config c) (Resolves c target) := by
  cases c <;> cases h
  case click => exact find_bind_talks _ rfl fun _ => Talks.ask page _ .click
  case fill => exact find_bind_talks _ rfl fun _ => Talks.ask page _ .fill
  case selectOption => exact selectOption_talks page _ _
  case check => exact find_bind_talks _ rfl fun _ => Talks.ask page _ .check
  case uncheck => exact find_bind_talks _ rfl fun _ => Talks.ask page _ .uncheck
  case scrollIntoView => exact find_bind_talks _ rfl fun _ => Talks.ask page _ .scrollIntoView
  case isVisible =>
    exact resolve_bind_talks (fun _ => Talks.ask page _ .isVisible) (Talks.pure ⟨rfl, rfl⟩)
  case isPresent =>
    exact resolve_bind_talks (fun _ => Talks.pure .isPresent) (Talks.pure ⟨rfl, rfl⟩)
  case textContent => exact find_bind_talks _ rfl fun _ => Talks.ask page _ .textContent

/-! ## What can be seen is there -/

/-- Where a list is split at two places, one of the places is the other or comes before it. -/
theorem mem_or_eq_or_mem_of_split {α : Type} {before after before' after' : List α} {a b : α}
    (h : before ++ a :: after = before' ++ b :: after') : b ∈ before ∨ a = b ∨ a ∈ before' := by
  rcases List.append_eq_append_iff.mp h with ⟨more, rfl, hmore⟩ | ⟨more, rfl, hmore⟩
  · cases more with
    | nil => exact .inr (.inl (List.cons.inj hmore).1)
    | cons c more =>
      obtain ⟨rfl, -⟩ := List.cons.inj hmore
      simp
  · cases more with
    | nil => exact .inr (.inl (List.cons.inj hmore).1.symm)
    | cons c more =>
      obtain ⟨rfl, -⟩ := List.cons.inj hmore
      simp

/-- In two dialogues the page answers the same query in the same way. -/
def AnswersAlike (told told' : List Exchange) : Prop :=
  ∀ selector r r', ⟨.query selector, r⟩ ∈ told → ⟨.query selector, r'⟩ ∈ told' → r = r'

/-- If an element can be seen, a search that is answered alike finds it. -/
theorem Resolves.present_of_visible {target : Target} {told told' : List Exchange}
    {r : Except BrowserError (Call.isPresent target).Answer}
    (hvisible : Resolves (.isVisible target) target told (.ok true))
    (hpresent : Resolves (.isPresent target) target told' r) (h : AnswersAlike told told') :
    r = .ok true := by
  cases hvisible with
  | @found before after locator later _ split acts =>
    have hmem : locator ∈ target.locators := by simp [split]
    cases hpresent with
    | missed =>
      have := h locator.selector (.ok true) (.ok false) (by simp)
        (List.mem_map.mpr ⟨locator, hmem, rfl⟩)
      cases this
    | @failed before' after' locator' message split' =>
      rcases mem_or_eq_or_mem_of_split (split.symm.trans split') with hb | rfl | hb
      · have := h locator'.selector (.ok false) (.error message)
          (List.mem_append_left _ (List.mem_map.mpr ⟨locator', hb, rfl⟩)) (by simp)
        cases this
      · have := h locator.selector (.ok true) (.error message) (by simp) (by simp)
        cases this
      · have := h locator.selector (.ok true) (.ok false) (by simp)
          (List.mem_append_left _ (List.mem_map.mpr ⟨locator, hb, rfl⟩))
        cases this
    | found split' acts' =>
      cases acts'
      rfl

/-- A call about an element is resolved, whatever the page answers; and an element that can be seen
is there, if the page answers the same query in the same way. -/
theorem call_resolves (page : Page P) (config : WebConfig) :
    (∀ c target state, c.target? = some target →
      Resolves c target (dialogue page config c state) (outcome page config c state)) ∧
    ∀ target state state',
      AnswersAlike (dialogue page config (.isVisible target) state)
        (dialogue page config (.isPresent target) state') →
      outcome page config (.isVisible target) state = .ok true →
      outcome page config (.isPresent target) state' = .ok true := by
  have hresolves : ∀ c target state, c.target? = some target →
      Resolves c target (dialogue page config c state) (outcome page config c state) := by
    intro c target state h
    exact (perform_talks_of_target page config h).dialogue state
  refine ⟨hresolves, fun target state state' halike hvisible => ?_⟩
  have hv := hresolves (.isVisible target) target state rfl
  rw [hvisible] at hv
  exact hv.present_of_visible (hresolves (.isPresent target) target state' rfl) halike

/-- A page with one field, which its placeholder finds. -/
def placeholderPage : WebState ScriptedPage where
  page := { script := { elements := [{ selector := "[placeholder=\"Size\"]" }] } }
  files := ⟨[], []⟩

/-- A field that its placeholder finds is filled, and it is there because it can be seen. -/
theorem placeholder_resolves :
    Resolves (.fill (.ofLabel "Size") "M") (.ofLabel "Size")
      (dialogue ScriptedPage.driver {} (.fill (.ofLabel "Size") "M") placeholderPage)
      (outcome ScriptedPage.driver {} (.fill (.ofLabel "Size") "M") placeholderPage) ∧
    outcome ScriptedPage.driver {} (.isPresent (.ofLabel "Size")) placeholderPage = .ok true := by
  obtain ⟨hresolves, hpresent⟩ := call_resolves ScriptedPage.driver {}
  refine ⟨hresolves _ _ placeholderPage rfl, hpresent _ placeholderPage placeholderPage ?_ rfl⟩
  have hvisible : dialogue ScriptedPage.driver {} (.isVisible (.ofLabel "Size")) placeholderPage =
      [⟨.query "text=\"Size\"", .ok false⟩, ⟨.query "[placeholder=\"Size\"]", .ok true⟩,
        ⟨.isVisible "[placeholder=\"Size\"]", .ok true⟩] := rfl
  have hpresent : dialogue ScriptedPage.driver {} (.isPresent (.ofLabel "Size")) placeholderPage =
      [⟨.query "text=\"Size\"", .ok false⟩, ⟨.query "[placeholder=\"Size\"]", .ok true⟩] := rfl
  rw [hvisible, hpresent]
  intro selector r r' h h'
  simp only [List.mem_cons, Exchange.mk.injEq, PageCall.query.injEq, reduceCtorEq, false_and,
    List.not_mem_nil, or_false] at h h'
  rcases h with ⟨rfl, h⟩ | ⟨rfl, h⟩ <;> rcases h' with ⟨hs, h'⟩ | ⟨hs, h'⟩
  · exact (eq_of_heq h).trans (eq_of_heq h').symm
  · exact absurd hs (by decide)
  · exact absurd hs (by decide)
  · exact (eq_of_heq h).trans (eq_of_heq h').symm

end Web

end BrowserFlow
