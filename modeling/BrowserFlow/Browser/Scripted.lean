import BrowserFlow.Browser
import BrowserFlow.Files
import BrowserFlow.Script

/-!
# A scripted browser

A browser without a page, which answers from lists: which elements are missing, which are hidden,
which texts they have, and which calls fail. It notes the calls that it gets.
-/

namespace BrowserFlow

/-- The state of a scripted browser. -/
structure ScriptedState where
  /-- The page's title. -/
  title : String := ""
  /-- The page's address. -/
  url : String := ""
  /-- The labels of the elements that are not there. -/
  missing : List String := []
  /-- The labels of the elements that cannot be seen. -/
  hidden : List String := []
  /-- The texts of elements, by label. -/
  texts : List (String × String) := []
  /-- The messages on the console. -/
  console : List Message := []
  /-- The calls that fail. -/
  rules : List (FailureRule BrowserError) := []
  /-- How many images have been taken. -/
  shots : Nat := 0
  /-- The calls so far. -/
  calls : List Call := []
  /-- The files that reports may be written to. -/
  files : Files

namespace Scripted

/-- The name of a call in rules. -/
def callName : Call → String
  | .subscribeConsole => "subscribe_console"
  | .navigate _ => "navigate"
  | .goBack => "go_back"
  | .reload => "reload"
  | .wait _ => "wait"
  | .click _ => "click"
  | .fill _ _ => "fill"
  | .selectOption _ _ => "select_option"
  | .check _ => "check"
  | .uncheck _ => "uncheck"
  | .pressKey _ => "press_key"
  | .scrollToBottom => "scroll_to_bottom"
  | .scrollIntoView _ => "scroll_into_view"
  | .title => "title"
  | .url => "url"
  | .isVisible _ => "is_visible"
  | .isPresent _ => "exists"
  | .textContent _ => "text_content"
  | .screenshot => "screenshot"
  | .close => "close"

/-- The arguments of a call as texts. -/
def callArguments : Call → List String
  | .navigate url => [url]
  | .wait ms => [Text.decimal ms.toNat]
  | .pressKey key => [key]
  | .fill target value | .selectOption target value => [target.label, value]
  | .click target | .check target | .uncheck target | .scrollIntoView target
  | .isVisible target | .isPresent target | .textContent target => [target.label]
  | _ => []

/-- The error for an element that is not there. -/
def missing? (state : ScriptedState) (target : Target) : Except BrowserError Unit :=
  if state.missing.contains target.label then .error (.notResolved target.label) else .ok ()

/-- The answer to a call that does not fail by a rule. -/
def answer (state : ScriptedState) : (c : Call) → Reply c.Answer × ScriptedState
  | .subscribeConsole => (⟨.ok (), state.console, 0⟩, state)
  | .navigate url => (⟨.ok (), [], 0⟩, { state with url := url })
  | .title => (⟨.ok state.title, [], 0⟩, state)
  | .url => (⟨.ok state.url, [], 0⟩, state)
  | .isVisible target =>
    (⟨.ok (!state.missing.contains target.label && !state.hidden.contains target.label), [], 0⟩,
      state)
  | .isPresent target => (⟨.ok (!state.missing.contains target.label), [], 0⟩, state)
  | .textContent target =>
    (⟨(missing? state target).map fun _ => (state.texts.lookup target.label).getD "", [], 0⟩,
      state)
  | .screenshot =>
    (⟨.ok ("shots/" ++ Text.decimal state.shots ++ ".png"), [], 0⟩,
      { state with shots := state.shots + 1 })
  | .click target | .fill target _ | .selectOption target _ | .check target | .uncheck target
  | .scrollIntoView target => (⟨missing? state target, [], 0⟩, state)
  | .goBack | .reload | .wait _ | .pressKey _ | .scrollToBottom | .close => (⟨.ok (), [], 0⟩, state)

/-- The scripted browser. -/
def browser : Browser ScriptedState where
  name := "scripted"
  call c state :=
    let (error, rules) := applyRules (callName c) (callArguments c).head? state.rules
    let state := { state with rules := rules, calls := state.calls ++ [c] }
    match error with
    | some error => (⟨.error error, [], 0⟩, state)
    | none => answer state c
  idle _ state := ([], state)

end Scripted

instance : HasFiles ScriptedState where
  files state := state.files
  withFiles state files := { state with files := files }

end BrowserFlow
