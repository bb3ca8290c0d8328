import BrowserFlow.Proofs.Sentence.Assertion
import BrowserFlow.Proofs.Session.Account
import BrowserFlow.Proofs.Session.Isolation

/-!
# Verdicts

When an assertion is true, and what is said of it when it is not, without regard to how that is
found out: `Assertion.Holds` and `Assertion.Complains` are about what the browser answers to the one
call that the assertion needs, and about the messages that have arrived on the console.

`Step.execute_judged` shows that executing a step that asserts something finds this out, as long as
the browser answers: the step passes exactly if the assertion is true, and otherwise its record
says just what is to be said.
-/

namespace BrowserFlow

open SessionOp Sentence Text

variable {W : Type}

/-- An actual text is as expected, in the sense of a comparison. -/
def Comparison.Satisfied : Comparison → (actual expected : String) → Prop
  | .equals, actual, expected => actual = expected
  | .contains, actual, expected => expected.toList <:+: actual.toList

/-- A text contains another one exactly if that occurs in it as a block. -/
theorem Text.contains_iff (text needle : String) :
    Text.contains text needle = true ↔ needle.toList <:+: text.toList :=
  occursIn_iff

/-- Comparing texts finds out whether the actual one is as expected. -/
theorem Comparison.holds_iff (mode : Comparison) (actual expected : String) :
    mode.holds actual expected = true ↔ mode.Satisfied actual expected := by
  cases mode with
  | equals => exact beq_iff_eq
  | contains => exact Text.contains_iff actual expected

/-- The messages mention a text exactly if it occurs in one of them. -/
theorem Transcript.mentions_iff (transcript : Transcript) (needle : String) :
    transcript.mentions needle = true ↔
      ∃ entry ∈ transcript, needle.toList <:+: entry.text.toList := by
  unfold mentions
  simp only [List.any_eq_true, Text.contains_iff]

namespace Assertion

/-- The call that tells what is to be known for an assertion. For one about the console nothing is
asked. -/
def call? : Assertion → Option Call
  | .title _ _ => some .title
  | .url _ _ => some .url
  | .element target .visible => some (.isVisible target)
  | .element target .present => some (.isPresent target)
  | .element target (.containsText _) => some (.textContent target)
  | .log _ => none

/-- The browser tells in a stage what is to be known for an assertion. -/
def Answered (rig : Rig W) (s : Stage W) (assertion : Assertion) : Prop :=
  ∀ c, assertion.call? = some c → ∃ answer, (s.call rig c).1 = .ok answer

/-- An assertion is true of what the browser tells in a stage and of what has arrived on the
console. -/
inductive Holds (rig : Rig W) (s : Stage W) : Assertion → Prop
  /-- The title is as expected. -/
  | title {mode : Comparison} {expected title : String} (told : (s.call rig .title).1 = .ok title)
    (satisfied : mode.Satisfied title expected) : Holds rig s (.title mode expected)
  /-- The address is as expected. -/
  | url {mode : Comparison} {expected url : String} (told : (s.call rig .url).1 = .ok url)
    (satisfied : mode.Satisfied url expected) : Holds rig s (.url mode expected)
  /-- The element can be seen. -/
  | visible {target : Target} (told : (s.call rig (.isVisible target)).1 = .ok true) :
    Holds rig s (.element target .visible)
  /-- The element is there. -/
  | present {target : Target} (told : (s.call rig (.isPresent target)).1 = .ok true) :
    Holds rig s (.element target .present)
  /-- The expected text occurs in that of the element. -/
  | containsText {target : Target} {expected text : String}
    (told : (s.call rig (.textContent target)).1 = .ok text)
    (occurs : expected.toList <:+: text.toList) :
    Holds rig s (.element target (.containsText expected))
  /-- The expected text occurs in a message that has arrived. -/
  | log {expected : String} {entry : LogEntry} (arrived : entry ∈ s.session.transcript)
    (occurs : expected.toList <:+: entry.text.toList) : Holds rig s (.log expected)

/-- What is said of an assertion that is not true: of what it is, what was expected, and what was
found instead. Texts stand between quotes, unchanged. -/
inductive Complains (rig : Rig W) (s : Stage W) : Assertion → String → Prop
  /-- Another title was found. -/
  | title {mode : Comparison} {expected title : String}
    (told : (s.call rig .title).1 = .ok title) : Complains rig s (.title mode expected)
      ("Title " ++ mode.display ++ ": expected " ++ inQuotes expected ++ ", got " ++ inQuotes title)
  /-- Another address was found. -/
  | url {mode : Comparison} {expected url : String}
    (told : (s.call rig .url).1 = .ok url) : Complains rig s (.url mode expected)
      ("URL " ++ mode.display ++ ": expected " ++ inQuotes expected ++ ", got " ++ inQuotes url)
  /-- The element was not visible. -/
  | visible {target : Target} : Complains rig s (.element target .visible)
      ("Element " ++ target.display ++ ": expected " ++ "visible" ++ ", got " ++ "not visible")
  /-- The element was not found. -/
  | present {target : Target} : Complains rig s (.element target .present)
      ("Element " ++ target.display ++ ": expected " ++ "to exist" ++ ", got " ++ "not found")
  /-- The element had another text. -/
  | containsText {target : Target} {expected text : String}
    (told : (s.call rig (.textContent target)).1 = .ok text) :
    Complains rig s (.element target (.containsText expected))
      ("Element " ++ target.display ++ " text contains" ++ ": expected " ++ inQuotes expected ++
        ", got " ++ inQuotes text)
  /-- None of so many messages had the text. -/
  | log {expected : String} : Complains rig s (.log expected)
      ("Console log" ++ ": expected " ++ inQuotes expected ++ ", got " ++
        (decimal s.session.transcript.length ++ " message(s) without it"))

variable {rig : Rig W} {s : Stage W} {assertion : Assertion} {e : StepError}

/-- An assertion that is not met is complained of, and is no loss of the browser. -/
theorem Unmet.complains (h : assertion.Unmet rig s e) :
    assertion.Complains rig s e.message ∧ e.isFatal = false := by
  cases h with
  | title told _ => exact ⟨.title told, rfl⟩
  | url told _ => exact ⟨.url told, rfl⟩
  | visible _ => exact ⟨.visible, rfl⟩
  | present _ => exact ⟨.present, rfl⟩
  | containsText told _ => exact ⟨.containsText told, rfl⟩
  | log _ => exact ⟨.log, rfl⟩

/-- An assertion that is not met is not true. -/
theorem Unmet.not_holds (h : assertion.Unmet rig s e) : ¬ assertion.Holds rig s := by
  intro holds
  -- Both speak of the browser's answer at this stage, which is one answer.
  cases h with
  | @title mode expected title told unmet =>
    obtain ⟨told', satisfied⟩ := holds
    rw [told] at told'
    cases told'
    rw [(mode.holds_iff title expected).mpr satisfied] at unmet
    cases unmet
  | @url mode expected url told unmet =>
    obtain _ | ⟨told', satisfied⟩ := holds
    rw [told] at told'
    cases told'
    rw [(mode.holds_iff url expected).mpr satisfied] at unmet
    cases unmet
  | visible told =>
    obtain _ | _ | told' := holds
    rw [told] at told'
    cases told'
  | present told =>
    obtain _ | _ | _ | told' := holds
    rw [told] at told'
    cases told'
  | @containsText target expected text told unmet =>
    obtain _ | _ | _ | _ | ⟨told', occurs⟩ := holds
    rw [told] at told'
    cases told'
    rw [(Text.contains_iff text expected).mpr occurs] at unmet
    cases unmet
  | @log expected unmet =>
    obtain _ | _ | _ | _ | _ | ⟨arrived, occurs⟩ := holds
    have mentions := (s.session.transcript.mentions_iff expected).mpr ⟨_, arrived, occurs⟩
    rw [mentions] at unmet
    cases unmet

/-- An assertion is true or not met, as long as the browser tells what is to be known. -/
theorem holds_or_unmet (answered : assertion.Answered rig s) :
    assertion.Holds rig s ∨ ∃ e, assertion.Unmet rig s e := by
  rcases assertion with ⟨mode, expected⟩ | ⟨target, _ | _ | expected⟩ | ⟨mode, expected⟩ | expected
  case title =>
    obtain ⟨title, told⟩ := answered .title rfl
    cases unmet : mode.holds title expected with
    | true => exact .inl (.title told ((mode.holds_iff title expected).mp unmet))
    | false => exact .inr ⟨_, .title told unmet⟩
  case url =>
    obtain ⟨url, told⟩ := answered .url rfl
    cases unmet : mode.holds url expected with
    | true => exact .inl (.url told ((mode.holds_iff url expected).mp unmet))
    | false => exact .inr ⟨_, .url told unmet⟩
  case element.visible =>
    obtain ⟨_ | _, told⟩ := answered (.isVisible target) rfl
    · exact .inr ⟨_, .visible told⟩
    · exact .inl (.visible told)
  case element.present =>
    obtain ⟨_ | _, told⟩ := answered (.isPresent target) rfl
    · exact .inr ⟨_, .present told⟩
    · exact .inl (.present told)
  case element.containsText =>
    obtain ⟨text, told⟩ := answered (.textContent target) rfl
    cases unmet : Text.contains text expected with
    | true => exact .inl (.containsText told ((Text.contains_iff text expected).mp unmet))
    | false => exact .inr ⟨_, .containsText told unmet⟩
  case log =>
    cases unmet : s.session.transcript.mentions expected with
    | true =>
      obtain ⟨entry, arrived, occurs⟩ := (s.session.transcript.mentions_iff expected).mp unmet
      exact .inl (.log arrived occurs)
    | false => exact .inr ⟨_, .log unmet⟩

end Assertion

namespace Step

/-- What executing a step of a group does that asserts something. -/
structure Judged (rig : Rig W) (config : RunConfig) (group : String) (step : Step)
    (assertion : Assertion) (s : Stage W) : Prop where
  /-- The sentence makes the assertion, in the words for the comparison that is meant. -/
  asserts : Asserts (trimmed step.sentence) assertion
  /-- The browser is asked what is to be known, and nothing else. -/
  calls : ((step.execute rig config group).reached s).calls = s.calls ++ assertion.call?.toList
  /-- If it tells that, there is the record of a success exactly if the assertion is true. -/
  success_iff : assertion.Answered rig s →
    ((∃ ms at_, (step.execute rig config group).result s =
      .ok (.success group step.sentence ms at_)) ↔ assertion.Holds rig s)
  /-- If it is not true, there is the record of a failure that says so. -/
  of_not_holds : assertion.Answered rig s → ¬ assertion.Holds rig s →
    ∃ complaint ms at_, assertion.Complains rig s complaint ∧
      (step.execute rig config group).result s =
        .ok (.failure group step.sentence ms complaint at_)
  /-- For an assertion about the console the browser is not needed. -/
  of_log : ∀ expected, assertion = .log expected → assertion.Answered rig s ∧
    ((step.execute rig config group).reached s).calls = s.calls ∧
    ((step.execute rig config group).reached s).world = s.world
  /-- It does not matter how the run is configured, and whether messages are to be captured. -/
  config_irrelevant : ∀ config',
    step.execute rig config' group s = step.execute rig config group s

variable (rig : Rig W) (config : RunConfig) (group : String) {step : Step} {assertion : Assertion}
  (s : Stage W)

/-- The call of a step that asserts something is the one that the assertion needs. -/
theorem call?_of_asserting (h : Action.ofSentence step.sentence = .ok (.verify assertion)) :
    step.call? config = assertion.call? := by
  unfold call?
  rw [plan_of_action h config]
  rcases assertion with _ | ⟨target, _ | _ | _⟩ | _ | _ <;> rfl

/-- In a step that asserts something nothing goes wrong if that is true. -/
theorem not_fails_of_holds (h : Action.ofSentence step.sentence = .ok (.verify assertion))
    (answered : assertion.Answered rig s) (holds : assertion.Holds rig s) (e : StepError) :
    ¬ step.Fails rig config s e := by
  rintro (hsentence | ⟨asked, failed⟩ | ⟨hverify, unmet⟩)
  · rw [h] at hsentence
    cases hsentence
  · rw [call?_of_asserting config h] at asked
    obtain ⟨answer, told⟩ := answered _ asked
    rw [told] at failed
    cases failed
  · rw [h] at hverify
    cases hverify
    exact unmet.not_holds holds

/-- Executing a step that asserts something finds out whether that is true. -/
theorem execute_judged (h : Action.ofSentence step.sentence = .ok (.verify assertion)) :
    step.Judged rig config group assertion s := by
  obtain ⟨hcalls, hworld, -⟩ := step.execute_asks rig config group s
  rw [call?_of_asserting config h] at hcalls hworld
  -- What is not true is complained of in the record of a failure.
  have hfailure (answered : assertion.Answered rig s) (hnot : ¬ assertion.Holds rig s) :
      ∃ complaint ms at_, assertion.Complains rig s complaint ∧
        (step.execute rig config group).result s =
          .ok (.failure group step.sentence ms complaint at_) := by
    obtain ⟨e, unmet⟩ := (Assertion.holds_or_unmet answered).resolve_left hnot
    obtain ⟨complains, notLost⟩ := unmet.complains
    obtain ⟨ms, at_, hresult⟩ :=
      step.execute_of_failing rig config group s (.unmet h unmet) notLost
    exact ⟨e.message, ms, at_, complains, hresult⟩
  have hasserts := Action.ofSentence_verify_iff.mp h
  refine ⟨hasserts.1, hcalls, fun answered => ⟨?_, fun holds => ?_⟩, hfailure, ?_,
    fun config' => ?_⟩
  · rintro ⟨ms, at_, hsuccess⟩
    by_contra hnot
    obtain ⟨complaint, ms', at', -, hresult⟩ := hfailure answered hnot
    rw [hsuccess] at hresult
    cases hresult
  · have passes := not_fails_of_holds rig config s h answered holds
    exact step.execute_of_passing rig config group s passes
  · rintro expected rfl
    exact ⟨nofun, by rw [hcalls]; exact List.append_nil _, hworld⟩
  · rw [execute_apply, execute_apply, plan_of_action h config, plan_of_action h config']
    rfl

/-- On the scripted browser a step asks for the address, finds out that it is another one, and says
so. -/
theorem execute_judged_started :
    let step : Step := ⟨1, "1. Verifique se a URL contém \"example.com\""⟩
    let assertion : Assertion := .url .contains "example.com"
    Action.ofSentence step.sentence = .ok (.verify assertion) ∧
      ((step.execute .scripted {} "Geral").result Flow.started).toOption.bind (·.error) =
        some "URL contains: expected \"example.com\", got \"https://example.org\"" ∧
      step.Judged .scripted {} "Geral" assertion Flow.started := by
  intro step assertion
  have h : Action.ofSentence step.sentence = .ok (.verify assertion) := by decide +kernel
  exact ⟨h, by decide +kernel, execute_judged .scripted {} "Geral" Flow.started h⟩

end Step

end BrowserFlow
