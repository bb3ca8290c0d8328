import BrowserFlow.Proofs.Sentence.Form

/-!
# The verb of a sentence

Verbs are looked for in a fixed order, and the first one whose words open the sentence is taken.
The order does not matter: no opening begins another one, so that the verb of a sentence is the one
whose words open it (`Verb.ofSentence?_eq_some_iff`). What a sentence is read as is therefore
decided by its opening (`Action.ofSentence_eq_ok_iff`), and the action is one of that verb
(`Sentence.verb_of_action?`).
-/

namespace BrowserFlow

open Text Sentence

/-- A text without the blanks at its ends. -/
def Text.trimmed (s : String) : String :=
  String.ofList (trim s.toList)

theorem Text.toList_trimmed (s : String) : (trimmed s).toList = trim s.toList :=
  String.toList_ofList

namespace Verb

/-- The words that open a sentence with the verb stand at its start. -/
def Opens (verb : Verb) (s : String) : Prop :=
  verb.opening.toList <+: s.toList

/-- Every verb is looked for. -/
theorem mem_all (verb : Verb) : verb ∈ all := by
  cases verb <;> decide

/-- A sentence is opened by one verb only. -/
theorem Opens.unique {verb other : Verb} {s : String} (h : verb.Opens s) (h' : other.Opens s) :
    verb = other := by
  have hopenings : ∀ v ∈ all, ∀ w ∈ all, v.opening.toList <+: w.opening.toList → v = w := by decide
  rcases List.prefix_or_prefix_of_prefix h h' with hp | hp
  · exact hopenings _ (mem_all _) _ (mem_all _) hp
  · exact (hopenings _ (mem_all _) _ (mem_all _) hp).symm

/-- In whatever order all verbs are looked for, the one that opens a sentence is found. -/
theorem find?_eq_some_iff {verbs : List Verb} (hall : ∀ verb, verb ∈ verbs) {verb : Verb}
    {s : String} :
    (verbs.find? fun verb => (after? verb.opening.toList s.toList).isSome) = some verb ↔
      verb.Opens s := by
  have hfound {other : Verb}
      (h : (verbs.find? fun verb => (after? verb.opening.toList s.toList).isSome) = some other) :
      other.Opens s :=
    after?_isSome_iff.mp (by simpa using List.find?_some h)
  refine ⟨hfound, fun h => ?_⟩
  have hsome : (verbs.find? fun verb =>
      (after? verb.opening.toList s.toList).isSome).isSome = true := by
    rw [List.find?_isSome]
    exact ⟨verb, hall verb, after?_isSome_iff.mpr h⟩
  obtain ⟨other, hother⟩ := Option.isSome_iff_exists.mp hsome
  rw [hother, (hfound hother).unique h]

/-- The verb of a sentence is the one that opens it. -/
theorem ofSentence?_eq_some_iff {verb : Verb} {s : String} :
    ofSentence? s.toList = some verb ↔ verb.Opens s :=
  find?_eq_some_iff mem_all

end Verb

/-- An action of another verb is never read from a sentence. -/
theorem Sentence.verb_of_action? {verb : Verb} {s : List Char} {action : Action}
    (h : action? verb s = some action) : action.verb = verb := by
  cases verb
  case navigate =>
    simp only [action?, navigate?] at h
    split at h
    · simp at h
    · cases h
      rfl
  case wait =>
    simp only [action?, wait?] at h
    split at h
    · cases h
      rfl
    · split at h
      · split at h
        · cases h
          rfl
        · simp at h
      · simp at h
  case keyPress =>
    obtain ⟨key, -, rfl⟩ := Option.map_eq_some_iff.mp h
    rfl
  case scroll =>
    simp only [action?, scroll?] at h
    split at h
    · obtain ⟨label, -, rfl⟩ := Option.map_eq_some_iff.mp h
      rfl
    · cases h
      rfl
  case goBack | reload | screenshot | captureLogs | extract =>
    cases h
    rfl
  -- What is left reads one form and makes an action of what it takes.
  all_goals
    obtain ⟨_, -, rfl⟩ := Option.map_eq_some_iff.mp h
    rfl

namespace Action

variable {sentence : String} {action : Action} {verb : Verb}

/-- What a sentence asks for is read by the verb that opens it. -/
theorem ofSentence_of_opens (h : verb.Opens (trimmed sentence)) :
    ofSentence sentence =
      match action? verb (trimmed sentence).toList with
      | none => .error (.malformed (trimmed sentence))
      | some action => .ok action := by
  have hverb := Verb.ofSentence?_eq_some_iff.mpr h
  rw [toList_trimmed] at hverb ⊢
  simp only [ofSentence, hverb]
  rfl

/-- A sentence asks for an action if the action is read by the verb that opens the sentence. -/
theorem ofSentence_eq_ok_iff :
    ofSentence sentence = .ok action ↔
      action.verb.Opens (trimmed sentence) ∧
        action? action.verb (trimmed sentence).toList = some action := by
  constructor
  · intro h
    cases hverb : Verb.ofSentence? (trim sentence.toList) with
    | none => simp [ofSentence, hverb] at h
    | some verb =>
      rw [← toList_trimmed, Verb.ofSentence?_eq_some_iff] at hverb
      rw [ofSentence_of_opens hverb] at h
      cases hread : action? verb (trimmed sentence).toList with
      | none => simp [hread] at h
      | some found =>
        obtain rfl : found = action := by simpa [hread] using h
        rw [verb_of_action? hread]
        exact ⟨hverb, hread⟩
  · rintro ⟨hopens, hread⟩
    simp [ofSentence_of_opens hopens, hread]

end Action

end BrowserFlow
