import BrowserFlow.Proofs.Sentence.Verb

/-!
# Taking up sentences

The opening words of a sentence alone decide which verb takes it up, and the verb decides what the
sentence can become: an action of that verb, or a refusal. `Action.ofSentence_dispatched` says when
a sentence is refused, and why, and that nothing hangs on the order in which the verbs are looked
for; the sentences of five verbs are never refused.
-/

namespace BrowserFlow

open Text Sentence

/-- The action that a sentence asks for if verbs are looked for in another order, or other ones. -/
def Action.ofSentenceAmong (verbs : List Verb) (sentence : String) : Except SentenceError Action :=
  let s := trim sentence.toList
  match verbs.find? fun verb => (after? verb.opening.toList s).isSome with
  | none => .error (.unrecognized (String.ofList s))
  | some verb =>
    match action? verb s with
    | none => .error (.malformed (String.ofList s))
    | some action => .ok action

/-- The verbs that need no arguments. -/
def Verb.unfailing : List Verb := [.goBack, .reload, .screenshot, .captureLogs, .extract]

/-- What becomes of a sentence by its opening words. -/
structure Sentence.Dispatched (sentence : String) : Prop where
  /-- It is not recognized exactly if no verb opens it, blanks around it left out. -/
  unrecognized_iff : Action.ofSentence sentence = .error (.unrecognized (trimmed sentence)) ↔
    ∀ verb : Verb, ¬ verb.Opens (trimmed sentence)
  /-- It is refused for this reason or for its arguments, and the refusal carries all of it. -/
  error_eq : ∀ error, Action.ofSentence sentence = .error error →
    error = .unrecognized (trimmed sentence) ∨ error = .malformed (trimmed sentence)
  /-- Not more than one verb opens it. -/
  opens_unique : ∀ verb other : Verb, verb.Opens (trimmed sentence) →
    other.Opens (trimmed sentence) → verb = other
  /-- The order in which the verbs are looked for does not matter. -/
  among_eq : ∀ verbs : List Verb, verbs.Perm Verb.all →
    Action.ofSentenceAmong verbs sentence = Action.ofSentence sentence
  /-- The action is one of the verb that opens it. -/
  verb_eq : ∀ action (verb : Verb), Action.ofSentence sentence = .ok action →
    (verb.Opens (trimmed sentence) ↔ action.verb = verb)
  /-- A verb that needs no arguments always takes it up. -/
  taken_up : ∀ verb ∈ Verb.unfailing, verb.Opens (trimmed sentence) →
    ∃ action, Action.ofSentence sentence = .ok action

namespace Action

variable {sentence : String}

/-- A sentence that no verb opens is not recognized. -/
theorem ofSentence_of_not_opens (h : ∀ verb : Verb, ¬ verb.Opens (trimmed sentence)) :
    ofSentence sentence = .error (.unrecognized (trimmed sentence)) := by
  have hnone : Verb.ofSentence? (trim sentence.toList) = none := by
    rw [Option.eq_none_iff_forall_not_mem]
    intro verb hverb
    rw [← toList_trimmed] at hverb
    exact h verb (Verb.ofSentence?_eq_some_iff.mp hverb)
  simp only [ofSentence, hnone, trimmed]

/-- What a sentence asks for does not depend on the order in which all verbs are looked for. -/
theorem ofSentenceAmong_eq {verbs : List Verb} (hall : ∀ verb, verb ∈ verbs) :
    ofSentenceAmong verbs sentence = ofSentence sentence := by
  -- At most one verb opens the sentence, so wherever it stands, it is the first one that does.
  have hfind : (verbs.find? fun verb =>
      (after? verb.opening.toList (trim sentence.toList)).isSome) =
      Verb.ofSentence? (trim sentence.toList) := by
    rw [← toList_trimmed]
    exact Option.ext fun verb =>
      (Verb.find?_eq_some_iff hall).trans Verb.ofSentence?_eq_some_iff.symm
  have hall_eq : ofSentence sentence = ofSentenceAmong Verb.all sentence := rfl
  simp only [hall_eq, ofSentenceAmong, hfind]
  rfl

/-- A sentence is taken up by the verb that opens it, and by no other one. -/
theorem ofSentence_dispatched (sentence : String) : Dispatched sentence where
  unrecognized_iff := by
    refine ⟨fun h verb hopens => ?_, ofSentence_of_not_opens⟩
    rw [ofSentence_of_opens hopens] at h
    cases hread : action? verb (trimmed sentence).toList <;> simp [hread] at h
  error_eq error h := by
    by_cases hopens : ∃ verb : Verb, verb.Opens (trimmed sentence)
    · obtain ⟨verb, hopens⟩ := hopens
      rw [ofSentence_of_opens hopens] at h
      cases hread : action? verb (trimmed sentence).toList with
      | none =>
        rw [hread] at h
        exact .inr (Except.error.inj h).symm
      | some action => simp [hread] at h
    · rw [ofSentence_of_not_opens fun verb hverb => hopens ⟨verb, hverb⟩] at h
      exact .inl (Except.error.inj h).symm
  opens_unique verb other h h' := h.unique h'
  among_eq verbs h := ofSentenceAmong_eq fun verb => h.mem_iff.mpr (Verb.mem_all verb)
  verb_eq action verb h := by
    have hopens := (ofSentence_eq_ok_iff.mp h).1
    exact ⟨fun h' => hopens.unique h', fun heq => heq ▸ hopens⟩
  taken_up verb hverb hopens := by
    rw [ofSentence_of_opens hopens]
    simp only [Verb.unfailing, List.mem_cons, List.not_mem_nil, or_false] at hverb
    rcases hverb with rfl | rfl | rfl | rfl | rfl <;> exact ⟨_, rfl⟩

end Action

end BrowserFlow
