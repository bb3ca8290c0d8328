import BrowserFlow.Proofs.Text.Lowercase
import BrowserFlow.Proofs.Text.Part
import BrowserFlow.Target

/-!
# Slugs

An element's identifier is guessed from its label. How the words of the label are set apart does
not matter for the guess: `Text.Spaced` says that a text consists of some words with blanks between
and around them, of whatever kind and number, and `Target.slugged` that the slug is then these words
in lower case, joined by single hyphens. It has no blanks and is its own slug, so that the guess is
the same for all labels with the same words, and for the slug itself.

Lower-casing is done on the joined words, although what becomes of a sigma depends on what is around
it; a hyphen ends words for the sigma as well.
-/

namespace BrowserFlow

namespace Text

/-! ## Words with blanks between them -/

/-- A text consists of these words, with blanks between and around them. -/
inductive Spaced : List (List Char) → List Char → Prop
  /-- There is no word in blanks. -/
  | blank {s : List Char} (blank : ∀ c ∈ s, isBlank c = true) : Spaced [] s
  /-- A word stands behind any blanks and goes on until the next one. -/
  | word {ws : List (List Char)} {gap w s : List Char} (blank : ∀ c ∈ gap, isBlank c = true)
    (ne_nil : w ≠ []) (unspaced : ∀ c ∈ w, isBlank c = false)
    (ends : ∀ c ∈ s.head?, isBlank c = true) (tail : Spaced ws s) :
    Spaced (w :: ws) (gap ++ w ++ s)

variable {ws : List (List Char)} {w s gap : List Char} {c : Char}

/-- A blank in front of a text is no part of a word. -/
theorem words_blank_cons (h : isBlank c = true) (s : List Char) : words (c :: s) = words s := by
  have hpieces : pieces isBlank ([] ++ c :: s) = [] :: pieces isBlank s :=
    pieces_append_cons (by simp) h
  rw [words, ← List.nil_append (c :: s), hpieces]
  rfl

/-- Blanks in front of a text are no part of a word. -/
theorem words_append_left (h : ∀ c ∈ gap, isBlank c = true) (s : List Char) :
    words (gap ++ s) = words s := by
  induction gap with
  | nil => rfl
  | cons c gap ih =>
    rw [List.forall_mem_cons] at h
    rw [List.cons_append, words_blank_cons h.1, ih h.2]

/-- There is no word in blanks. -/
theorem words_of_blank (h : ∀ c ∈ s, isBlank c = true) : words s = [] := by
  rw [← List.append_nil s, words_append_left h]
  rfl

/-- Characters that are not blank, up to a blank or the end, are the first word. -/
theorem words_append (hne : w ≠ []) (hw : ∀ c ∈ w, isBlank c = false)
    (hs : ∀ c ∈ s.head?, isBlank c = true) : words (w ++ s) = w :: words s := by
  cases s with
  | nil =>
    rw [List.append_nil, words, pieces_of_forall hw]
    simp [hne, words_of_blank (s := [])]
  | cons c s =>
    have hc : isBlank c = true := hs c rfl
    rw [words_blank_cons hc, words, pieces_append_cons hw hc]
    simp [hne, words]

/-- The words of a text are those that it consists of. -/
theorem Spaced.words_eq (h : Spaced ws s) : words s = ws := by
  induction h with
  | blank blank => exact words_of_blank blank
  | word blank ne_nil unspaced ends _ ih =>
    rw [List.append_assoc, words_append_left blank, words_append ne_nil unspaced ends, ih]

/-- One more character at the start of a text: a blank is passed over, and anything else begins the
first word or is one of its own. -/
theorem Spaced.exists_cons (h : Spaced ws s) (c : Char) : ∃ ws, Spaced ws (c :: s) := by
  cases hc : isBlank c with
  | true =>
    cases h with
    | blank blank => exact ⟨[], .blank (List.forall_mem_cons.mpr ⟨hc, blank⟩)⟩
    | word blank ne_nil unspaced ends tail =>
      exact ⟨_, .word (List.forall_mem_cons.mpr ⟨hc, blank⟩) ne_nil unspaced ends tail⟩
  | false =>
    have hsingle : ∀ d ∈ [c], isBlank d = false := List.forall_mem_singleton.mpr hc
    cases h with
    | blank blank =>
      refine ⟨[[c]], .word (List.forall_mem_nil _) (by simp) hsingle (fun d hd => ?_)
        (.blank blank)⟩
      exact blank d (List.mem_of_mem_head? hd)
    | @word ws gap w rest blank ne_nil unspaced ends tail =>
      cases gap with
      | nil =>
        exact ⟨(c :: w) :: ws, .word (List.forall_mem_nil _) (by simp)
          (List.forall_mem_cons.mpr ⟨hc, unspaced⟩) ends tail⟩
      | cons d gap =>
        refine ⟨[c] :: w :: ws, .word (List.forall_mem_nil _) (by simp) hsingle (fun e he => ?_)
          (.word blank ne_nil unspaced ends tail)⟩
        obtain rfl : d = e := by simpa using he
        exact blank d List.mem_cons_self

/-- Every text consists of some words. -/
theorem exists_spaced (s : List Char) : ∃ ws, Spaced ws s := by
  induction s with
  | nil => exact ⟨[], .blank (by simp)⟩
  | cons c s ih =>
    obtain ⟨ws, h⟩ := ih
    exact h.exists_cons c

/-- No word is empty, and there are no blanks in a word. -/
theorem Spaced.of_mem (h : Spaced ws s) (hw : w ∈ ws) : w ≠ [] ∧ ∀ c ∈ w, isBlank c = false := by
  induction h with
  | blank => cases hw
  | word blank ne_nil unspaced ends tail ih =>
    rcases List.mem_cons.mp hw with rfl | hw
    · exact ⟨ne_nil, unspaced⟩
    · exact ih hw

/-- Blanks behind a text do not matter for its words. -/
theorem Spaced.append_blank (h : Spaced ws s) (hgap : ∀ c ∈ gap, isBlank c = true) :
    Spaced ws (s ++ gap) := by
  induction h with
  | blank blank => exact .blank (List.forall_mem_append.mpr ⟨blank, hgap⟩)
  | @word ws between w s blank ne_nil unspaced ends _ ih =>
    rw [List.append_assoc]
    refine .word blank ne_nil unspaced (fun c hc => ?_) ih
    cases s with
    | nil => exact hgap c (List.mem_of_mem_head? hc)
    | cons d s => exact ends c hc

/-- Blanks around a text do not matter for its words. -/
theorem words_trim (s : List Char) : words (trim s) = words s := by
  obtain ⟨before, after, hbefore, hafter, heq⟩ := exists_eq_append_strip isBlank s
  obtain ⟨ws, h⟩ := exists_spaced (trim s)
  have hs : s = before ++ (trim s ++ after) := heq.trans (List.append_assoc ..)
  rw [h.words_eq, hs, words_append_left hbefore, (h.append_blank hafter).words_eq]

/-- A text without blanks is one word, unless it is empty. -/
theorem words_of_unspaced (h : ∀ c ∈ s, isBlank c = false) :
    words s = if s = [] then [] else [s] := by
  split_ifs with hs
  · rw [hs]
    rfl
  · have hwords := words_append hs h (s := []) (by simp)
    rwa [List.append_nil] at hwords

end Text

open Text

/-! ## Joined words -/

/-- Joining words by hyphens puts one hyphen between each word and the next one. -/
theorem hyphenated_eq_intercalate (ws : List (List Char)) :
    hyphenated ws = ['-'].intercalate ws := by
  induction ws with
  | nil => rfl
  | cons w ws ih =>
    cases ws with
    | nil => simp [hyphenated]
    | cons w' ws =>
      rw [hyphenated, ih, List.intercalate_cons_cons, List.append_assoc, List.singleton_append]
      simp

/-- A hyphen ends words for the sigma. -/
theorem endsWords_hyphen : EndsWords '-' where
  not_ignorable := by decide +kernel
  not_cased := by decide +kernel

/-- A hyphen is in lower case. -/
theorem isLow_hyphen : IsLow '-' := by
  decide +kernel

/-- Between joined words there are only hyphens. -/
theorem mem_hyphenated {ws : List (List Char)} {c : Char} (h : c ∈ hyphenated ws) :
    c = '-' ∨ ∃ w ∈ ws, c ∈ w := by
  induction ws with
  | nil => cases h
  | cons w ws ih =>
    cases ws with
    | nil => exact .inr ⟨w, List.mem_cons_self, h⟩
    | cons w' ws =>
      rw [hyphenated, List.mem_append, List.mem_cons] at h
      · rcases h with h | rfl | h
        · exact .inr ⟨w, List.mem_cons_self, h⟩
        · exact .inl rfl
        · obtain h | ⟨v, hv, hc⟩ := ih h
          · exact .inl h
          · exact .inr ⟨v, List.mem_cons_of_mem w hv, hc⟩
      · simp

/-! ## Slugs of labels -/

variable {label : String} {ws : List (List Char)}

/-- The slug of a label is its words in lower case, joined by hyphens. -/
theorem slugify_of_spaced (h : Spaced ws label.toList) :
    slugify label = String.ofList (['-'].intercalate (ws.map lower)) := by
  rw [slugify, h.words_eq, hyphenated_eq_intercalate,
    endsWords_hyphen.lower_intercalate isLow_hyphen]

/-- There are no blanks in a slug. -/
theorem isBlank_of_mem_slugify (label : String) :
    ∀ c ∈ (slugify label).toList, isBlank c = false := by
  obtain ⟨ws, h⟩ := exists_spaced label.toList
  intro c hc
  rw [slugify, String.toList_ofList, h.words_eq] at hc
  refine isBlank_of_mem_lowerAfter (fun d hd => ?_) hc
  obtain rfl | ⟨w, hw, hd⟩ := mem_hyphenated hd
  · decide
  · exact (h.of_mem hw).2 d hd

/-- A slug is its own slug. -/
theorem slugify_slugify (label : String) : slugify (slugify label) = slugify label := by
  have hwords := words_of_unspaced (isBlank_of_mem_slugify label)
  have hjoined : hyphenated (words (slugify label).toList) = (slugify label).toList := by
    rw [hwords]
    split_ifs with hempty
    · exact hempty.symm
    · rfl
  rw [slugify, hjoined]
  rw [slugify, String.toList_ofList, lower_lower]

/-- Blanks around a label do not matter for its slug. -/
theorem slugify_trim (label : String) :
    slugify (String.ofList (trim label.toList)) = slugify label := by
  rw [slugify, String.toList_ofList, words_trim, slugify]

namespace Target

/-- The identifier that an element is looked for under is the slug of its label. -/
theorem id_mem_ofLabel_iff (label slug : String) :
    .id slug ∈ (ofLabel label).locators ↔ slug = slugify label := by
  simp [ofLabel, slugify_trim]

/-- The controls of a field add no other identifier. -/
theorem id_mem_ofFieldLabel_iff (label slug : String) :
    .id slug ∈ (ofFieldLabel label).locators ↔ slug = slugify label := by
  have hcontrols : .id slug ∉ controls.map (Locator.labelledControl (ofLabel label).label) := by
    simp
  rw [ofFieldLabel, List.mem_append, or_iff_left hcontrols, id_mem_ofLabel_iff]

/-- What is looked for last is the identifier. -/
theorem getLast?_ofLabel (label : String) :
    (ofLabel label).locators.getLast? = some (.id (slugify label)) := by
  rw [← slugify_trim label]
  rfl

/-- The slug of a label says no more than its words do. -/
structure Slugged (label : String) : Prop where
  /-- There are no blanks in it. -/
  unspaced : ∀ c ∈ (slugify label).toList, isBlank c = false
  /-- It is its own slug. -/
  slugify_slugify : slugify (slugify label) = slugify label
  /-- The label consists of some words, whatever is between and around them. -/
  exists_words : ∃ ws, Spaced ws label.toList
  /-- The slug is these words, each in lower case, joined by single hyphens. -/
  of_words : ∀ ws, Spaced ws label.toList →
    slugify label = String.ofList (['-'].intercalate (ws.map lower))
  /-- Any label with the same words has the same slug; an element with that label is looked for last
  under it as an identifier, and a field under it and under no other identifier. -/
  of_same_words : ∀ other ws, Spaced ws label.toList → Spaced ws other.toList →
    slugify other = slugify label ∧
      (ofLabel other).locators.getLast? = some (.id (slugify label)) ∧
      ∀ slug, .id slug ∈ (ofFieldLabel other).locators ↔ slug = slugify label

/-- The slug of every label says no more than its words do. -/
theorem slugged (label : String) : Slugged label where
  unspaced := isBlank_of_mem_slugify label
  slugify_slugify := BrowserFlow.slugify_slugify label
  exists_words := exists_spaced label.toList
  of_words _ h := slugify_of_spaced h
  of_same_words other ws h hother := by
    have hslug : slugify other = slugify label :=
      (slugify_of_spaced hother).trans (slugify_of_spaced h).symm
    refine ⟨hslug, ?_, fun slug => ?_⟩
    · rw [getLast?_ofLabel, hslug]
    · rw [id_mem_ofFieldLabel_iff, hslug]

-- A sigma at the end of a word is a final one in front of the hyphen, too.
example : slugify "\tΟΔΟΣ \u3000 İΣ" = "οδος-i\u0307ς" := by
  decide +kernel

end Target

end BrowserFlow
