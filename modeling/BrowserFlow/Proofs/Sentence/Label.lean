import BrowserFlow.Proofs.Sentence.Assertion
import BrowserFlow.Proofs.Text.LetterCase
import BrowserFlow.Proofs.Text.Part

/-!
# Labels of elements

A sentence names its element by a label between double quotes, right behind the words that lead up
to it. `Verb.Names` says so for all verbs at once, by the form of those words alone; the label may
be empty there. `Action.ofSentence_labelled` says which labels come out: every element of an action
is named by a quotation that is not empty, and can be seen wherever the quotation can; and an empty
quotation is refused, but for the one verb that does without an element.

A sentence quotes one label only (`Verb.Names.unique`). An action that has an element has thus read
that very label (`Verb.exists_names`), and no action with an element comes of an empty one.
-/

namespace BrowserFlow

open Text Sentence

/-- The elements that an action is about. -/
def Action.targets : Action → List Target
  | .click target | .check target | .uncheck target => [target]
  | .fill field _ | .select field _ => [field]
  | .scroll target => target.toList
  | .verify (.element target _) => [target]
  | .extract _ target => target.toList
  | _ => []

/-- The text by which a locator finds an element. -/
def Locator.value : Locator → String
  | .text label | .placeholder label | .ariaLabel label | .name label => label
  | .id slug => slug
  | .labelledControl label _ => label

/-- Some character of a text is not blank. -/
def Text.IsVisible (s : String) : Prop :=
  ∃ c ∈ s.toList, isBlank c = false

instance (s : String) : Decidable (IsVisible s) :=
  List.decidableBEx (fun c => isBlank c = false) s.toList

namespace Verb

/-- The form of the words in front of an element's label. -/
def lead? : Verb → Option Form
  | .click => some clickForm.dropLast
  | .fill => some fillForm.dropLast
  | .select => some selectForm.dropLast
  | .check | .uncheck => some checkboxForm.dropLast
  | .scroll => some scrollForm.dropLast
  | .verify =>
    some [.exactly "Verifique se ", .anyOf ["o ", "a "], .anyOf ["elemento ", "element "]]
  | .extract => some extractForm.dropLast
  | _ => none

/-- The verb opens a sentence in which a label for an element stands between double quotes. The
label may be empty. -/
def Names (verb : Verb) (s label : String) : Prop :=
  verb.Opens s ∧ '"' ∉ label.toList ∧ ∃ lead texts tail, verb.lead? = some lead ∧
    lead.Fits s texts (inQuotes label ++ tail)

theorem isClear_of_lead? {verb : Verb} {lead : Form} (h : verb.lead? = some lead) :
    lead.IsClear := by
  cases verb <;> cases h <;> decide

end Verb

/-! ## The label of a sentence -/

namespace Sentence

variable {lead : Form} {s label other tail tail' : String} {texts texts' : List String}

/-- A text that starts with a quotation starts with one only. -/
theorem inQuotes_append_inj (hlabel : '"' ∉ label.toList) (hother : '"' ∉ other.toList)
    (h : inQuotes label ++ tail = inQuotes other ++ tail') : label = other := by
  have hlist : label.toList ++ '"' :: tail.toList = other.toList ++ '"' :: tail'.toList := by
    have := congrArg String.toList h
    simpa [inQuotes] using this
  have htake : (label.toList ++ '"' :: tail.toList).takeWhile (· != '"') = label.toList :=
    takeWhile_of_not_mem hlabel
  rw [← String.toList_inj, ← htake, hlist, takeWhile_of_not_mem hother]

/-- What is read as the last text of a form stands between double quotes behind the rest. -/
theorem exists_lead_of_fits {rest : String} {before : List String}
    (h : Form.Fits (lead ++ [.quotation]) s (before ++ [label]) rest) :
    Quotable label ∧ ∃ texts tail, lead.Fits s texts (inQuotes label ++ tail) := by
  obtain ⟨first, middle, second, htexts, hlead, hquotation⟩ := h.of_append
  obtain ⟨text, tail, others, hquotable, rfl, rfl, hnil⟩ := Form.fits_quotation_iff.mp hquotation
  obtain ⟨rfl, -⟩ := Form.fits_nil_iff.mp hnil
  obtain ⟨-, hlast⟩ := List.append_inj' htexts rfl
  obtain rfl : label = text := (List.cons.inj hlast).1
  exact ⟨hquotable, first, tail, hlead⟩

end Sentence

namespace Verb

variable {verb : Verb} {s label other : String} {action : Action} {target : Target}

/-- A sentence names its element by one label only. -/
theorem Names.unique (h : verb.Names s label) (h' : verb.Names s other) : label = other := by
  obtain ⟨-, hlabel, lead, texts, tail, hlead, hfits⟩ := h
  obtain ⟨-, hother, lead', texts', tail', hlead', hfits'⟩ := h'
  obtain rfl : lead = lead' := Option.some.inj (hlead.symm.trans hlead')
  exact inQuotes_append_inj hlabel hother (hfits.unique (isClear_of_lead? hlead) hfits').2

/-- What is read as the last text of a form names an element. -/
theorem names_of_fits {lead : Form} (before : List String) {rest : String} (hopens : verb.Opens s)
    (hlead : verb.lead? = some lead)
    (h : Form.Fits (lead ++ [.quotation]) s (before ++ [label]) rest) :
    Quotable label ∧ verb.Names s label := by
  obtain ⟨hquotable, texts, tail, hfits⟩ := exists_lead_of_fits h
  exact ⟨hquotable, hopens, hquotable.2, lead, texts, tail, hlead, hfits⟩

/-- A form that ends with the label is clear, too. -/
theorem isClear_append_of_lead? {lead : Form} (hlead : verb.lead? = some lead) :
    Form.IsClear (lead ++ [.quotation]) := by
  intro piece hpiece
  rcases List.mem_append.mp hpiece with hpiece | hpiece
  · exact isClear_of_lead? hlead piece hpiece
  · obtain rfl := List.mem_singleton.mp hpiece
    exact fun _ ha => absurd ha List.not_mem_nil

/-- The only text that is read by a form names an element. -/
theorem names_of_one? {lead : Form} (hopens : verb.Opens s) (hlead : verb.lead? = some lead)
    (h : one? (lead ++ [.quotation]) s.toList = some label) :
    Quotable label ∧ verb.Names s label := by
  obtain ⟨rest, hfits⟩ := (Form.one?_eq_some_iff (isClear_append_of_lead? hlead)).mp h
  exact names_of_fits [] hopens hlead hfits

/-- The second of two texts that are read by a form names an element. -/
theorem names_of_two? {lead : Form} {value : String} (hopens : verb.Opens s)
    (hlead : verb.lead? = some lead)
    (h : two? (lead ++ [.quotation]) s.toList = some (value, label)) :
    Quotable label ∧ verb.Names s label := by
  obtain ⟨rest, hfits⟩ := (Form.two?_eq_some_iff (isClear_append_of_lead? hlead)).mp h
  exact names_of_fits [value] hopens hlead hfits

/-- The words in front of the label of an assertion. -/
theorem fits_verifyLead {article noun : String} (ha : article ∈ ["o", "a"])
    (hn : noun ∈ ["elemento", "element"]) (rest : String) :
    Form.Fits [.exactly "Verifique se ", .anyOf ["o ", "a "], .anyOf ["elemento ", "element "]]
      ("Verifique se " ++ (article ++ " " ++ (noun ++ " " ++ rest))) [] rest :=
  .exactly "Verifique se " (.anyOf (List.mem_map_of_mem (f := (· ++ " ")) ha)
    (.anyOf (List.mem_map_of_mem (f := (· ++ " ")) hn) (.nil rest)))

/-- An assertion about an element names it. -/
theorem names_of_asserts {check : ElementCheck} (h : Asserts s (.element target check)) :
    ∃ label, Quotable label ∧ Verb.verify.Names s label ∧ target = .ofLabel label := by
  have hopens := h.opens
  -- Up to the label the three forms are one, and the lead of the verb fits it.
  cases h with
  | @visible article noun label rest ha hn hl =>
    have hfits := fits_verifyLead ha hn (inQuotes label ++ (" " ++ ("está visível" ++ rest)))
    exact ⟨label, hl, ⟨hopens, hl.2, _, _, _, rfl, by simpa only [String.append_assoc] using hfits⟩,
      rfl⟩
  | @present article noun label rest ha hn hl =>
    have hfits := fits_verifyLead ha hn (inQuotes label ++ (" " ++ ("existe" ++ rest)))
    exact ⟨label, hl, ⟨hopens, hl.2, _, _, _, rfl, by simpa only [String.append_assoc] using hfits⟩,
      rfl⟩
  | @containsText article noun label text rest ha hn hl ht =>
    have hfits := fits_verifyLead ha hn
      (inQuotes label ++ (" " ++ ("contém" ++ (" " ++ (inQuotes text ++ rest)))))
    exact ⟨label, hl, ⟨hopens, hl.2, _, _, _, rfl, by simpa only [String.append_assoc] using hfits⟩,
      rfl⟩

/-- Every element that is read from a sentence is named there by a quotation that is not empty. -/
theorem exists_names (hopens : action.verb.Opens s)
    (hread : action? action.verb s.toList = some action) (htarget : target ∈ action.targets) :
    ∃ label, Quotable label ∧ action.verb.Names s label ∧
      (target = .ofLabel label ∨ target = .ofFieldLabel label) := by
  -- The form of an action with an element takes one text or two, and the label is the last; for a
  -- scroll and an extraction the element may be missing.
  cases action with
  | click found | check found | uncheck found =>
    obtain rfl : target = found := List.mem_singleton.mp htarget
    obtain ⟨label, hlabel, ⟨⟩⟩ := Option.map_eq_some_iff.mp hread
    obtain ⟨hquotable, hnames⟩ := names_of_one? hopens rfl hlabel
    exact ⟨label, hquotable, hnames, .inl rfl⟩
  | fill field value | select field value =>
    obtain rfl : target = field := List.mem_singleton.mp htarget
    obtain ⟨⟨_, label⟩, hlabel, ⟨⟩⟩ := Option.map_eq_some_iff.mp hread
    obtain ⟨hquotable, hnames⟩ := names_of_two? hopens rfl hlabel
    exact ⟨label, hquotable, hnames, .inr rfl⟩
  | scroll found =>
    obtain rfl : found = some target := by simpa [Action.targets] using htarget
    simp only [Action.verb, action?, scroll?] at hread
    split at hread
    · obtain ⟨label, hlabel, ⟨⟩⟩ := Option.map_eq_some_iff.mp hread
      obtain ⟨hquotable, hnames⟩ := names_of_one? hopens rfl hlabel
      exact ⟨label, hquotable, hnames, .inl rfl⟩
    · cases hread
  | verify assertion =>
    cases assertion with
    | element found check =>
      obtain rfl : target = found := List.mem_singleton.mp htarget
      obtain ⟨_, hassertion, ⟨⟩⟩ := Option.map_eq_some_iff.mp hread
      obtain ⟨label, hquotable, hnames, rfl⟩ :=
        names_of_asserts (assertion?_eq_some_iff.mp hassertion).1
      exact ⟨label, hquotable, hnames, .inl rfl⟩
    | _ => simp [Action.targets] at htarget
  | extract description found =>
    obtain rfl : found = some target := by simpa [Action.targets] using htarget
    simp only [Action.verb, action?, Sentence.extract, Option.some.injEq, Action.extract.injEq,
      Option.map_eq_some_iff] at hread
    obtain ⟨-, label, hlabel, rfl⟩ := hread
    obtain ⟨hquotable, hnames⟩ := names_of_one? hopens rfl hlabel
    exact ⟨label, hquotable, hnames, .inl rfl⟩
  | _ => simp [Action.targets] at htarget

/-- A sentence that names an element asserts something of an element, if anything. -/
theorem family_of_asserts {assertion : Assertion} (h : Asserts s assertion)
    (hnames : Verb.verify.Names s label) : assertion.family = .element := by
  obtain ⟨-, -, _, texts, tail, ⟨⟩, hfits⟩ := hnames
  simp only [Form.fits_exactly_iff, Form.fits_anyOf_iff, Form.fits_nil_iff] at hfits
  obtain ⟨_, hs, article, ha, _, rfl, noun, hn, _, rfl, -, rfl⟩ := hfits
  have hs := congrArg String.toList hs
  have ha : article = "o " ∨ article = "a " := by simpa using ha
  have hn : noun = "elemento " ∨ noun = "element " := by simpa using hn
  cases h with
  | title rest hnoun =>
    rcases ha with rfl | rfl <;> rcases hn with rfl | rfl <;>
      rcases List.mem_pair.mp hnoun with rfl | rfl <;> simp at hs
  | url => rcases ha with rfl | rfl <;> rcases hn with rfl | rfl <;> simp at hs
  | log => rcases ha with rfl | rfl <;> simp at hs
  | _ => rfl

/-- An action of a sentence that names an element has one, unless it reads a text. -/
theorem targets_ne_nil (hread : action? action.verb s.toList = some action)
    (hnames : action.verb.Names s label) (hextract : action.verb ≠ .extract) :
    action.targets ≠ [] := by
  cases action with
  | scroll target =>
    cases target with
    | some target => simp [Action.targets]
    | none =>
      -- The words in front of the label ask for one.
      obtain ⟨-, -, _, texts, tail, ⟨⟩, hfits⟩ := hnames
      obtain ⟨tail, rfl, -⟩ := Form.fits_exactly_iff.mp hfits
      have hword : occursIn "até".toList ("Role até " ++ tail).toList = true :=
        occursIn_iff.mpr ⟨"Role ".toList, (" " ++ tail).toList, by simp⟩
      simp only [Action.verb, action?, scroll?, hword, if_true] at hread
      obtain ⟨_, -, ⟨⟩⟩ := Option.map_eq_some_iff.mp hread
  | verify assertion =>
    obtain ⟨_, hassertion, ⟨⟩⟩ := Option.map_eq_some_iff.mp hread
    have hfamily := family_of_asserts (assertion?_eq_some_iff.mp hassertion).1 hnames
    cases assertion with
    | element => simp [Action.targets]
    | _ => cases hfamily
  | extract => exact absurd rfl hextract
  | navigate | goBack | reload | wait | keyPress | screenshot | captureLogs =>
    obtain ⟨-, -, _, _, _, ⟨⟩, -⟩ := hnames
  | _ => simp [Action.targets]

end Verb

/-! ## Labels that can be seen -/

namespace Text.IsVisible

variable {s : String}

/-- What can be seen is not empty. -/
theorem ne_empty (h : IsVisible s) : s ≠ "" := by
  rintro rfl
  obtain ⟨c, hmem, -⟩ := h
  cases hmem

/-- Trimming leaves what can be seen. -/
theorem trimmed (h : IsVisible s) : IsVisible (Text.trimmed s) := by
  obtain ⟨c, hmem, hc⟩ := h
  obtain ⟨before, after, hbefore, hafter, heq⟩ := exists_eq_append_strip isBlank s.toList
  rw [heq, List.mem_append, List.mem_append] at hmem
  rw [IsVisible, toList_trimmed]
  rcases hmem with (hmem | hmem) | hmem
  · simp [hbefore c hmem] at hc
  · exact ⟨c, hmem, hc⟩
  · simp [hafter c hmem] at hc

/-- What can be seen has a word. -/
theorem exists_mem_words (h : IsVisible s) : ∃ word ∈ words s.toList, word ≠ [] := by
  obtain ⟨c, hmem, hc⟩ := h
  obtain ⟨word, hword, hmem⟩ := exists_mem_pieces hmem hc
  have hne : word ≠ [] := List.ne_nil_of_mem hmem
  exact ⟨word, List.mem_filter.mpr ⟨hword, by simpa using hne⟩, hne⟩

/-- What can be seen has a slug that is not empty. -/
theorem slugify_ne_empty (h : IsVisible s) : slugify s ≠ "" := by
  have hwords : hyphenated (words s.toList) ≠ [] := by
    obtain ⟨word, hword, hne⟩ := h.exists_mem_words
    unfold hyphenated
    split
    · rename_i heq
      simp [heq] at hword
    · rename_i only heq
      rw [heq, List.mem_singleton] at hword
      exact hword ▸ hne
    · simp
  simpa [slugify] using lower_ne_nil hwords

end Text.IsVisible

/-- An element whose label can be seen is not looked for under an empty text. -/
theorem Target.value_ne_empty {label : String} (h : IsVisible label) {target : Target}
    (htarget : target = .ofLabel label ∨ target = .ofFieldLabel label) :
    target.label ≠ "" ∧ ∀ locator ∈ target.locators, locator.value ≠ "" := by
  have hne : trimmed label ≠ "" := h.trimmed.ne_empty
  have hslug : slugify (trimmed label) ≠ "" := h.trimmed.slugify_ne_empty
  have hlabel : ∀ locator ∈ (Target.ofLabel label).locators, locator.value ≠ "" := by
    rintro locator hlocator
    simp only [Target.ofLabel, List.mem_cons, List.not_mem_nil, or_false] at hlocator
    -- All values are the label itself but for the last one, which is its slug.
    rcases hlocator with rfl | rfl | rfl | rfl | rfl
    · exact hne
    · exact hne
    · exact hne
    · exact hne
    · exact hslug
  rcases htarget with rfl | rfl
  · exact ⟨hne, hlabel⟩
  · have hcontrols : ∀ locator ∈ Target.controls.map (Locator.labelledControl (trimmed label)),
        locator.value ≠ "" := List.forall_mem_map.mpr fun _ _ => hne
    exact ⟨hne, List.forall_mem_append.mpr ⟨hlabel, hcontrols⟩⟩

/-! ## Sentences that name elements -/

/-- What the elements of a sentence are called. -/
structure Sentence.Labelled (sentence : String) : Prop where
  /-- Every element is named by a quotation of the sentence that is not empty; the label is that
  quotation, blanks around it left out. -/
  names : ∀ action target, Action.ofSentence sentence = .ok action → target ∈ action.targets →
    ∃ label, label ≠ "" ∧ action.verb.Names (trimmed sentence) label ∧
      target.label = trimmed label
  /-- Where the quotation can be seen, so can the label, and the element is looked for under texts
  that are not empty. -/
  visible : ∀ action target label, Action.ofSentence sentence = .ok action →
    target ∈ action.targets → action.verb.Names (trimmed sentence) label → IsVisible label →
    target.label ≠ "" ∧ ∀ locator ∈ target.locators, locator.value ≠ ""
  /-- A sentence that names its element by an empty quotation is refused, as a whole. -/
  malformed : ∀ verb : Verb, verb.Names (trimmed sentence) "" → verb ≠ .extract →
    Action.ofSentence sentence = .error (.malformed (trimmed sentence))
  /-- Only where a text is to be read, the sentence is taken as one without an element. -/
  extract : Verb.extract.Names (trimmed sentence) "" →
    ∃ description, Action.ofSentence sentence = .ok (.extract description none)

namespace Action

variable {sentence label : String} {action : Action} {target : Target}

/-- The element of an action is named by the quotation of its sentence. -/
theorem exists_names (h : ofSentence sentence = .ok action) (htarget : target ∈ action.targets) :
    ∃ label, Quotable label ∧ action.verb.Names (trimmed sentence) label ∧
      (target = .ofLabel label ∨ target = .ofFieldLabel label) := by
  obtain ⟨hopens, hread⟩ := ofSentence_eq_ok_iff.mp h
  exact Verb.exists_names hopens hread htarget

/-- No element is named by an empty quotation. -/
theorem targets_eq_nil (h : ofSentence sentence = .ok action)
    (hnames : action.verb.Names (trimmed sentence) "") : action.targets = [] := by
  by_contra hne
  obtain ⟨target, htarget⟩ := List.exists_mem_of_ne_nil _ hne
  obtain ⟨label, hquotable, hlabel, -⟩ := exists_names h htarget
  exact hquotable.1 (hlabel.unique hnames)

/-- Elements are named by quotations that are not empty, and are called what can be seen there. -/
theorem ofSentence_labelled (sentence : String) : Labelled sentence where
  names action target h htarget := by
    obtain ⟨label, hquotable, hnames, rfl | rfl⟩ := exists_names h htarget
    · exact ⟨label, hquotable.1, hnames, rfl⟩
    · exact ⟨label, hquotable.1, hnames, rfl⟩
  visible action target label h htarget hnames hvisible := by
    obtain ⟨other, -, hother, htarget⟩ := exists_names h htarget
    obtain rfl := hother.unique hnames
    exact Target.value_ne_empty hvisible htarget
  malformed verb hnames hextract := by
    rw [ofSentence_of_opens hnames.1]
    cases hread : action? verb (trimmed sentence).toList with
    | none => rfl
    | some action =>
      obtain rfl := verb_of_action? hread
      have hok : ofSentence sentence = .ok action := ofSentence_eq_ok_iff.mpr ⟨hnames.1, hread⟩
      exact absurd (targets_eq_nil hok hnames) (Verb.targets_ne_nil hread hnames hextract)
  extract hnames := by
    have hok := ofSentence_of_opens hnames.1
    cases hlabel : one? extractForm (trimmed sentence).toList with
    | none =>
      simp only [action?, Sentence.extract, hlabel, Option.map_none] at hok
      exact ⟨_, hok⟩
    | some label =>
      obtain ⟨hquotable, hother⟩ := Verb.names_of_one? hnames.1 rfl hlabel
      exact absurd (hother.unique hnames) hquotable.1

/-- Of a quotation that cannot be seen comes an element without a name, and an empty quotation is not
always refused. -/
theorem ofSentence_unlabelled :
    ofSentence "Clique no botão \" \"" =
        .ok (.click ⟨"", [.text "", .placeholder "", .ariaLabel "", .name "", .id ""]⟩) ∧
      ofSentence "Extraia o texto do elemento \"\"" =
        .ok (.extract "o texto do elemento" none) := by
  decide +kernel

end Action

end BrowserFlow
