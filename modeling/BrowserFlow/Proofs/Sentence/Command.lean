import BrowserFlow.Proofs.Sentence.Verb

/-!
# Commands by quoted labels

Clicking, filling in, choosing, ticking, unticking and scrolling to an element are commanded by a
sentence that names the element between double quotes. `Commands` is the grammar of these sentences,
written out; `Action.ofSentence_commanded` says that they are accepted exactly, that nothing of a
quoted text is lost, and what becomes of the other sentences that these verbs open.
-/

namespace BrowserFlow

open Text Sentence

/-- A sentence commands an action on an element that it names between double quotes. Anything may
follow the last double quote. -/
inductive Commands : String → Action → Prop
  /-- Clicking an element. -/
  | click {preposition kind label : String} (rest : String)
    (preposition_mem : preposition ∈ ["no", "na", "em"])
    (kind_mem : kind ∈ ["botão", "link", "aba", "elemento", "checkbox"])
    (label_quotable : Quotable label) :
    Commands ("Clique " ++ preposition ++ " " ++ kind ++ " " ++ inQuotes label ++ rest)
      (.click (.ofLabel label))
  /-- Filling in a field. -/
  | fill {value preposition kind label : String} (rest : String) (value_quotable : Quotable value)
    (preposition_mem : preposition ∈ ["no", "na", "em"])
    (kind_mem : kind ∈ ["campo", "input", "textarea", "caixa"]) (label_quotable : Quotable label) :
    Commands ("Digite " ++ inQuotes value ++ " " ++ preposition ++ " " ++ kind ++ " " ++
      inQuotes label ++ rest) (.fill (.ofFieldLabel label) value)
  /-- Choosing an option of a field. -/
  | select {value preposition kind label : String} (rest : String) (value_quotable : Quotable value)
    (preposition_mem : preposition ∈ ["no", "na", "em", "do"])
    (kind_mem : kind ∈ ["dropdown", "select", "campo", "seletor"])
    (label_quotable : Quotable label) :
    Commands ("Selecione " ++ inQuotes value ++ " " ++ preposition ++ " " ++ kind ++ " " ++
      inQuotes label ++ rest) (.select (.ofFieldLabel label) value)
  /-- Ticking a box. -/
  | check {article kind label : String} (rest : String) (article_mem : article ∈ ["a", "o"])
    (kind_mem : kind ∈ ["checkbox", "caixa"]) (label_quotable : Quotable label) :
    Commands ("Marque " ++ article ++ " " ++ kind ++ " " ++ inQuotes label ++ rest)
      (.check (.ofLabel label))
  /-- Unticking a box. -/
  | uncheck {article kind label : String} (rest : String) (article_mem : article ∈ ["a", "o"])
    (kind_mem : kind ∈ ["checkbox", "caixa"]) (label_quotable : Quotable label) :
    Commands ("Desmarque " ++ article ++ " " ++ kind ++ " " ++ inQuotes label ++ rest)
      (.uncheck (.ofLabel label))
  /-- Scrolling to an element. -/
  | scroll {article kind label : String} (rest : String) (article_mem : article ∈ ["o", "a"])
    (kind_mem : kind ∈ ["elemento", "seção", "secção", "div", "tabela"])
    (label_quotable : Quotable label) :
    Commands ("Role até " ++ article ++ " " ++ kind ++ " " ++ inQuotes label ++ rest)
      (.scroll (some (.ofLabel label)))

/-- The verbs of commands by quoted labels. -/
def Verb.commanding : List Verb := [.click, .fill, .select, .check, .uncheck, .scroll]

/-- An action is commanded by a quoted label. -/
def Action.IsCommand : Action → Prop
  | .click _ | .fill _ _ | .select _ _ | .check _ | .uncheck _ | .scroll (some _) => True
  | _ => False

/-! ## Forms with a label -/

namespace Sentence

variable {s label value rest : String} {texts words kinds : List String}

/-- The end of these forms names an element: a word, the kind of the element and its label. -/
theorem Form.fits_label_iff {spaced : String → String} :
    Fits [.anyOf (words.map spaced), .anyOf (kinds.map (· ++ " ")), .quotation] s texts rest ↔
      ∃ word ∈ words, ∃ kind ∈ kinds, ∃ label, Quotable label ∧ texts = [label] ∧
        s = spaced word ++ kind ++ " " ++ inQuotes label ++ rest := by
  simp only [fits_anyOf_map_iff, fits_quotation_iff, fits_nil_iff]
  constructor
  · rintro ⟨word, hw, _, rfl, kind, hk, _, rfl, label, _, _, hl, rfl, rfl, rfl, rfl⟩
    exact ⟨word, hw, kind, hk, label, hl, rfl, by simp only [String.append_assoc]⟩
  · rintro ⟨word, hw, kind, hk, label, hl, rfl, rfl⟩
    exact ⟨word, hw, kind ++ " " ++ inQuotes label ++ rest, by simp only [String.append_assoc],
      kind, hk, inQuotes label ++ rest, by simp only [String.append_assoc],
      label, rest, [], hl, rfl, rfl, rfl, rfl⟩

/-- A label is read behind words that stand as they are. -/
theorem one?_label_iff (lead : String) (words kinds : List String)
    (hclear : Form.IsClear [.exactly lead, .anyOf (words.map (· ++ " ")),
      .anyOf (kinds.map (· ++ " ")), .quotation]) :
    one? [.exactly lead, .anyOf (words.map (· ++ " ")), .anyOf (kinds.map (· ++ " ")), .quotation]
        s.toList = some label ↔
      ∃ word ∈ words, ∃ kind ∈ kinds, Quotable label ∧
        ∃ rest, s = lead ++ word ++ " " ++ kind ++ " " ++ inQuotes label ++ rest := by
  rw [Form.one?_eq_some_iff hclear]
  simp only [Form.fits_exactly_iff, Form.fits_label_iff]
  constructor
  · rintro ⟨rest, _, rfl, word, hw, kind, hk, _, hl, ⟨⟩, rfl⟩
    exact ⟨word, hw, kind, hk, hl, rest, by simp only [String.append_assoc]⟩
  · rintro ⟨word, hw, kind, hk, hl, rest, rfl⟩
    exact ⟨rest, word ++ " " ++ kind ++ " " ++ inQuotes label ++ rest,
      by simp only [String.append_assoc], word, hw, kind, hk, label, hl, rfl, rfl⟩

/-- A value and a label are read, one behind the other. -/
theorem two?_label_iff (lead : String) (words kinds : List String)
    (hclear : Form.IsClear [.exactly lead, .quotation, .anyOf (words.map (" " ++ · ++ " ")),
      .anyOf (kinds.map (· ++ " ")), .quotation]) :
    two? [.exactly lead, .quotation, .anyOf (words.map (" " ++ · ++ " ")),
        .anyOf (kinds.map (· ++ " ")), .quotation] s.toList = some (value, label) ↔
      ∃ word ∈ words, ∃ kind ∈ kinds, Quotable value ∧ Quotable label ∧
        ∃ rest, s = lead ++ inQuotes value ++ " " ++ word ++ " " ++ kind ++ " " ++
          inQuotes label ++ rest := by
  rw [Form.two?_eq_some_iff hclear]
  simp only [Form.fits_exactly_iff, Form.fits_label_iff, Form.fits_quotation_iff]
  constructor
  · rintro ⟨rest, _, rfl, _, _, _, hv, rfl, ⟨⟩, word, hw, kind, hk, _, hl, ⟨⟩, rfl⟩
    exact ⟨word, hw, kind, hk, hv, hl, rest, by simp only [String.append_assoc]⟩
  · rintro ⟨word, hw, kind, hk, hv, hl, rest, rfl⟩
    exact ⟨rest, inQuotes value ++ (" " ++ word ++ " " ++ kind ++ " " ++ inQuotes label ++ rest),
      by simp only [String.append_assoc], value, _, [label], hv, rfl, rfl,
      word, hw, kind, hk, label, hl, rfl, rfl⟩

theorem one?_clickForm_iff : one? clickForm s.toList = some label ↔
    ∃ preposition ∈ ["no", "na", "em"],
      ∃ kind ∈ ["botão", "link", "aba", "elemento", "checkbox"], Quotable label ∧
        ∃ rest, s = "Clique " ++ preposition ++ " " ++ kind ++ " " ++ inQuotes label ++ rest :=
  one?_label_iff "Clique " ["no", "na", "em"] ["botão", "link", "aba", "elemento", "checkbox"]
    (by decide)

theorem two?_fillForm_iff : two? fillForm s.toList = some (value, label) ↔
    ∃ preposition ∈ ["no", "na", "em"], ∃ kind ∈ ["campo", "input", "textarea", "caixa"],
      Quotable value ∧ Quotable label ∧
        ∃ rest, s = "Digite " ++ inQuotes value ++ " " ++ preposition ++ " " ++ kind ++ " " ++
          inQuotes label ++ rest :=
  two?_label_iff "Digite " ["no", "na", "em"] ["campo", "input", "textarea", "caixa"] (by decide)

theorem two?_selectForm_iff : two? selectForm s.toList = some (value, label) ↔
    ∃ preposition ∈ ["no", "na", "em", "do"],
      ∃ kind ∈ ["dropdown", "select", "campo", "seletor"], Quotable value ∧ Quotable label ∧
        ∃ rest, s = "Selecione " ++ inQuotes value ++ " " ++ preposition ++ " " ++ kind ++ " " ++
          inQuotes label ++ rest :=
  two?_label_iff "Selecione " ["no", "na", "em", "do"] ["dropdown", "select", "campo", "seletor"]
    (by decide)

/-- Boxes are named in the same way for both verbs. -/
theorem one?_checkboxForm_iff : one? checkboxForm s.toList = some label ↔
    ∃ verb ∈ ["Marque ", "Desmarque "], ∃ article ∈ ["a", "o"], ∃ kind ∈ ["checkbox", "caixa"],
      Quotable label ∧
        ∃ rest, s = verb ++ article ++ " " ++ kind ++ " " ++ inQuotes label ++ rest := by
  rw [Form.one?_eq_some_iff (by decide), show checkboxForm = [
    .anyOf ["Marque ", "Desmarque "], .anyOf (["a", "o"].map (· ++ " ")),
    .anyOf (["checkbox", "caixa"].map (· ++ " ")), .quotation] from rfl]
  constructor
  · rintro ⟨rest, hfits⟩
    obtain ⟨verb, hverb, _, rfl, hlabel⟩ := Form.fits_anyOf_iff.mp hfits
    obtain ⟨article, ha, kind, hk, _, hl, ⟨⟩, rfl⟩ := Form.fits_label_iff.mp hlabel
    exact ⟨verb, hverb, article, ha, kind, hk, hl, rest, by simp only [String.append_assoc]⟩
  · rintro ⟨verb, hverb, article, ha, kind, hk, hl, rest, rfl⟩
    exact ⟨rest, Form.fits_anyOf_iff.mpr
      ⟨verb, hverb, article ++ " " ++ kind ++ " " ++ inQuotes label ++ rest,
        by simp only [String.append_assoc],
        Form.fits_label_iff.mpr ⟨article, ha, kind, hk, label, hl, rfl, rfl⟩⟩⟩

theorem one?_scrollForm_iff : one? scrollForm s.toList = some label ↔
    ∃ article ∈ ["o", "a"], ∃ kind ∈ ["elemento", "seção", "secção", "div", "tabela"],
      Quotable label ∧
        ∃ rest, s = "Role até " ++ article ++ " " ++ kind ++ " " ++ inQuotes label ++ rest :=
  one?_label_iff "Role até " ["o", "a"] ["elemento", "seção", "secção", "div", "tabela"]
    (by decide)

end Sentence

namespace Commands

variable {s : String} {action : Action}

/-! ## Every command is read -/

/-- What is commanded by a quoted label is such a command. -/
theorem isCommand (h : Commands s action) : action.IsCommand := by
  cases h <;> trivial

/-- A command is opened by its verb. -/
theorem opens (h : Commands s action) : action.verb.Opens s := by
  cases h <;> simp [Verb.Opens, Action.verb, Verb.opening]

/-- A command is read as the action that it commands. -/
theorem action?_eq (h : Commands s action) : action? action.verb s.toList = some action := by
  cases h with
  | click rest hp hk hl =>
    have hread := one?_clickForm_iff.mpr ⟨_, hp, _, hk, hl, rest, rfl⟩
    simp only [Action.verb, action?, hread, Option.map_some]
  | fill rest hv hp hk hl =>
    have hread := two?_fillForm_iff.mpr ⟨_, hp, _, hk, hv, hl, rest, rfl⟩
    simp only [Action.verb, action?, hread, Option.map_some]
  | select rest hv hp hk hl =>
    have hread := two?_selectForm_iff.mpr ⟨_, hp, _, hk, hv, hl, rest, rfl⟩
    simp only [Action.verb, action?, hread, Option.map_some]
  | check rest ha hk hl =>
    have hread := one?_checkboxForm_iff.mpr ⟨"Marque ", by simp, _, ha, _, hk, hl, rest, rfl⟩
    simp only [Action.verb, action?, hread, Option.map_some]
  | uncheck rest ha hk hl =>
    have hread := one?_checkboxForm_iff.mpr ⟨"Desmarque ", by simp, _, ha, _, hk, hl, rest, rfl⟩
    simp only [Action.verb, action?, hread, Option.map_some]
  | @scroll article kind label rest ha hk hl =>
    have hread := one?_scrollForm_iff.mpr ⟨_, ha, _, hk, hl, rest, rfl⟩
    -- The words of the form contain the word that is looked for.
    have hword : occursIn "até".toList
        ("Role até " ++ article ++ " " ++ kind ++ " " ++ inQuotes label ++ rest).toList = true := by
      rw [occursIn_iff]
      exact ⟨"Role ".toList,
        (" " ++ article ++ " " ++ kind ++ " " ++ inQuotes label ++ rest).toList, by simp⟩
    simp only [Action.verb, action?, scroll?, hword, if_true, hread, Option.map_some]

/-! ## Only commands are read -/

/-- A sentence that is read as a command is one. -/
theorem of_action? (hread : action? action.verb s.toList = some action)
    (hopens : action.verb.Opens s) (hcommand : action.IsCommand) : Commands s action := by
  cases action with
  | click target =>
    obtain ⟨label, hlabel, ⟨⟩⟩ := Option.map_eq_some_iff.mp hread
    obtain ⟨_, hp, _, hk, hl, rest, rfl⟩ := one?_clickForm_iff.mp hlabel
    exact .click rest hp hk hl
  | fill field value =>
    obtain ⟨⟨value, label⟩, hlabel, ⟨⟩⟩ := Option.map_eq_some_iff.mp hread
    obtain ⟨_, hp, _, hk, hv, hl, rest, rfl⟩ := two?_fillForm_iff.mp hlabel
    exact .fill rest hv hp hk hl
  | select field value =>
    obtain ⟨⟨value, label⟩, hlabel, ⟨⟩⟩ := Option.map_eq_some_iff.mp hread
    obtain ⟨_, hp, _, hk, hv, hl, rest, rfl⟩ := two?_selectForm_iff.mp hlabel
    exact .select rest hv hp hk hl
  | check target =>
    obtain ⟨label, hlabel, ⟨⟩⟩ := Option.map_eq_some_iff.mp hread
    obtain ⟨verb, hverb, _, ha, _, hk, hl, rest, rfl⟩ := one?_checkboxForm_iff.mp hlabel
    obtain rfl | rfl : verb = "Marque " ∨ verb = "Desmarque " := by simpa using hverb
    · exact .check rest ha hk hl
    · -- The form alone would let the other verb pass.
      cases hopens.unique (Commands.uncheck rest ha hk hl).opens
  | uncheck target =>
    obtain ⟨label, hlabel, ⟨⟩⟩ := Option.map_eq_some_iff.mp hread
    obtain ⟨verb, hverb, _, ha, _, hk, hl, rest, rfl⟩ := one?_checkboxForm_iff.mp hlabel
    obtain rfl | rfl : verb = "Marque " ∨ verb = "Desmarque " := by simpa using hverb
    · cases hopens.unique (Commands.check rest ha hk hl).opens
    · exact .uncheck rest ha hk hl
  | scroll target =>
    simp only [Action.verb, action?, scroll?] at hread
    split at hread
    · obtain ⟨label, hlabel, ⟨⟩⟩ := Option.map_eq_some_iff.mp hread
      obtain ⟨_, ha, _, hk, hl, rest, rfl⟩ := one?_scrollForm_iff.mp hlabel
      exact .scroll rest ha hk hl
    · cases hread
      exact hcommand.elim
  | _ => exact hcommand.elim

end Commands

/-! ## Sentences that these verbs open -/

/-- What becomes of a sentence as a command by a quoted label. -/
structure Sentence.Commanded (sentence : String) : Prop where
  /-- It asks for such an action exactly if it commands it, blanks around it left out. -/
  ofSentence_iff : ∀ action, Action.ofSentence sentence = .ok action ∧ action.IsCommand ↔
    Commands (trimmed sentence) action
  /-- The action is one of the verb that opens the sentence. -/
  verb_eq : ∀ action verb, Commands (trimmed sentence) action → verb.Opens (trimmed sentence) →
    action.verb = verb
  /-- The element is named by the quoted label, without the blanks around it. -/
  label_eq : ∀ label, (Target.ofLabel label).label = trimmed label ∧
    (Target.ofFieldLabel label).label = trimmed label
  /-- Scrolling without a destination leads to the bottom. -/
  scroll_down : Verb.scroll.Opens (trimmed sentence) →
    ¬ "até".toList <:+: (trimmed sentence).toList →
    Action.ofSentence sentence = .ok (.scroll none)
  /-- Any other sentence that such a verb opens is refused, as a whole. -/
  malformed : ∀ verb ∈ Verb.commanding, verb.Opens (trimmed sentence) →
    (∀ action, ¬ Commands (trimmed sentence) action) →
    (verb = .scroll → "até".toList <:+: (trimmed sentence).toList) →
    Action.ofSentence sentence = .error (.malformed (trimmed sentence))

/-- Of the verbs of commands, only scrolling does without a label. -/
theorem Action.isCommand_or_scroll {action : Action} (h : action.verb ∈ Verb.commanding) :
    action.IsCommand ∨ action = .scroll none := by
  cases action with
  | scroll target => cases target <;> simp [IsCommand]
  | _ => first | exact .inl trivial | simp [verb, Verb.commanding] at h

/-- Commands by quoted labels are accepted exactly, and without losing text. -/
theorem Action.ofSentence_commanded (sentence : String) : Commanded sentence where
  ofSentence_iff action := by
    rw [ofSentence_eq_ok_iff]
    constructor
    · rintro ⟨⟨hopens, hread⟩, hcommand⟩
      exact .of_action? hread hopens hcommand
    · intro h
      exact ⟨⟨h.opens, h.action?_eq⟩, h.isCommand⟩
  verb_eq action verb h hopens := h.opens.unique hopens
  label_eq label := ⟨rfl, rfl⟩
  scroll_down hopens hword := by
    have hread : action? .scroll (trimmed sentence).toList = some (.scroll none) := by
      simp only [action?, scroll?, mt occursIn_iff.mp hword, if_false, reduceCtorEq]
    exact ofSentence_eq_ok_iff.mpr ⟨hopens, hread⟩
  malformed verb hverb hopens hnone hword := by
    rw [ofSentence_of_opens hopens]
    cases hread : action? verb (trimmed sentence).toList with
    | none => rfl
    | some action =>
      obtain rfl := verb_of_action? hread
      exfalso
      rcases isCommand_or_scroll hverb with hcommand | rfl
      · exact hnone action (.of_action? hread hopens hcommand)
      · -- Without a label, the sentence does not contain the word that asks for one.
        simp only [verb, action?, scroll?, occursIn_iff.mpr (hword rfl), if_true] at hread
        obtain ⟨label, -, hnone⟩ := Option.map_eq_some_iff.mp hread
        cases hnone

end BrowserFlow
