import BrowserFlow.Proofs.Sentence.Verb

/-!
# Assertions

What a sentence asserts is decided in two steps. The words that announce a family of assertions are
looked for anywhere in the sentence, also between quotes; the sentence is then read as an assertion
of the first family announced, and of no other one. `Asserts` is the grammar of the assertions,
written out, and `Action.ofSentence_asserting` says what the two steps accept together: the
sentences of the grammar in which no earlier family is announced.
-/

namespace BrowserFlow

open Text Sentence

/-- The words for the comparisons of texts. -/
inductive Comparison.IsCalled : Comparison → String → Prop
  | equals : IsCalled .equals "é"
  | contains : IsCalled .contains "contém"

/-- A sentence makes an assertion. Anything may follow the last piece shown. -/
inductive Asserts : String → Assertion → Prop
  /-- About the title. -/
  | title {noun word text : String} {mode : Comparison} (rest : String)
    (noun_mem : noun ∈ ["título", "title"]) (mode_called : mode.IsCalled word)
    (text_quotable : Quotable text) :
    Asserts ("Verifique se o " ++ noun ++ " " ++ word ++ " " ++ inQuotes text ++ rest)
      (.title mode text)
  /-- An element can be seen. -/
  | visible {article noun label : String} (rest : String) (article_mem : article ∈ ["o", "a"])
    (noun_mem : noun ∈ ["elemento", "element"]) (label_quotable : Quotable label) :
    Asserts ("Verifique se " ++ article ++ " " ++ noun ++ " " ++ inQuotes label ++ " " ++
      "está visível" ++ rest) (.element (.ofLabel label) .visible)
  /-- An element is there. -/
  | present {article noun label : String} (rest : String) (article_mem : article ∈ ["o", "a"])
    (noun_mem : noun ∈ ["elemento", "element"]) (label_quotable : Quotable label) :
    Asserts ("Verifique se " ++ article ++ " " ++ noun ++ " " ++ inQuotes label ++ " " ++
      "existe" ++ rest) (.element (.ofLabel label) .present)
  /-- An element contains a text. -/
  | containsText {article noun label text : String} (rest : String)
    (article_mem : article ∈ ["o", "a"]) (noun_mem : noun ∈ ["elemento", "element"])
    (label_quotable : Quotable label) (text_quotable : Quotable text) :
    Asserts ("Verifique se " ++ article ++ " " ++ noun ++ " " ++ inQuotes label ++ " " ++
      "contém" ++ " " ++ inQuotes text ++ rest) (.element (.ofLabel label) (.containsText text))
  /-- About the address. -/
  | url {word text : String} {mode : Comparison} (rest : String) (mode_called : mode.IsCalled word)
    (text_quotable : Quotable text) :
    Asserts ("Verifique se a URL " ++ word ++ " " ++ inQuotes text ++ rest) (.url mode text)
  /-- About the console. -/
  | log {article text : String} (rest : String) (article_mem : article ∈ ["o", "um"])
    (text_quotable : Quotable text) :
    Asserts ("Verifique se existe " ++ article ++ " " ++ "log" ++ " " ++ inQuotes text ++ rest)
      (.log text)

/-! ## Families -/

/-- The families of assertions. -/
inductive Assertion.Family
  | title | element | url | log
  deriving DecidableEq

/-- The family of an assertion. -/
def Assertion.family : Assertion → Family
  | .title _ _ => .title
  | .element _ _ => .element
  | .url _ _ => .url
  | .log _ => .log

namespace Assertion.Family

/-- The words that announce a family. -/
def words : Family → List String
  | title => ["título", "title"]
  | element => ["elemento", "element"]
  | url => ["URL"]
  | log => ["log"]

/-- The families that come before another one. -/
def earlier : Family → List Family
  | title => []
  | element => [title]
  | url => [title, element]
  | log => [title, element, url]

/-- How an assertion of a family is read. -/
def read? : Family → List Char → Option Assertion
  | title => title?
  | element => element?
  | url => url?
  | log => log?

/-- A family is announced in a sentence: one of its words occurs anywhere in it. -/
def AnnouncedIn (family : Family) (s : String) : Prop :=
  ∃ word ∈ family.words, word.toList <:+: s.toList

/-- The families in the order of their precedence. -/
def all : List Family := [title, element, url, log]

/-- The first family of a kind is of that kind, and no earlier one is. -/
theorem find?_all_eq_some_iff {p : Family → Bool} {family : Family} :
    all.find? p = some family ↔ p family = true ∧ ∀ other ∈ family.earlier, p other = false := by
  cases family <;> simp only [all, List.find?_cons, earlier] <;> grind

/-- The families in the order in which they are looked for. -/
theorem families_eq : families = all.map fun family => (family.words, family.read?) := rfl

end Assertion.Family

open Assertion (Family)

namespace Asserts

variable {s : String} {assertion : Assertion}

/-- An assertion announces its own family. -/
theorem announced (h : Asserts s assertion) : assertion.family.AnnouncedIn s := by
  -- Around the word stands what the form has before it and behind it.
  cases h with
  | @title noun word text mode rest hn hm ht =>
    exact ⟨noun, hn, "Verifique se o ".toList,
      (" " ++ word ++ " " ++ inQuotes text ++ rest).toList, by simp⟩
  | @visible article noun label rest ha hn hl =>
    exact ⟨noun, hn, ("Verifique se " ++ article ++ " ").toList,
      (" " ++ inQuotes label ++ " " ++ "está visível" ++ rest).toList, by simp⟩
  | @present article noun label rest ha hn hl =>
    exact ⟨noun, hn, ("Verifique se " ++ article ++ " ").toList,
      (" " ++ inQuotes label ++ " " ++ "existe" ++ rest).toList, by simp⟩
  | @containsText article noun label text rest ha hn hl ht =>
    exact ⟨noun, hn, ("Verifique se " ++ article ++ " ").toList,
      (" " ++ inQuotes label ++ " " ++ "contém" ++ " " ++ inQuotes text ++ rest).toList, by simp⟩
  | @url word text mode rest hm ht =>
    exact ⟨"URL", by simp [Family.words, Assertion.family], "Verifique se a ".toList,
      (" " ++ word ++ " " ++ inQuotes text ++ rest).toList, by simp⟩
  | @log article text rest ha ht =>
    exact ⟨"log", by simp [Family.words, Assertion.family],
      ("Verifique se existe " ++ article ++ " ").toList,
      (" " ++ inQuotes text ++ rest).toList, by simp⟩

end Asserts

/-! ## Reading by one family -/

namespace Sentence

variable {s text label word : String} {assertion : Assertion}

/-- The sentences about titles with one comparison. -/
theorem one?_titleForm_iff (hword : word ∈ ["é", "contém"]) :
    one? (titleForm word) s.toList = some text ↔
      ∃ noun ∈ ["título", "title"], Quotable text ∧
        ∃ rest, s = "Verifique se o " ++ noun ++ " " ++ word ++ " " ++ inQuotes text ++ rest := by
  have hclear : Form.IsClear (titleForm word) := by
    obtain rfl | rfl : word = "é" ∨ word = "contém" := by simpa using hword
    · decide
    · decide
  -- The form has the blank in its choices, and the sentence has it behind the noun.
  rw [Form.one?_eq_some_iff hclear, show titleForm word = [
    .exactly "Verifique se o ", .anyOf (["título", "title"].map (· ++ " ")), .exactly word,
    .exactly " ", .quotation] from rfl]
  constructor
  · rintro ⟨rest, hfits⟩
    simp only [Form.fits_exactly_iff, Form.fits_anyOf_map_iff, Form.fits_quotation_iff,
      Form.fits_nil_iff] at hfits
    obtain ⟨_, rfl, noun, hn, _, rfl, _, rfl, _, rfl, _, rest, _, ht, rfl, ⟨⟩, -, rfl⟩ := hfits
    exact ⟨noun, hn, ht, rest, by simp only [String.append_assoc]⟩
  · rintro ⟨noun, hn, ht, rest, rfl⟩
    have hfits : Form.Fits _ _ [text] rest :=
      .exactly "Verifique se o " (.anyOf (List.mem_map_of_mem (f := (· ++ " ")) hn)
        (.exactly word (.exactly " " (.quotation ht (.nil rest)))))
    exact ⟨rest, by simpa only [String.append_assoc] using hfits⟩

/-- The sentences about addresses with one comparison. -/
theorem one?_urlForm_iff : one? (urlForm word) s.toList = some text ↔
    Quotable text ∧ ∃ rest, s = "Verifique se a URL " ++ word ++ " " ++ inQuotes text ++ rest := by
  rw [Form.one?_eq_some_iff (by simp [Form.IsClear, urlForm, Piece.choices]), urlForm]
  constructor
  · rintro ⟨rest, hfits⟩
    simp only [Form.fits_exactly_iff, Form.fits_quotation_iff, Form.fits_nil_iff] at hfits
    obtain ⟨_, rfl, _, rfl, _, rfl, _, rest, _, ht, rfl, ⟨⟩, -, rfl⟩ := hfits
    exact ⟨ht, rest, by simp only [String.append_assoc]⟩
  · rintro ⟨ht, rest, rfl⟩
    have hfits : Form.Fits _ _ [text] rest :=
      .exactly "Verifique se a URL " (.exactly word (.exactly " " (.quotation ht (.nil rest))))
    exact ⟨rest, by simpa only [String.append_assoc] using hfits⟩

/-- A sentence about an element names it, and goes on with what is said of it. -/
theorem fits_elementForm_iff {more : Form} {texts : List String} {rest : String} :
    Form.Fits (elementForm more) s texts rest ↔
      ∃ article ∈ ["o", "a"], ∃ noun ∈ ["elemento", "element"], ∃ label said others,
        Quotable label ∧ texts = label :: others ∧ Form.Fits more said others rest ∧
          s = "Verifique se " ++ article ++ " " ++ noun ++ " " ++ inQuotes label ++ " " ++ said := by
  rw [show elementForm more = .exactly "Verifique se " :: .anyOf (["o", "a"].map (· ++ " ")) ::
    .anyOf (["elemento", "element"].map (· ++ " ")) :: .quotation :: .exactly " " :: more from rfl]
  constructor
  · intro hfits
    obtain ⟨_, rfl, hnamed⟩ := Form.fits_exactly_iff.mp hfits
    simp only [Form.fits_anyOf_map_iff, Form.fits_quotation_iff] at hnamed
    obtain ⟨article, ha, _, rfl, noun, hn, _, rfl, label, _, others, hl, rfl, rfl, htail⟩ := hnamed
    obtain ⟨said, rfl, hmore⟩ := Form.fits_exactly_iff.mp htail
    exact ⟨article, ha, noun, hn, label, said, others, hl, rfl, hmore,
      by simp only [String.append_assoc]⟩
  · rintro ⟨article, ha, noun, hn, label, said, others, hl, rfl, hmore, rfl⟩
    have hfits : Form.Fits _ _ (label :: others) rest :=
      .exactly "Verifique se " (.anyOf (List.mem_map_of_mem (f := (· ++ " ")) ha)
        (.anyOf (List.mem_map_of_mem (f := (· ++ " ")) hn) (.quotation hl (.exactly " " hmore))))
    simpa only [String.append_assoc] using hfits

/-- The sentences about elements of which one fact is asserted. -/
theorem one?_elementForm_iff : one? (elementForm [.exactly word]) s.toList = some label ↔
    ∃ article ∈ ["o", "a"], ∃ noun ∈ ["elemento", "element"], Quotable label ∧
      ∃ rest, s = "Verifique se " ++ article ++ " " ++ noun ++ " " ++ inQuotes label ++ " " ++
        word ++ rest := by
  have hclear : Form.IsClear (elementForm [.exactly word]) := by
    have hhead : Form.IsClear (elementForm []) := by decide
    simp_all [Form.IsClear, elementForm, Piece.choices]
  rw [Form.one?_eq_some_iff hclear]
  simp only [fits_elementForm_iff, Form.fits_exactly_iff, Form.fits_nil_iff]
  constructor
  · rintro ⟨_, article, ha, noun, hn, _, _, _, hl, ⟨⟩, ⟨rest, rfl, -, rfl⟩, rfl⟩
    exact ⟨article, ha, noun, hn, hl, rest, by simp only [String.append_assoc]⟩
  · rintro ⟨article, ha, noun, hn, hl, rest, rfl⟩
    exact ⟨rest, article, ha, noun, hn, label, word ++ rest, [], hl, rfl, ⟨rest, rfl, rfl, rfl⟩,
      by simp only [String.append_assoc]⟩

/-- The sentences about elements that contain a text. -/
theorem two?_elementForm_iff :
    two? (elementForm [.exactly "contém ", .quotation]) s.toList = some (label, text) ↔
      ∃ article ∈ ["o", "a"], ∃ noun ∈ ["elemento", "element"], Quotable label ∧ Quotable text ∧
        ∃ rest, s = "Verifique se " ++ article ++ " " ++ noun ++ " " ++ inQuotes label ++ " " ++
          "contém" ++ " " ++ inQuotes text ++ rest := by
  have hword : "contém " = "contém" ++ " " := rfl
  rw [Form.two?_eq_some_iff (by decide), hword]
  simp only [fits_elementForm_iff, Form.fits_exactly_iff, Form.fits_quotation_iff,
    Form.fits_nil_iff]
  constructor
  · rintro ⟨_, article, ha, noun, hn, _, _, _, hl, ⟨⟩, ⟨_, rfl, _, rest, _, ht, rfl, ⟨⟩, -, rfl⟩,
      rfl⟩
    exact ⟨article, ha, noun, hn, hl, ht, rest, by simp only [String.append_assoc]⟩
  · rintro ⟨article, ha, noun, hn, hl, ht, rest, rfl⟩
    exact ⟨rest, article, ha, noun, hn, label, "contém" ++ " " ++ (inQuotes text ++ rest), [text], hl,
      rfl, ⟨_, rfl, text, rest, [], ht, rfl, rfl, rfl, rfl⟩, by simp only [String.append_assoc]⟩

/-- What is read by the family of titles. -/
theorem title?_eq_some_iff :
    title? s.toList = some assertion ↔ Asserts s assertion ∧ assertion.family = .title := by
  simp only [title?, Option.orElse_eq_orElse, Option.orElse_eq_or, Option.or_eq_some_iff,
    Option.map_eq_some_iff, Option.map_eq_none_iff]
  constructor
  · rintro (⟨text, hread, rfl⟩ | ⟨-, text, hread, rfl⟩)
    · obtain ⟨noun, hn, ht, rest, rfl⟩ := (one?_titleForm_iff (by simp)).mp hread
      exact ⟨.title rest hn .equals ht, rfl⟩
    · obtain ⟨noun, hn, ht, rest, rfl⟩ := (one?_titleForm_iff (by simp)).mp hread
      exact ⟨.title rest hn .contains ht, rfl⟩
  · rintro ⟨h, hfamily⟩
    cases h with
    | @title noun _ text _ rest hn hm ht =>
      cases hm with
      | equals =>
        exact .inl ⟨text, (one?_titleForm_iff (by simp)).mpr ⟨noun, hn, ht, rest, rfl⟩, rfl⟩
      | contains =>
        -- The other word is tried first, and does not fit: neither word is the beginning of the
        -- other.
        have hread : one? (titleForm "contém") _ = some text :=
          (one?_titleForm_iff (by simp)).mpr ⟨noun, hn, ht, rest, rfl⟩
        obtain ⟨rest, hfits⟩ := (Form.one?_eq_some_iff (by decide)).mp hread
        have hnone := hfits.read?_eq_none
          [.exactly "Verifique se o ", .anyOf ["título ", "title "]] "é" [.exactly " ", .quotation]
          (by decide) (by decide) (by decide)
        exact .inr ⟨Form.one?_eq_none hnone, text, hread, rfl⟩
    | _ => cases hfamily

/-- What is read by the family of elements. -/
theorem element?_eq_some_iff :
    element? s.toList = some assertion ↔ Asserts s assertion ∧ assertion.family = .element := by
  simp only [element?, Option.orElse_eq_orElse, Option.orElse_eq_or, Option.or_eq_some_iff,
    Option.map_eq_some_iff, Option.map_eq_none_iff, Prod.exists]
  constructor
  · rintro (⟨label, hread, rfl⟩ | ⟨-, ⟨label, hread, rfl⟩ | ⟨-, label, text, hread, rfl⟩⟩)
    · obtain ⟨article, ha, noun, hn, hl, rest, rfl⟩ := one?_elementForm_iff.mp hread
      exact ⟨.visible rest ha hn hl, rfl⟩
    · obtain ⟨article, ha, noun, hn, hl, rest, rfl⟩ := one?_elementForm_iff.mp hread
      exact ⟨.present rest ha hn hl, rfl⟩
    · obtain ⟨article, ha, noun, hn, hl, ht, rest, rfl⟩ := two?_elementForm_iff.mp hread
      exact ⟨.containsText rest ha hn hl ht, rfl⟩
  · rintro ⟨h, hfamily⟩
    cases h with
    | @visible article noun label rest ha hn hl =>
      exact .inl ⟨label, one?_elementForm_iff.mpr ⟨article, ha, noun, hn, hl, rest, rfl⟩, rfl⟩
    | @present article noun label rest ha hn hl =>
      have hread : one? (elementForm [.exactly "existe"]) _ = some label :=
        one?_elementForm_iff.mpr ⟨article, ha, noun, hn, hl, rest, rfl⟩
      obtain ⟨rest, hfits⟩ := (Form.one?_eq_some_iff (by decide)).mp hread
      -- The forms part behind the label, where a sentence cannot go on in two ways at once.
      have hvisible := hfits.read?_eq_none (elementForm []) "está visível" [] (by decide)
        (by decide) (by decide)
      exact .inr ⟨Form.one?_eq_none hvisible, .inl ⟨label, hread, rfl⟩⟩
    | @containsText article noun label text rest ha hn hl ht =>
      have hread := two?_elementForm_iff.mpr ⟨article, ha, noun, hn, hl, ht, rest, rfl⟩
      obtain ⟨rest, hfits⟩ := (Form.two?_eq_some_iff (by decide)).mp hread
      have hvisible := hfits.read?_eq_none (elementForm []) "está visível" [] (by decide)
        (by decide) (by decide)
      have hpresent := hfits.read?_eq_none (elementForm []) "existe" [] (by decide) (by decide)
        (by decide)
      exact .inr ⟨Form.one?_eq_none hvisible,
        .inr ⟨Form.one?_eq_none hpresent, label, text, hread, rfl⟩⟩
    | _ => cases hfamily

/-- What is read by the family of addresses. -/
theorem url?_eq_some_iff :
    url? s.toList = some assertion ↔ Asserts s assertion ∧ assertion.family = .url := by
  simp only [url?, Option.orElse_eq_orElse, Option.orElse_eq_or, Option.or_eq_some_iff,
    Option.map_eq_some_iff, Option.map_eq_none_iff]
  constructor
  · rintro (⟨text, hread, rfl⟩ | ⟨-, text, hread, rfl⟩)
    · obtain ⟨ht, rest, rfl⟩ := one?_urlForm_iff.mp hread
      exact ⟨.url rest .equals ht, rfl⟩
    · obtain ⟨ht, rest, rfl⟩ := one?_urlForm_iff.mp hread
      exact ⟨.url rest .contains ht, rfl⟩
  · rintro ⟨h, hfamily⟩
    cases h with
    | @url _ text _ rest hm ht =>
      cases hm with
      | equals => exact .inl ⟨text, one?_urlForm_iff.mpr ⟨ht, rest, rfl⟩, rfl⟩
      | contains =>
        have hread : one? (urlForm "contém") _ = some text :=
          one?_urlForm_iff.mpr ⟨ht, rest, rfl⟩
        obtain ⟨rest, hfits⟩ := (Form.one?_eq_some_iff (by decide)).mp hread
        -- As for titles, the form that is tried first does not fit.
        have hequals := hfits.read?_eq_none [.exactly "Verifique se a URL "] "é"
          [.exactly " ", .quotation] (by decide) (by decide) (by decide)
        exact .inr ⟨Form.one?_eq_none hequals, text, hread, rfl⟩
    | _ => cases hfamily

/-- What is read by the family of console messages. -/
theorem log?_eq_some_iff :
    log? s.toList = some assertion ↔ Asserts s assertion ∧ assertion.family = .log := by
  have hclear : Form.IsClear logForm := by decide
  simp only [log?, Option.map_eq_some_iff, Form.one?_eq_some_iff hclear]
  constructor
  · rintro ⟨text, ⟨rest, hfits⟩, rfl⟩
    simp only [show logForm = [.exactly "Verifique se existe ", .anyOf (["o", "um"].map (· ++ " ")),
        .exactly ("log" ++ " "), .quotation] from rfl,
      Form.fits_exactly_iff, Form.fits_anyOf_map_iff, Form.fits_quotation_iff,
      Form.fits_nil_iff] at hfits
    obtain ⟨_, rfl, article, ha, _, rfl, _, rfl, _, rest, _, ht, rfl, ⟨⟩, -, rfl⟩ := hfits
    exact ⟨by simpa only [String.append_assoc] using Asserts.log rest ha ht, rfl⟩
  · rintro ⟨h, hfamily⟩
    cases h with
    | @log article text rest ha ht =>
      have hfits : Form.Fits logForm _ [text] rest :=
        .exactly "Verifique se existe " (.anyOf (List.mem_map_of_mem (f := (· ++ " ")) ha)
          (.exactly ("log" ++ " ") (.quotation ht (.nil rest))))
      exact ⟨text, ⟨rest, by simpa only [String.append_assoc] using hfits⟩, rfl⟩
    | _ => cases hfamily

/-- What a family reads is what it asserts. -/
theorem read?_eq_some_iff {family : Family} :
    family.read? s.toList = some assertion ↔ Asserts s assertion ∧ assertion.family = family := by
  cases family with
  | title => exact title?_eq_some_iff
  | element => exact element?_eq_some_iff
  | url => exact url?_eq_some_iff
  | log => exact log?_eq_some_iff

/-! ## Reading by the first family announced -/

/-- Whether a sentence contains one of the words of a family. -/
theorem any_words_iff {family : Family} :
    (family.words.any fun word => occursIn word.toList s.toList) = true ↔ family.AnnouncedIn s := by
  simp [Family.AnnouncedIn, occursIn_iff]

/-- What is read is asserted by a sentence that announces no earlier family. -/
theorem assertion?_eq_some_iff :
    assertion? s.toList = some assertion ↔
      Asserts s assertion ∧ ∀ family ∈ assertion.family.earlier, ¬ family.AnnouncedIn s := by
  simp only [assertion?, Family.families_eq, List.find?_map, Option.bind_map,
    Option.bind_eq_some_iff, Function.comp_def, Family.find?_all_eq_some_iff, any_words_iff,
    Bool.eq_false_iff, ne_eq, read?_eq_some_iff]
  constructor
  · rintro ⟨_, ⟨-, hearlier⟩, h, rfl⟩
    exact ⟨h, hearlier⟩
  · rintro ⟨h, hearlier⟩
    exact ⟨_, ⟨h.announced, hearlier⟩, h, rfl⟩

end Sentence

/-! ## Sentences that assert -/

/-- What becomes of a sentence as an assertion. -/
structure Sentence.Asserting (sentence : String) : Prop where
  /-- It is read as an assertion exactly if it makes it, blanks around it left out, and announces no
  earlier family. -/
  ofSentence_iff : ∀ assertion, Action.ofSentence sentence = .ok (.verify assertion) ↔
    Asserts (trimmed sentence) assertion ∧
      ∀ family ∈ assertion.family.earlier, ¬ family.AnnouncedIn (trimmed sentence)
  /-- The element is named by the quoted label, without the blanks around it. -/
  label_eq : ∀ label, (Target.ofLabel label).label = trimmed label
  /-- Every other sentence that the verb opens is refused, as a whole. -/
  malformed : Verb.verify.Opens (trimmed sentence) →
    (∀ assertion, ¬ (Asserts (trimmed sentence) assertion ∧
      ∀ family ∈ assertion.family.earlier, ¬ family.AnnouncedIn (trimmed sentence))) →
    Action.ofSentence sentence = .error (.malformed (trimmed sentence))

/-- A sentence that makes an assertion is opened by the verb. -/
theorem Asserts.opens {s : String} {assertion : Assertion} (h : Asserts s assertion) :
    Verb.verify.Opens s := by
  cases h <;> simp [Verb.Opens, Verb.opening]

/-- A sentence is read as an assertion that it makes if it announces no earlier family. -/
theorem Action.ofSentence_verify_iff {sentence : String} {assertion : Assertion} :
    ofSentence sentence = .ok (.verify assertion) ↔ Asserts (trimmed sentence) assertion ∧
      ∀ family ∈ assertion.family.earlier, ¬ family.AnnouncedIn (trimmed sentence) := by
  have hread : action? .verify (trimmed sentence).toList = some (.verify assertion) ↔
      assertion? (trimmed sentence).toList = some assertion := by
    simp [action?]
  rw [ofSentence_eq_ok_iff, verb, hread, assertion?_eq_some_iff]
  exact ⟨And.right, fun h => ⟨h.1.opens, h⟩⟩

/-- Assertions are read exactly, each as one of the first family that its sentence announces. -/
theorem Action.ofSentence_asserting (sentence : String) : Asserting sentence where
  ofSentence_iff _ := ofSentence_verify_iff
  label_eq label := rfl
  malformed hopens hnone := by
    rw [ofSentence_of_opens hopens]
    cases hread : assertion? (trimmed sentence).toList with
    | none => simp only [action?, hread, Option.map_none]
    | some assertion => exact absurd (assertion?_eq_some_iff.mp hread) (hnone assertion)

end BrowserFlow
