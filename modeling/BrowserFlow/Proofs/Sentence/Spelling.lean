import BrowserFlow.Proofs.Sentence.Verb
import BrowserFlow.Proofs.Text.Part

/-!
# Spellings of a key and of an address

A key may stand between double quotes or not, and behind the words "a tecla" or not; an address may
stand between double quotes or not. Parts of a sentence may have any blanks between them. `Spells`
lists these spellings, and `Action.ofSentence_spelled` says that all of them mean the same.

A key is searched for with backtracking: the words, the opening quote and the closing quote are
each taken if a key can be found behind them, and the key is the shortest one behind which the
sentence ends. The lemmas here follow the first attempt, which finds the whole key in all spellings:
what the longest run of blanks leaves does not start with a blank (`afterBlanks?_append`), and
before the key's last character the sentence has not come to its end (`keyBody?_append`).
-/

namespace BrowserFlow

open Text Sentence

/-- A text consists of blanks. -/
def Text.IsBlanks (s : String) : Prop :=
  ∀ c ∈ s.toList, isBlank c = true

instance (s : String) : Decidable (IsBlanks s) :=
  decidable_of_iff (s.toList.all isBlank = true) List.all_eq_true

/-- A text consists of blanks, and is not empty. -/
structure Text.IsGap (s : String) : Prop where
  /-- There is a character. -/
  ne_empty : s ≠ ""
  /-- All characters are blanks. -/
  blanks : IsBlanks s

/-- A key as it can be written: not empty, without a double quote, and without blanks around it. -/
structure Sentence.IsKey (key : String) : Prop where
  /-- It can stand between double quotes. -/
  quotable : Quotable key
  /-- There are no blanks around it. -/
  trimmed : trim key.toList = key.toList

/-- An address as it can be written: not empty, without blanks around it, and without a double quote
at either end. -/
structure Sentence.IsAddress (url : String) : Prop where
  /-- It is not empty. -/
  ne_empty : url ≠ ""
  /-- There are no blanks around it. -/
  trimmed : trim url.toList = url.toList
  /-- No double quote starts it. -/
  head_ne : url.toList.head? ≠ some '"'
  /-- No double quote ends it. -/
  last_ne : url.toList.getLast? ≠ some '"'

/-- A sentence, blanks around it left out, spells an action. -/
inductive Spells : String → Action → Prop
  /-- The key stands between double quotes. -/
  | quotedKey {gap key : String} (gap_blank : IsGap gap) (key_proper : IsKey key) :
    Spells ("Pressione" ++ gap ++ inQuotes key) (.keyPress key)
  /-- The key stands behind the words for it. -/
  | phrasedKey {gap gap' key : String} (gap_blank : IsGap gap) (gap_blank' : IsGap gap')
    (key_proper : IsKey key) :
    Spells ("Pressione" ++ gap ++ "a tecla" ++ gap' ++ key) (.keyPress key)
  /-- The key stands between double quotes behind the words for it. -/
  | phrasedQuotedKey {gap gap' key : String} (gap_blank : IsGap gap) (gap_blank' : IsGap gap')
    (key_proper : IsKey key) :
    Spells ("Pressione" ++ gap ++ "a tecla" ++ gap' ++ inQuotes key) (.keyPress key)
  /-- The key stands alone, and does not itself start with the words for it and a blank. -/
  | plainKey {gap key : String} (gap_blank : IsGap gap) (key_proper : IsKey key)
    (not_phrase : ∀ c rest, key.toList = "a tecla".toList ++ c :: rest → isBlank c = false) :
    Spells ("Pressione" ++ gap ++ key) (.keyPress key)
  /-- The address stands alone. -/
  | plainAddress {before url after : String} (before_blank : IsBlanks before)
    (url_proper : IsAddress url) (after_blank : IsBlanks after) :
    Spells ("Vá para" ++ before ++ url ++ after) (.navigate url)
  /-- The address stands between double quotes. -/
  | quotedAddress {before inner url inner' after : String} (before_blank : IsBlanks before)
    (inner_blank : IsBlanks inner) (url_proper : IsAddress url) (inner_blank' : IsBlanks inner')
    (after_blank : IsBlanks after) :
    Spells ("Vá para" ++ before ++ "\"" ++ inner ++ url ++ inner' ++ "\"" ++ after) (.navigate url)

/-- A text is read as an action once the blanks around it are left out. -/
def Sentence.Reads (s : List Char) (action : Action) : Prop :=
  action.verb.opening.toList <+: trim s ∧ action? action.verb (trim s) = some action

namespace Sentence

variable {key s taken : List Char}

/-! ## Keys -/

/-- If a text does not start with a blank, nothing is found behind blanks. -/
theorem afterBlanks?_of_head {α : Type} {read : List Char → Option α}
    (h : ∀ c ∈ s.head?, isBlank c = false) : afterBlanks? read s = none := by
  cases s with
  | nil => rfl
  | cons c s => simp [afterBlanks?, h c rfl]

/-- What is found behind a gap is what is found behind all of its blanks. -/
theorem afterBlanks?_append {α : Type} {read : List Char → Option α} {gap : String} {result : α}
    (hgap : IsGap gap) (hs : ∀ c ∈ s.head?, isBlank c = false) (hread : read s = some result) :
    afterBlanks? read (gap.toList ++ s) = some result := by
  obtain ⟨hne, hblank⟩ := hgap
  have hne : gap.toList ≠ [] := fun hnil => hne (String.toList_eq_nil_iff.mp hnil)
  unfold IsBlanks at hblank
  generalize gap.toList = blanks at hne hblank
  -- The longest run is tried first, so a shorter one is left only where the gap has come to its end.
  induction blanks with
  | nil => exact absurd rfl hne
  | cons b blanks ih =>
    rw [List.forall_mem_cons] at hblank
    rw [List.cons_append, afterBlanks?, if_pos hblank.1]
    cases blanks with
    | nil => simp [afterBlanks?_of_head hs, hread]
    | cons c blanks =>
      rw [ih (by simp) hblank.2]
      rfl

/-- The text has not come to its end before the last character of a key. -/
theorem endsQuoted_append_eq_false (hne : key ≠ []) (hquote : '"' ∉ key)
    (hlast : ∀ c ∈ key.getLast?, isBlank c = false) (rest : List Char) :
    endsQuoted (key ++ rest) = false := by
  obtain ⟨c, key, rfl⟩ := List.exists_cons_of_ne_nil hne
  have hc : c ≠ '"' := fun h => hquote (h ▸ List.mem_cons_self)
  -- Its first character is no double quote, and its last one no blank, which may be the same one.
  have hall : ((c :: key) ++ rest).all isBlank = false := by
    rw [List.all_eq_false]
    refine ⟨(c :: key).getLast hne, List.mem_append_left rest (List.getLast_mem hne), ?_⟩
    simp [hlast _ (List.getLast?_eq_some_getLast hne)]
  rw [List.cons_append] at hall ⊢
  unfold endsQuoted
  split
  · rename_i heq
    exact absurd (List.cons.inj heq).1 hc
  · exact hall

/-- A key is taken as a whole, up to the end of the text or the double quote there. -/
theorem keyBody?_append {rest : List Char} (hne : key ≠ []) (hquote : '"' ∉ key)
    (hlast : ∀ c ∈ key.getLast?, isBlank c = false) (hrest : endsQuoted rest = true) :
    keyBody? taken (key ++ rest) = some (taken ++ key) := by
  -- Before the last character the text does not end there, and so the search goes on.
  induction key generalizing taken with
  | nil => exact absurd rfl hne
  | cons c key ih =>
    rw [List.mem_cons, not_or] at hquote
    have hc : (c == '"') = false := by simpa using Ne.symm hquote.1
    rw [List.cons_append, keyBody?, hc]
    by_cases hkey : key = []
    · simp [hkey, hrest]
    · have hlast' : ∀ c ∈ key.getLast?, isBlank c = false := by
        rwa [List.getLast?_cons_of_ne_nil hkey] at hlast
      simp [endsQuoted_append_eq_false hkey hquote.2 hlast', ih hkey hquote.2 hlast']

namespace IsKey

variable {key : String}

theorem toList_ne_nil (h : IsKey key) : key.toList ≠ [] :=
  fun hnil => h.quotable.1 (String.toList_eq_nil_iff.mp hnil)

/-- A key is found between double quotes. -/
theorem key?_quoted (h : IsKey key) : key? (inQuotes key).toList = some key.toList := by
  have hlast := (trim_eq_self_iff.mp h.trimmed).2
  have htext : (inQuotes key).toList = '"' :: (key.toList ++ ['"']) := by simp [inQuotes]
  rw [htext, key?, keyBody?_append h.toList_ne_nil h.quotable.2 hlast rfl]
  rfl

/-- A key is found alone. -/
theorem key?_plain (h : IsKey key) : key? key.toList = some key.toList := by
  have hlast := (trim_eq_self_iff.mp h.trimmed).2
  have hbody : keyBody? [] (key.toList ++ []) = some ([] ++ key.toList) :=
    keyBody?_append h.toList_ne_nil h.quotable.2 hlast rfl
  rw [List.append_nil, List.nil_append] at hbody
  unfold key?
  split
  · rename_i heq
    exact absurd (heq ▸ List.mem_cons_self) h.quotable.2
  · exact hbody

end IsKey

/-- Behind the words for it, whatever is found as a key is found. -/
theorem keyPhrase?_phrase {gap : String} {result : List Char} (hgap : IsGap gap)
    (hs : trim s = s) (hread : key? s = some result) :
    keyPhrase? ("a tecla".toList ++ (gap.toList ++ s)) = some result := by
  have hhead := (trim_eq_self_iff.mp hs).1
  rw [keyPhrase?, after?_eq_some_iff.mpr rfl, Option.bind_some,
    afterBlanks?_append hgap hhead hread]
  rfl

/-- Without the words for it and a blank, a key is found alone. -/
theorem keyPhrase?_of_not_phrase
    (h : ∀ c rest, s = "a tecla".toList ++ c :: rest → isBlank c = false) :
    keyPhrase? s = key? s := by
  have hnone : (after? "a tecla".toList s).bind (afterBlanks? key?) = none := by
    rw [Option.bind_eq_none_iff]
    intro rest hrest
    rw [after?_eq_some_iff] at hrest
    refine afterBlanks?_of_head fun c hc => ?_
    obtain ⟨tail, rfl⟩ := List.head?_eq_some_iff.mp hc
    exact h c tail hrest
  rw [keyPhrase?, hnone]
  rfl

/-- A sentence that asks for a key is read behind the gap, as it stands. -/
theorem Reads.keyPress {gap key : String} {body : List Char} (hgap : IsGap gap) (hne : body ≠ [])
    (hbody : trim body = body) (hread : keyPhrase? body = some key.toList) :
    Reads ("Pressione".toList ++ (gap.toList ++ body)) (.keyPress key) := by
  have htrim : trim ("Pressione".toList ++ (gap.toList ++ body)) =
      "Pressione".toList ++ (gap.toList ++ body) :=
    trim_append_append (by decide) (by decide) hne hbody gap.toList
  have hhead := (trim_eq_self_iff.mp hbody).1
  rw [Reads, htrim]
  refine ⟨List.prefix_append .., ?_⟩
  rw [Action.verb, action?, keyPress?,
    show Verb.keyPress.opening.toList = "Pressione".toList from rfl, after?_eq_some_iff.mpr rfl,
    Option.bind_some, afterBlanks?_append hgap hhead hread, Option.map_some, String.ofList_toList]

/-! ## Addresses -/

/-- A character that is no blank does not start a text with blanks in front of another one. -/
theorem head?_append_ne {blanks : String} {rest : List Char} {c : Char} (hblank : IsBlanks blanks)
    (hc : isBlank c = false) (hrest : rest.head? ≠ some c) :
    (blanks.toList ++ rest).head? ≠ some c := by
  unfold IsBlanks at hblank
  cases hblanks : blanks.toList with
  | nil => exact hrest
  | cons b tail =>
    intro heq
    obtain rfl : b = c := by simpa using heq
    simp [hblank b (hblanks ▸ List.mem_cons_self)] at hc

/-- A character that is no blank does not end a text with blanks behind another one. -/
theorem getLast?_append_ne {blanks : String} {first : List Char} {c : Char}
    (hblank : IsBlanks blanks) (hc : isBlank c = false) (hfirst : first.getLast? ≠ some c) :
    (first ++ blanks.toList).getLast? ≠ some c := by
  by_cases hnil : blanks.toList = []
  · rwa [hnil, List.append_nil]
  · rw [List.getLast?_append_of_ne_nil _ hnil]
    intro heq
    simp [hblank c (List.mem_of_getLast? heq)] at hc

/-- A text without double quotes at its ends stays as it is. -/
theorem trimChar_of_ends {text : List Char} (hhead : text.head? ≠ some '"')
    (hlast : text.getLast? ≠ some '"') : trimChar '"' text = text := by
  have hstrip : strip (· == '"') text = text := by
    rw [strip_eq_self_iff]
    refine ⟨fun c hc => ?_, fun c hc => ?_⟩
    · rw [beq_eq_false_iff_ne]
      rintro rfl
      exact hhead hc
    · rw [beq_eq_false_iff_ne]
      rintro rfl
      exact hlast hc
  exact hstrip

/-- Double quotes around a text are taken away, and no more. -/
theorem trimChar_quotes {text : List Char} (hhead : text.head? ≠ some '"')
    (hlast : text.getLast? ≠ some '"') : trimChar '"' (['"'] ++ (text ++ ['"'])) = text := by
  have hstart : strip (· == '"') (['"'] ++ (text ++ ['"'])) = strip (· == '"') (text ++ ['"']) :=
    strip_append_left (by simp)
  have hend : strip (· == '"') (text ++ ['"']) = strip (· == '"') text :=
    strip_append_right (by simp)
  calc trimChar '"' (['"'] ++ (text ++ ['"']))
      = strip (· == '"') (text ++ ['"']) := hstart
    _ = trimChar '"' text := hend
    _ = text := trimChar_of_ends hhead hlast

/-- Blanks around an address between double quotes do not bring it to an end. -/
theorem IsAddress.ends_ne {inner url inner' : String} (h : IsAddress url) (hinner : IsBlanks inner)
    (hinner' : IsBlanks inner') :
    (inner.toList ++ (url.toList ++ inner'.toList)).head? ≠ some '"' ∧
      (inner.toList ++ (url.toList ++ inner'.toList)).getLast? ≠ some '"' := by
  have hne : url.toList ≠ [] := fun hnil => h.ne_empty (String.toList_eq_nil_iff.mp hnil)
  have hquote : isBlank '"' = false := by decide
  constructor
  · refine head?_append_ne hinner hquote ?_
    rw [List.head?_append_of_ne_nil _ hne]
    exact h.head_ne
  · rw [← List.append_assoc]
    refine getLast?_append_ne hinner' hquote ?_
    rw [List.getLast?_append_of_ne_nil _ hne]
    exact h.last_ne

/-- A sentence that asks for an address is read behind its opening words. -/
theorem Reads.navigate {url : String} {tail : List Char} (hne : url ≠ "")
    (hurl : trim (trimChar '"' (trim tail)) = url.toList) :
    Reads ("Vá para".toList ++ tail) (.navigate url) := by
  have hwords : trim "Vá para".toList = "Vá para".toList := by decide
  obtain ⟨rest, htrim, hrest⟩ := exists_trim_append (by simp) hwords tail
  rw [Reads, htrim]
  refine ⟨List.prefix_append .., ?_⟩
  have hargument : argument .navigate ("Vá para".toList ++ rest) = url.toList := by
    rw [argument, show Verb.navigate.opening.toList = "Vá para".toList from rfl, List.drop_left,
      hrest, hurl]
  have hempty : url.toList.isEmpty = false := by simpa using hne
  rw [Action.verb, action?, navigate?, hargument, hempty, String.ofList_toList]
  rfl

end Sentence

/-! ## All spellings -/

/-- A text between double quotes is trimmed. -/
theorem Sentence.trim_inQuotes (text : String) :
    trim (inQuotes text).toList = (inQuotes text).toList := by
  have htext : (inQuotes text).toList = ['"'] ++ (text.toList ++ ['"']) := by simp [inQuotes]
  rw [htext]
  exact trim_append_append (by simp) (by decide) (by simp) (by decide) text.toList

/-- A spelling of an action is read as that action. -/
theorem Spells.reads {s : String} {action : Action} (h : Spells s action) :
    Reads s.toList action := by
  have hquotes (key : String) : (inQuotes key).toList ≠ [] := by simp [inQuotes]
  have hwords : trim "a tecla".toList = "a tecla".toList := by decide
  cases h with
  | @quotedKey gap key hgap hkey =>
    have htext : ("Pressione" ++ gap ++ inQuotes key).toList =
        "Pressione".toList ++ (gap.toList ++ (inQuotes key).toList) := by simp
    have hplain : keyPhrase? (inQuotes key).toList = key? (inQuotes key).toList :=
      keyPhrase?_of_not_phrase fun c rest heq => by simp [inQuotes] at heq
    rw [htext]
    -- The search for the words fails at the double quote.
    exact .keyPress hgap (hquotes key) (trim_inQuotes key) (hplain.trans hkey.key?_quoted)
  | @phrasedKey gap gap' key hgap hgap' hkey =>
    have htext : ("Pressione" ++ gap ++ "a tecla" ++ gap' ++ key).toList = "Pressione".toList ++
        (gap.toList ++ ("a tecla".toList ++ (gap'.toList ++ key.toList))) := by simp
    have hbody := trim_append_append (by simp) hwords hkey.toList_ne_nil hkey.trimmed gap'.toList
    rw [htext]
    exact .keyPress hgap (by simp) hbody (keyPhrase?_phrase hgap' hkey.trimmed hkey.key?_plain)
  | @phrasedQuotedKey gap gap' key hgap hgap' hkey =>
    have htext : ("Pressione" ++ gap ++ "a tecla" ++ gap' ++ inQuotes key).toList =
        "Pressione".toList ++
          (gap.toList ++ ("a tecla".toList ++ (gap'.toList ++ (inQuotes key).toList))) := by
      simp
    have hbody := trim_append_append (by simp) hwords (hquotes key) (trim_inQuotes key) gap'.toList
    rw [htext]
    exact .keyPress hgap (by simp) hbody
      (keyPhrase?_phrase hgap' (trim_inQuotes key) hkey.key?_quoted)
  | @plainKey gap key hgap hkey hnot =>
    have htext : ("Pressione" ++ gap ++ key).toList =
        "Pressione".toList ++ (gap.toList ++ key.toList) := by simp
    rw [htext]
    exact .keyPress hgap hkey.toList_ne_nil hkey.trimmed
      ((keyPhrase?_of_not_phrase hnot).trans hkey.key?_plain)
  | @plainAddress before url after hbefore hurl hafter =>
    have htext : ("Vá para" ++ before ++ url ++ after).toList =
        "Vá para".toList ++ (before.toList ++ (url.toList ++ after.toList)) := by simp
    rw [htext]
    refine .navigate hurl.ne_empty ?_
    rw [trim_append_left hbefore, trim_append_right hafter, hurl.trimmed,
      trimChar_of_ends hurl.head_ne hurl.last_ne, hurl.trimmed]
  | @quotedAddress before inner url inner' after hbefore hinner hurl hinner' hafter =>
    have htext : ("Vá para" ++ before ++ "\"" ++ inner ++ url ++ inner' ++ "\"" ++ after).toList =
        "Vá para".toList ++ (before.toList ++
          ((['"'] ++ ((inner.toList ++ (url.toList ++ inner'.toList)) ++ ['"'])) ++
            after.toList)) := by simp
    rw [htext]
    refine .navigate hurl.ne_empty ?_
    have hquote : trim ['"'] = ['"'] := by decide
    have hquoted := trim_append_append (by simp) hquote (by simp) hquote
      (inner.toList ++ (url.toList ++ inner'.toList))
    obtain ⟨hhead, hlast⟩ := hurl.ends_ne hinner hinner'
    rw [trim_append_left hbefore, trim_append_right hafter, hquoted, trimChar_quotes hhead hlast,
      trim_append_left hinner, trim_append_right hinner', hurl.trimmed]

/-- All spellings of an action are read as that action, whatever blanks there are around them. -/
theorem Action.ofSentence_spelled {before s after : String} {action : Action}
    (hbefore : IsBlanks before) (hafter : IsBlanks after) (h : Spells s action) :
    ofSentence (before ++ s ++ after) = .ok action := by
  have htrimmed : (trimmed (before ++ s ++ after)).toList = trim s.toList := by
    rw [toList_trimmed, String.toList_append, String.toList_append, trim_append_right hafter,
      trim_append_left hbefore]
  obtain ⟨hopens, hread⟩ := h.reads
  rw [ofSentence_eq_ok_iff, Verb.Opens, htrimmed]
  exact ⟨hopens, hread⟩

/-- A key with a blank inside, between double quotes behind the words for it. -/
theorem Action.ofSentence_spelled_page_down :
    IsBlanks "\t " ∧ IsBlanks "\n" ∧
      Spells ("Pressione" ++ "  " ++ "a tecla" ++ "\t" ++ inQuotes "Page Down")
        (.keyPress "Page Down") ∧
      ofSentence
          ("\t " ++ ("Pressione" ++ "  " ++ "a tecla" ++ "\t" ++ inQuotes "Page Down") ++ "\n") =
        .ok (.keyPress "Page Down") := by
  have hbefore : IsBlanks "\t " := by decide
  have hafter : IsBlanks "\n" := by decide
  have hgap : IsGap "  " := ⟨by decide, by decide⟩
  have hgap' : IsGap "\t" := ⟨by decide, by decide⟩
  have hkey : IsKey "Page Down" := ⟨⟨by decide, by decide⟩, by decide +kernel⟩
  have hspells : Spells _ (.keyPress "Page Down") := .phrasedQuotedKey hgap hgap' hkey
  exact ⟨hbefore, hafter, hspells, ofSentence_spelled hbefore hafter hspells⟩

end BrowserFlow
