import BrowserFlow.Proofs.Sentence.Spelling

/-!
# Sentences without a key

A sentence that ends behind the words "a tecla", but for blanks and double quotes, names no key. The
search for one goes back and gives up the words or the blanks behind them, so that it may take the
words themselves or some blanks as the key. `Mistakes` lists what is taken, and
`Action.ofSentence_keyless` says that it lists everything: all other sentences of this kind are
refused.

The text behind the words is a gap, and perhaps a double quote with more behind it. Before a double
quote a key is the whole run of characters there, and only if the sentence ends with that double
quote (`keyBody?_run`); the rest is a case split on how many double quotes there are.
-/

namespace BrowserFlow

open Text Sentence

/-- A text consists of blanks and double quotes. -/
def Sentence.IsKeyless (s : String) : Prop :=
  ∀ c ∈ s.toList, isBlank c = true ∨ c = '"'

instance (s : String) : Decidable (IsKeyless s) :=
  List.decidableBAll (fun c => isBlank c = true ∨ c = '"') s.toList

/-- What is taken as the key of a sentence that names none, by what stands behind the words "a
tecla" when the blanks at the end are left out. -/
inductive Sentence.Mistakes : (tail key : String) → Prop
  /-- The words, when nothing stands behind them. -/
  | phrase : Mistakes "" "a tecla"
  /-- The words before a double quote, with the blank between them if there is one. -/
  | phraseBefore {gap : String} (gap_blank : IsBlanks gap) (gap_short : gap.length ≤ 1) :
    Mistakes (gap ++ "\"") ("a tecla" ++ gap)
  /-- The last one of several blanks before a double quote. -/
  | lastBlank {gap : String} {c : Char} (gap_blank : IsGap gap) (blank : isBlank c = true) :
    Mistakes (gap ++ String.singleton c ++ "\"") (String.singleton c)
  /-- Blanks between double quotes. -/
  | quotedBlanks {gap inner : String} (gap_blank : IsGap gap) (inner_blank : IsGap inner) :
    Mistakes (gap ++ inQuotes inner) inner

namespace Sentence

variable {run rest s taken : List Char}

/-- Before a double quote the whole run of other characters is taken, and only if nothing but blanks
stands behind the double quote. -/
theorem keyBody?_run (hquote : '"' ∉ run) : keyBody? taken (run ++ '"' :: rest) =
    if run ≠ [] ∧ rest.all isBlank = true then some (taken ++ run) else none := by
  induction run generalizing taken with
  | nil => simp [keyBody?]
  | cons c run ih =>
    rw [List.mem_cons, not_or] at hquote
    have hc : (c == '"') = false := by simpa using Ne.symm hquote.1
    rw [List.cons_append, keyBody?, hc, ih hquote.2]
    cases run with
    | nil => simp [endsQuoted]
    | cons d run =>
      -- The text does not end before the double quote.
      have hd : d ≠ '"' := fun h => hquote.2 (h ▸ List.mem_cons_self)
      have hends : endsQuoted (d :: (run ++ '"' :: rest)) = false := by
        simp [endsQuoted, hd, show isBlank '"' = false by decide]
      simp [hends]

/-- A key in front of which no double quote stands is the whole run up to the double quote. -/
theorem key?_run (hne : run ≠ []) (hquote : '"' ∉ run) :
    key? (run ++ '"' :: rest) = if rest.all isBlank = true then some run else none := by
  obtain ⟨c, run, rfl⟩ := List.exists_cons_of_ne_nil hne
  have hc : c ≠ '"' := fun h => hquote (h ▸ List.mem_cons_self)
  have hbody : keyBody? [] (c :: run ++ '"' :: rest) = _ := keyBody?_run hquote
  simp only [ne_eq, hne, not_false_eq_true, true_and, List.nil_append] at hbody
  rw [← hbody, List.cons_append]
  unfold key?
  split
  · rename_i heq
    exact absurd (List.cons.inj heq).1 hc
  · rfl

/-- A key behind a double quote stands up to the next one. -/
theorem key?_quote : key? ('"' :: s) = keyBody? [] s := by
  have hquote : keyBody? [] ('"' :: s) = none := by simp [keyBody?]
  rw [key?, hquote]
  cases keyBody? [] s <;> rfl

/-! ## Behind the words -/

variable {gap inner : List Char}

/-- There is no double quote among blanks. -/
theorem quote_not_mem (h : ∀ c ∈ gap, isBlank c = true) : '"' ∉ gap :=
  fun hmem => absurd (h _ hmem) (by decide)

/-- If a text starts with a double quote, nothing stands behind blanks at its start. -/
theorem afterBlanks?_quote {α : Type} (read : List Char → Option α) :
    afterBlanks? read ('"' :: s) = none :=
  afterBlanks?_of_head (by simp [show isBlank '"' = false by decide])

/-- The words are taken if nothing can be found behind them. -/
theorem keyPhrase?_of_none (h : afterBlanks? key? s = none) :
    keyPhrase? ("a tecla".toList ++ s) = key? ("a tecla".toList ++ s) := by
  rw [keyPhrase?, after?_eq_some_iff.mpr rfl, Option.bind_some, h]
  rfl

/-- Whatever is found behind the words is taken. -/
theorem keyPhrase?_of_some {key : List Char} (h : afterBlanks? key? s = some key) :
    keyPhrase? ("a tecla".toList ++ s) = some key := by
  rw [keyPhrase?, after?_eq_some_iff.mpr rfl, Option.bind_some, h]
  rfl

/-- The words themselves are a key before a double quote at the end. -/
theorem key?_phrase (h : ∀ c ∈ gap, isBlank c = true) :
    key? ("a tecla".toList ++ (gap ++ '"' :: rest)) =
      if rest.all isBlank = true then some ("a tecla".toList ++ gap) else none := by
  rw [← List.append_assoc]
  refine key?_run (by simp) ?_
  rw [List.mem_append, not_or]
  exact ⟨by decide, quote_not_mem h⟩

/-- A key that stands behind some blanks is found behind more of them. -/
theorem afterBlanks?_append_of_some {α : Type} {read : List Char → Option α} {result : α}
    (hgap : ∀ c ∈ gap, isBlank c = true) (h : afterBlanks? read s = some result) :
    afterBlanks? read (gap ++ s) = some result := by
  induction gap with
  | nil => exact h
  | cons c gap ih =>
    rw [List.forall_mem_cons] at hgap
    rw [List.cons_append, afterBlanks?, if_pos hgap.1, ih hgap.2]
    rfl

/-- Behind blanks before a double quote, at which the sentence does not end, a key can only be found
behind the double quote. -/
theorem afterBlanks?_gap (hne : gap ≠ []) (hgap : ∀ c ∈ gap, isBlank c = true)
    (hrest : rest.all isBlank = false) :
    afterBlanks? key? (gap ++ '"' :: rest) = keyBody? [] rest := by
  -- All of the blanks are tried first, and then fewer of them, which leaves some before the quote.
  induction gap with
  | nil => exact absurd rfl hne
  | cons c gap ih =>
    rw [List.forall_mem_cons] at hgap
    rw [List.cons_append, afterBlanks?, if_pos hgap.1]
    by_cases hnil : gap = []
    · rw [hnil, List.nil_append, afterBlanks?_quote, key?_quote]
      rfl
    · rw [ih hnil hgap.2, key?_run hnil (quote_not_mem hgap.2), if_neg (by simp [hrest])]
      cases keyBody? [] rest <;> rfl

/-- Behind one blank at most there is no key before a double quote at the end. -/
theorem keyPhrase?_short (hgap : ∀ c ∈ gap, isBlank c = true) (hshort : gap.length ≤ 1) :
    keyPhrase? ("a tecla".toList ++ (gap ++ ['"'])) = some ("a tecla".toList ++ gap) := by
  have hnone : afterBlanks? key? (gap ++ ['"']) = none := by
    match gap, hshort with
    | [], _ => exact afterBlanks?_quote key?
    | [c], _ =>
      rw [List.singleton_append, afterBlanks?, if_pos (hgap c List.mem_cons_self),
        afterBlanks?_quote, key?_quote]
      rfl
  rw [keyPhrase?_of_none hnone, key?_phrase hgap]
  rfl

/-- Behind more blanks the last one is a key before a double quote at the end. -/
theorem keyPhrase?_long {c : Char} (hne : gap ≠ []) (hgap : ∀ c ∈ gap, isBlank c = true)
    (hc : isBlank c = true) : keyPhrase? ("a tecla".toList ++ (gap ++ [c] ++ ['"'])) = some [c] := by
  obtain ⟨before, b, rfl⟩ := List.eq_nil_or_concat gap |>.resolve_left hne
  rw [List.concat_eq_append] at hgap
  have hb : isBlank b = true := hgap b (by simp)
  have hsingle : ∀ a ∈ [c], isBlank a = true := by simpa using hc
  have hlast : afterBlanks? key? (b :: ([c] ++ ['"'])) = some [c] := by
    rw [afterBlanks?, if_pos hb, key?_run (List.cons_ne_nil c []) (quote_not_mem hsingle),
      List.singleton_append, afterBlanks?, if_pos hc, afterBlanks?_quote, key?_quote]
    rfl
  refine keyPhrase?_of_some ?_
  have htext : before.concat b ++ [c] ++ ['"'] = before ++ b :: ([c] ++ ['"']) := by simp
  rw [htext]
  exact afterBlanks?_append_of_some (fun a ha => hgap a (List.mem_append_left _ ha)) hlast

/-- When there are two double quotes or more, the key stands between them and behind a gap. -/
theorem keyPhrase?_quotes (hgap : ∀ c ∈ gap, isBlank c = true)
    (hinner : ∀ c ∈ inner, isBlank c = true) :
    keyPhrase? ("a tecla".toList ++ (gap ++ '"' :: (inner ++ '"' :: rest))) =
      if gap ≠ [] ∧ inner ≠ [] ∧ rest.all isBlank = true then some inner else none := by
  have hall : (inner ++ '"' :: rest).all isBlank = false := by
    simp [show isBlank '"' = false by decide]
  have hwords : key? ("a tecla".toList ++ (gap ++ '"' :: (inner ++ '"' :: rest))) = _ :=
    key?_phrase hgap
  rw [if_neg (by simp [hall])] at hwords
  have hbehind : afterBlanks? key? (gap ++ '"' :: (inner ++ '"' :: rest)) =
      if gap ≠ [] ∧ inner ≠ [] ∧ rest.all isBlank = true then some inner else none := by
    -- Without a gap there is no blank for the quotation to stand behind.
    by_cases hnil : gap = []
    · rw [hnil, List.nil_append, afterBlanks?_quote]
      simp
    · rw [afterBlanks?_gap hnil hgap hall, keyBody?_run (quote_not_mem hinner)]
      simp [hnil]
  cases hfound : afterBlanks? key? (gap ++ '"' :: (inner ++ '"' :: rest)) with
  | none => rw [keyPhrase?_of_none hfound, hwords, ← hbehind, hfound]
  | some key => rw [keyPhrase?_of_some hfound, ← hbehind, hfound]

/-- A text of blanks and double quotes consists of blanks up to its first double quote. -/
theorem exists_gap (h : ∀ c ∈ s, isBlank c = true ∨ c = '"') (hquote : '"' ∈ s) :
    ∃ gap rest, s = gap ++ '"' :: rest ∧ (∀ c ∈ gap, isBlank c = true) ∧
      ∀ c ∈ rest, isBlank c = true ∨ c = '"' := by
  obtain ⟨gap, rest, rfl, hnot⟩ := List.eq_append_cons_of_mem hquote
  refine ⟨gap, rest, rfl, fun c hc => ?_, fun c hc => h c (by simp [hc])⟩
  exact (h c (by simp [hc])).resolve_right fun heq => hnot (heq ▸ hc)

/-- If a text of blanks and double quotes does not end with a blank, it ends with a double quote. -/
theorem quote_mem_of_last (h : ∀ c ∈ s, isBlank c = true ∨ c = '"') (hne : s ≠ [])
    (hlast : ∀ c ∈ s.getLast?, isBlank c = false) : '"' ∈ s := by
  have hmem := List.getLast_mem hne
  have hnot := hlast _ (List.getLast?_eq_some_getLast hne)
  rcases h _ hmem with hblank | hquote
  · simp [hblank] at hnot
  · exact hquote ▸ hmem

/-- A text that consists of blanks, and is not empty. -/
theorem isGap_ofList (hne : gap ≠ []) (h : ∀ c ∈ gap, isBlank c = true) :
    IsGap (String.ofList gap) :=
  ⟨by simpa using hne, by simpa [IsBlanks] using h⟩

/-- What is taken as a key is found behind the words. -/
theorem Mistakes.keyPhrase?_eq {tail key : String} (h : Mistakes tail key) :
    keyPhrase? ("a tecla".toList ++ tail.toList) = some key.toList := by
  cases h with
  | phrase => decide
  | @phraseBefore gap hgap hshort =>
    rw [← String.length_toList] at hshort
    simpa using keyPhrase?_short hgap hshort
  | @lastBlank gap c hgap hc =>
    have hne : gap.toList ≠ [] := fun hnil => hgap.ne_empty (String.toList_eq_nil_iff.mp hnil)
    simpa using keyPhrase?_long hne hgap.blanks hc
  | @quotedBlanks gap key hgap hkey =>
    have hread : keyPhrase? ("a tecla".toList ++ (gap.toList ++ '"' :: (key.toList ++ ['"']))) =
        _ := keyPhrase?_quotes hgap.blanks hkey.blanks
    rw [if_pos ⟨mt String.toList_eq_nil_iff.mp hgap.ne_empty,
      mt String.toList_eq_nil_iff.mp hkey.ne_empty, rfl⟩] at hread
    simpa [inQuotes] using hread

/-- What is found before a double quote at the end is taken as a key. -/
theorem mistakes_of_one_quote {key : List Char} (hgap : ∀ c ∈ gap, isBlank c = true)
    (h : keyPhrase? ("a tecla".toList ++ (gap ++ ['"'])) = some key) :
    Mistakes (String.ofList (gap ++ ['"'])) (String.ofList key) := by
  have htext : String.ofList (gap ++ ['"']) = String.ofList gap ++ "\"" := by simp
  rw [htext]
  -- A quote closes nothing here. What is in front of it decides: with one blank or none the phrase
  -- is taken for the key, and with more the last blank is.
  by_cases hshort : gap.length ≤ 1
  · rw [keyPhrase?_short hgap hshort] at h
    cases h
    rw [String.ofList_append, String.ofList_toList]
    exact .phraseBefore (by simpa [IsBlanks] using hgap) (by simpa using hshort)
  · have hne : gap ≠ [] := by
      rintro rfl
      simp at hshort
    obtain ⟨before, c, rfl⟩ := List.eq_nil_or_concat gap |>.resolve_left hne
    rw [List.concat_eq_append] at h hgap hshort ⊢
    have hbefore : before ≠ [] := by
      rintro rfl
      simp at hshort
    have hblank : ∀ c ∈ before, isBlank c = true := fun c hc => hgap c (by simp [hc])
    have hc : isBlank c = true := hgap c (by simp)
    rw [keyPhrase?_long hbefore hblank hc] at h
    cases h
    rw [String.ofList_append, ← String.singleton_eq_ofList]
    exact .lastBlank (isGap_ofList hbefore hblank) hc

/-- What is found around two double quotes or more is taken as a key. -/
theorem mistakes_of_quotes {key : List Char} (hgap : ∀ c ∈ gap, isBlank c = true)
    (hinner : ∀ c ∈ inner, isBlank c = true)
    (hrest : rest.all isBlank = true → rest = [])
    (h : keyPhrase? ("a tecla".toList ++ (gap ++ '"' :: (inner ++ '"' :: rest))) = some key) :
    Mistakes (String.ofList (gap ++ '"' :: (inner ++ '"' :: rest))) (String.ofList key) := by
  -- Blanks between two quotes are a key only with a gap before them and blanks alone behind them.
  rw [keyPhrase?_quotes hgap hinner] at h
  split at h
  · rename_i hcond
    obtain ⟨hgapne, hinnerne, hblank⟩ := hcond
    obtain rfl := Option.some.inj h
    obtain rfl := hrest hblank
    have htext : String.ofList (gap ++ '"' :: (inner ++ ['"'])) =
        String.ofList gap ++ inQuotes (String.ofList inner) := by
      simp [← String.toList_inj, inQuotes]
    rw [htext]
    exact .quotedBlanks (isGap_ofList hgapne hgap) (isGap_ofList hinnerne hinner)
  · simp at h

/-- What is found behind the words is taken as a key for one of the reasons listed. -/
theorem mistakes_of_keyPhrase? {key : List Char} (hs : ∀ c ∈ s, isBlank c = true ∨ c = '"')
    (hlast : ∀ c ∈ s.getLast?, isBlank c = false)
    (h : keyPhrase? ("a tecla".toList ++ s) = some key) :
    Mistakes (String.ofList s) (String.ofList key) := by
  by_cases hne : s = []
  · subst hne
    obtain rfl : "a tecla".toList = key :=
      Option.some.inj ((Mistakes.phrase.keyPhrase?_eq).symm.trans h)
    exact .phrase
  obtain ⟨gap, rest, rfl, hgap, hrest⟩ := exists_gap hs (quote_mem_of_last hs hne hlast)
  by_cases hend : rest = []
  · rw [hend] at h ⊢
    exact mistakes_of_one_quote hgap h
  · have hlast' : ∀ c ∈ rest.getLast?, isBlank c = false := by
      rwa [List.getLast?_append_of_ne_nil _ (List.cons_ne_nil _ _),
        List.getLast?_cons_of_ne_nil hend] at hlast
    obtain ⟨inner, more, rfl, hinner, hmore⟩ :=
      exists_gap hrest (quote_mem_of_last hrest hend hlast')
    refine mistakes_of_quotes hgap hinner (fun hblank => ?_) h
    -- What follows the second double quote would else end with one, and so not be blank.
    by_contra hmorene
    rw [List.getLast?_append_of_ne_nil _ (List.cons_ne_nil _ _),
      List.getLast?_cons_of_ne_nil hmorene] at hlast'
    have hquote := quote_mem_of_last hmore hmorene hlast'
    exact absurd (List.all_eq_true.mp hblank _ hquote) (by decide)

end Sentence

/-! ## Sentences that end behind the words -/

/-- What becomes of a sentence that ends behind the words "a tecla" but for this text. -/
structure Sentence.Keyless (w : String) : Prop where
  /-- It asks for a key exactly if the key is taken by mistake, and for nothing else. -/
  taken_iff : ∀ action, Action.ofSentence ("Pressione a tecla" ++ w) = .ok action ↔
    ∃ key, Mistakes (String.ofList (trimEnd w.toList)) key ∧ action = .keyPress key
  /-- Otherwise it is refused, as a whole. -/
  refused_iff : Action.ofSentence ("Pressione a tecla" ++ w) =
      .error (.malformed (trimmed ("Pressione a tecla" ++ w))) ↔
    ∀ key, ¬ Mistakes (String.ofList (trimEnd w.toList)) key

namespace Action

/-- What stands behind the words for the key, but for the blanks at the end, decides. -/
theorem ofSentence_phrase (w : String) :
    ofSentence ("Pressione a tecla" ++ w) =
      match keyPhrase? ("a tecla".toList ++ trimEnd w.toList) with
      | some key => .ok (.keyPress (String.ofList key))
      | none => .error (.malformed (trimmed ("Pressione a tecla" ++ w))) := by
  have hwords : trim "Pressione a tecla".toList = "Pressione a tecla".toList := by decide
  have htext : (trimmed ("Pressione a tecla" ++ w)).toList =
      "Pressione".toList ++ (" ".toList ++ ("a tecla".toList ++ trimEnd w.toList)) := by
    rw [toList_trimmed, String.toList_append, trim_append_of_trimmed (by simp) hwords]
    rfl
  have hopens : Verb.keyPress.Opens (trimmed ("Pressione a tecla" ++ w)) := by
    rw [Verb.Opens, htext]
    exact List.prefix_append _ _
  have hread : action? .keyPress (trimmed ("Pressione a tecla" ++ w)).toList =
      (keyPhrase? ("a tecla".toList ++ trimEnd w.toList)).map (.keyPress <| String.ofList ·) := by
    -- One blank stands before the words, so that nothing but the words and the rest can be read.
    have hgap : afterBlanks? keyPhrase? (" ".toList ++ ("a tecla".toList ++ trimEnd w.toList)) =
        keyPhrase? ("a tecla".toList ++ trimEnd w.toList) := by
      rw [show " ".toList = [' '] from rfl, List.singleton_append, afterBlanks?,
        if_pos (by decide), afterBlanks?_of_head (by simp [show isBlank 'a' = false by decide])]
      rfl
    rw [htext, action?, keyPress?, show Verb.keyPress.opening.toList = "Pressione".toList from rfl,
      after?_eq_some_iff.mpr rfl, Option.bind_some, hgap]
  rw [ofSentence_of_opens hopens, hread]
  cases keyPhrase? ("a tecla".toList ++ trimEnd w.toList) <;> rfl

/-- A sentence that names no key asks for one exactly by mistake. -/
theorem ofSentence_keyless {w : String} (h : IsKeyless w) : Keyless w := by
  have hs : ∀ c ∈ trimEnd w.toList, isBlank c = true ∨ c = '"' := by
    obtain ⟨blanks, -, hw⟩ := exists_eq_trimEnd_append w.toList
    rw [IsKeyless, hw] at h
    exact fun c hc => h c (List.mem_append_left _ hc)
  have hiff : ∀ key : String, keyPhrase? ("a tecla".toList ++ trimEnd w.toList) = some key.toList ↔
      Mistakes (String.ofList (trimEnd w.toList)) key := by
    refine fun key => ⟨fun hread => ?_, fun hm => ?_⟩
    · have hm := mistakes_of_keyPhrase? hs (getLast?_trimEnd _) hread
      rwa [String.ofList_toList] at hm
    · have htail : (String.ofList (trimEnd w.toList)).toList = trimEnd w.toList :=
        String.toList_ofList
      rw [← htail]
      exact hm.keyPhrase?_eq
  have hread := ofSentence_phrase w
  cases hfound : keyPhrase? ("a tecla".toList ++ trimEnd w.toList) with
  | none =>
    rw [hfound] at hread hiff
    have hnone : ∀ key, ¬ Mistakes (String.ofList (trimEnd w.toList)) key :=
      fun key hm => Option.some_ne_none _ ((hiff key).mpr hm).symm
    exact ⟨fun action => by simp [hread, hnone], by simp [hread, hnone]⟩
  | some key =>
    rw [hfound] at hread hiff
    have htaken : Mistakes (String.ofList (trimEnd w.toList)) (String.ofList key) :=
      (hiff _).mp (by rw [String.toList_ofList])
    refine ⟨fun action => ⟨fun h => ?_, ?_⟩, iff_of_false (by simp [hread]) fun h => h _ htaken⟩
    · exact ⟨_, htaken, (Except.ok.inj (hread.symm.trans h)).symm⟩
    · rintro ⟨other, hother, rfl⟩
      obtain rfl : key = other.toList := Option.some.inj ((hiff other).mpr hother)
      simp only [hread, String.ofList_toList]

/-- Behind a tabulator and a space, two blanks between double quotes are taken as a key. -/
theorem ofSentence_keyless_blanks :
    IsKeyless "\t \"  \"\n" ∧
      ofSentence "Pressione a tecla\t \"  \"\n" = .ok (.keyPress "  ") := by
  have hw : IsKeyless "\t \"  \"\n" := by decide
  have hgap : IsGap "\t " := ⟨by decide, by decide⟩
  have hinner : IsGap "  " := ⟨by decide, by decide⟩
  have htail : String.ofList (trimEnd "\t \"  \"\n".toList) = "\t " ++ inQuotes "  " := by decide
  have htaken := (ofSentence_keyless hw).taken_iff (.keyPress "  ")
  rw [htail] at htaken
  exact ⟨hw, htaken.mpr ⟨"  ", .quotedBlanks hgap hinner, rfl⟩⟩

/-- The words for the key are taken as the key when nothing stands behind them. -/
theorem ofSentence_phrase_taken :
    ofSentence "Pressione a tecla" = .ok (.keyPress "a tecla") := by
  decide

end Action

end BrowserFlow
