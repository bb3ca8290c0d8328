import Mathlib.Data.List.Infix
import BrowserFlow.Sentence.Read

/-!
# What a form accepts

A form is read from left to right, and the first alternative that leads to an end is taken. The
reference, `Form.Fits`, says instead how the sentences of a form are put together: piece by piece,
with any text behind the last piece. The two agree on forms none of whose alternatives begins
another one (`Form.read?_eq_some_iff`), because there is then only one way to take a sentence apart
(`Form.Fits.unique`). All forms of sentences are of that kind.
-/

namespace BrowserFlow

/-! ## Searching -/

namespace Text

/-- What follows a beginning is the rest of the text. -/
@[simp]
theorem after?_eq_some_iff {w s rest : List Char} : after? w s = some rest ↔ s = w ++ rest := by
  induction w generalizing s with
  | nil => simp [after?]
  | cons a w ih =>
    cases s with
    | nil => simp [after?]
    | cons b s =>
      by_cases hab : a = b
      · simp [after?, hab, ih]
      · simp [after?, hab, Ne.symm hab]

/-- What follows the beginning of a string is the rest of the string. -/
theorem after?_toList_append (w s : String) : after? w.toList (w ++ s).toList = some s.toList := by
  simp

/-- What follows a beginning of a string, as a string. -/
theorem after?_toList_eq_some_iff {w s : String} {rest : List Char} :
    after? w.toList s.toList = some rest ↔ ∃ tail : String, s = w ++ tail ∧ tail.toList = rest := by
  rw [after?_eq_some_iff]
  constructor
  · intro h
    exact ⟨String.ofList rest, by simp [← String.toList_inj, h], by simp⟩
  · rintro ⟨tail, rfl, rfl⟩
    simp

/-- Something follows `w` in exactly the texts that begin with it. -/
theorem after?_isSome_iff {w s : List Char} : (after? w s).isSome = true ↔ w <+: s := by
  rw [Option.isSome_iff_exists]
  exact exists_congr fun rest => after?_eq_some_iff.trans eq_comm

/-- A text occurs in another one if it stands somewhere inside. -/
theorem occursIn_iff {needle s : List Char} : occursIn needle s = true ↔ needle <:+: s := by
  induction s with
  | nil => simp [occursIn]
  | cons c s ih => simp [occursIn, after?_isSome_iff, ih, List.infix_cons_iff]

end Text

namespace Sentence

open Text

/-! ## Quotations -/

/-- A text that can stand between double quotes: not empty, and without a double quote inside. -/
def Quotable (text : String) : Prop :=
  text ≠ "" ∧ '"' ∉ text.toList

/-- A text between double quotes. -/
def inQuotes (text : String) : String :=
  "\"" ++ text ++ "\""

/-- The part of a text before its first double quote. -/
theorem takeWhile_of_not_mem {text rest : List Char} (h : '"' ∉ text) :
    (text ++ '"' :: rest).takeWhile (· != '"') = text := by
  have hall : ∀ c ∈ text, (c != '"') = true := fun c hc => by
    simpa using ne_of_mem_of_not_mem hc h
  rw [List.takeWhile_append_of_pos hall, List.takeWhile_cons_of_neg (by simp), List.append_nil]

/-- The part of a text from its first double quote on. -/
theorem dropWhile_of_not_mem {text rest : List Char} (h : '"' ∉ text) :
    (text ++ '"' :: rest).dropWhile (· != '"') = '"' :: rest := by
  have hall : ∀ c ∈ text, (c != '"') = true := fun c hc => by
    simpa using ne_of_mem_of_not_mem hc h
  rw [List.dropWhile_append_of_pos hall, List.dropWhile_cons_of_neg (by simp)]

/-- A quotation is read exactly where a text stands between double quotes. -/
theorem quotation?_eq_some_iff {s text rest : List Char} :
    quotation? s = some (text, rest) ↔ text ≠ [] ∧ '"' ∉ text ∧ s = '"' :: text ++ '"' :: rest := by
  constructor
  · intro h
    unfold quotation? at h
    split at h
    · rename_i s
      simp only at h
      split at h
      · simp at h
      · rename_i c rest' hdrop
        split at h
        · simp at h
        · rename_i hne
          obtain ⟨rfl, rfl⟩ : s.takeWhile (· != '"') = text ∧ rest' = rest := by simpa using h
          -- What stops the run is a double quote, because nothing else does.
          obtain rfl : c = '"' := by
            have := List.head_dropWhile_not (· != '"') (l := s) (by simp [hdrop])
            simpa [hdrop] using this
          refine ⟨by simpa using hne, fun hmem => ?_, ?_⟩
          · have := List.all_eq_true.mp (List.all_takeWhile (p := (· != '"'))) _ hmem
            simp at this
          · rw [← hdrop, List.cons_append, List.takeWhile_append_dropWhile]
    · simp at h
  · rintro ⟨hne, hquote, rfl⟩
    simp [quotation?, takeWhile_of_not_mem hquote, dropWhile_of_not_mem hquote, hne]

/-- A quotation at the start of a sentence. -/
theorem quotation?_inQuotes {text : String} (h : Quotable text) (s : String) :
    quotation? (inQuotes text ++ s).toList = some (text.toList, s.toList) := by
  rw [quotation?_eq_some_iff]
  exact ⟨by simpa using h.1, h.2, by simp [inQuotes]⟩

/-! ## Forms -/

/-- The texts of which a piece lets one stand. -/
def Piece.choices : Piece → List String
  | .anyOf texts => texts
  | _ => []

namespace Form

/-- A sentence consists of the pieces of a form and of a rest; the texts are those that stand
between its quotes. -/
inductive Fits : Form → String → List String → (rest : String) → Prop
  /-- Nothing is demanded of the rest. -/
  | nil (rest : String) : Fits [] rest [] rest
  /-- The words stand as they are. -/
  | exactly {form : Form} {s : String} {texts : List String} {rest : String} (text : String)
    (tail : Fits form s texts rest) : Fits (.exactly text :: form) (text ++ s) texts rest
  /-- One of the alternatives is chosen. -/
  | anyOf {form : Form} {s : String} {texts : List String} {rest : String} {choices : List String}
    {text : String} (choice : text ∈ choices) (tail : Fits form s texts rest) :
    Fits (.anyOf choices :: form) (text ++ s) texts rest
  /-- A text stands between double quotes. -/
  | quotation {form : Form} {s : String} {texts : List String} {rest text : String}
    (quotable : Quotable text) (tail : Fits form s texts rest) :
    Fits (.quotation :: form) (inQuotes text ++ s) (text :: texts) rest

variable {form more : Form} {s rest rest' : String} {texts texts' : List String}

/-- Taking nothing from a sentence leaves the whole of it. -/
theorem fits_nil_iff : Fits [] s texts rest ↔ texts = [] ∧ s = rest := by
  constructor
  · intro h
    cases h
    exact ⟨rfl, rfl⟩
  · rintro ⟨rfl, rfl⟩
    exact .nil s

/-- Taking words from a sentence. -/
theorem fits_exactly_iff {text : String} :
    Fits (.exactly text :: form) s texts rest ↔
      ∃ tail, s = text ++ tail ∧ Fits form tail texts rest := by
  constructor
  · intro h
    cases h with
    | exactly _ tail => exact ⟨_, rfl, tail⟩
  · rintro ⟨tail, rfl, h⟩
    exact .exactly text h

/-- Taking one of several words from a sentence. -/
theorem fits_anyOf_iff {choices : List String} :
    Fits (.anyOf choices :: form) s texts rest ↔
      ∃ text ∈ choices, ∃ tail, s = text ++ tail ∧ Fits form tail texts rest := by
  constructor
  · intro h
    cases h with
    | anyOf choice tail => exact ⟨_, choice, _, rfl, tail⟩
  · rintro ⟨text, choice, tail, rfl, h⟩
    exact .anyOf choice h

/-- Taking one of several words from a sentence, with what always stands around it. -/
theorem fits_anyOf_map_iff {words : List String} {f : String → String} :
    Fits (.anyOf (words.map f) :: form) s texts rest ↔
      ∃ word ∈ words, ∃ tail, s = f word ++ tail ∧ Fits form tail texts rest := by
  simp [fits_anyOf_iff]

/-- Taking a quotation from a sentence. -/
theorem fits_quotation_iff :
    Fits (.quotation :: form) s texts rest ↔
      ∃ text tail others, Quotable text ∧ s = inQuotes text ++ tail ∧ texts = text :: others ∧
        Fits form tail others rest := by
  constructor
  · intro h
    cases h with
    | quotation quotable tail => exact ⟨_, _, _, quotable, rfl, rfl, tail⟩
  · rintro ⟨text, tail, others, quotable, rfl, rfl, h⟩
    exact .quotation quotable h

/-- No alternative of a form begins another one at the same place. -/
def IsClear (form : Form) : Prop :=
  ∀ piece ∈ form, ∀ a ∈ piece.choices, ∀ b ∈ piece.choices, a.toList <+: b.toList → a = b

instance (form : Form) : Decidable (IsClear form) :=
  inferInstanceAs (Decidable (∀ piece ∈ form, ∀ a ∈ piece.choices, ∀ b ∈ piece.choices,
    a.toList <+: b.toList → a = b))

theorem IsClear.tail {piece : Piece} (h : IsClear (piece :: form)) : IsClear form :=
  fun _ hmem => h _ (List.mem_cons_of_mem _ hmem)

/-- A sentence can be taken apart by a clear form in one way only. -/
theorem Fits.unique (hclear : IsClear form) (h : Fits form s texts rest)
    (h' : Fits form s texts' rest') : texts = texts' ∧ rest = rest' := by
  induction h generalizing texts' rest' with
  | nil rest =>
    obtain ⟨rfl, rfl⟩ := fits_nil_iff.mp h'
    exact ⟨rfl, rfl⟩
  | exactly text tail ih =>
    obtain ⟨s', hs, tail'⟩ := fits_exactly_iff.mp h'
    obtain rfl := String.append_right_inj text |>.mp hs
    exact ih hclear.tail tail'
  | @anyOf form s texts rest choices text choice tail ih =>
    obtain ⟨text', choice', s', hs, tail'⟩ := fits_anyOf_iff.mp h'
    -- Of two beginnings of one text, one begins the other.
    have hlist : text.toList ++ s.toList = text'.toList ++ s'.toList := by
      rw [← String.toList_append, hs, String.toList_append]
    have hwords := hclear (.anyOf choices) List.mem_cons_self
    obtain rfl : text = text' := by
      rcases List.prefix_or_prefix_of_prefix (List.prefix_append text.toList s.toList)
        (hlist ▸ List.prefix_append text'.toList s'.toList) with hp | hp
      · exact hwords _ choice _ choice' hp
      · exact (hwords _ choice' _ choice hp).symm
    obtain rfl := String.append_right_inj text |>.mp hs
    exact ih hclear.tail tail'
  | @quotation form s texts rest text quotable tail ih =>
    obtain ⟨text', s', others, quotable', hs, rfl, tail'⟩ := fits_quotation_iff.mp h'
    have hread := quotation?_inQuotes quotable s
    rw [hs, quotation?_inQuotes quotable'] at hread
    obtain ⟨rfl, rfl⟩ : text' = text ∧ s' = s := by simpa [String.toList_inj] using hread
    obtain ⟨rfl, rfl⟩ := ih hclear.tail tail'
    exact ⟨rfl, rfl⟩

/-- What is read is there. -/
theorem exists_fits_of_read? (h : form.read? s.toList = some texts) :
    ∃ rest, Fits form s texts rest := by
  induction form generalizing s texts with
  | nil =>
    obtain rfl : [] = texts := by simpa [read?] using h
    exact ⟨s, .nil s⟩
  | cons piece form ih =>
    cases piece with
    | exactly text =>
      simp only [read?, Option.bind_eq_some_iff, after?_toList_eq_some_iff] at h
      obtain ⟨_, ⟨s, rfl, rfl⟩, h⟩ := h
      obtain ⟨rest, h⟩ := ih h
      exact ⟨rest, .exactly text h⟩
    | anyOf choices =>
      rw [read?] at h
      obtain ⟨text, hchoice, hread⟩ := List.exists_of_findSome?_eq_some h
      simp only [Option.bind_eq_some_iff, after?_toList_eq_some_iff] at hread
      obtain ⟨_, ⟨s, rfl, rfl⟩, hread⟩ := hread
      obtain ⟨rest, hfits⟩ := ih hread
      exact ⟨rest, .anyOf hchoice hfits⟩
    | quotation =>
      simp only [read?, Option.bind_eq_some_iff, Option.map_eq_some_iff, Prod.exists,
        quotation?_eq_some_iff] at h
      obtain ⟨text, tail, ⟨hne, hquote, hs⟩, texts, h, rfl⟩ := h
      -- What is read is a list of characters, and what fits is a text.
      obtain rfl : s = inQuotes (String.ofList text) ++ String.ofList tail := by
        simp [← String.toList_inj, hs, inQuotes]
      obtain ⟨rest, h⟩ := ih (s := String.ofList tail) (by simpa using h)
      exact ⟨rest, .quotation ⟨by simpa using hne, by simpa using hquote⟩ h⟩

/-- What is there is read, though perhaps in another way. -/
theorem Fits.isSome_read? (h : Fits form s texts rest) : (form.read? s.toList).isSome = true := by
  induction h with
  | nil rest => rfl
  | exactly text tail ih =>
    rw [read?, after?_toList_append]
    exact ih
  | @anyOf _ s _ _ _ text choice tail ih =>
    rw [read?, List.findSome?_isSome_iff]
    exact ⟨text, choice, by rwa [after?_toList_append]⟩
  | quotation quotable tail ih =>
    rw [read?, quotation?_inQuotes quotable, Option.bind_some]
    rwa [Option.isSome_map]

/-- A clear form reads exactly the sentences that fit it, and their quoted texts. -/
theorem read?_eq_some_iff (hclear : IsClear form) :
    form.read? s.toList = some texts ↔ ∃ rest, Fits form s texts rest := by
  refine ⟨exists_fits_of_read?, fun ⟨rest, h⟩ => ?_⟩
  obtain ⟨texts', hread⟩ := Option.isSome_iff_exists.mp h.isSome_read?
  obtain ⟨rest', h'⟩ := exists_fits_of_read? hread
  rw [hread, (h'.unique hclear h).1]

/-- The single quoted text of a sentence that fits a clear form. -/
theorem one?_eq_some_iff (hclear : IsClear form) {text : String} :
    one? form s.toList = some text ↔ ∃ rest, Fits form s [text] rest := by
  rw [← read?_eq_some_iff hclear, one?]
  split
  · rename_i hread
    simp [hread]
  · rename_i hread
    exact iff_of_false (by simp) fun h => hread text h

/-- A sentence that cannot be read has no single quoted text. -/
theorem one?_eq_none {s : List Char} (h : form.read? s = none) : one? form s = none := by
  simp [one?, h]

/-- The two quoted texts of a sentence that fits a clear form. -/
theorem two?_eq_some_iff (hclear : IsClear form) {first second : String} :
    two? form s.toList = some (first, second) ↔ ∃ rest, Fits form s [first, second] rest := by
  rw [← read?_eq_some_iff hclear, two?]
  split
  · rename_i hread
    simp [hread]
  · rename_i hread
    exact iff_of_false (by simp) fun h => hread first second h

/-- A sentence of a form begins with what fits the first pieces of the form. -/
theorem Fits.of_append (h : Fits (form ++ more) s texts rest) :
    ∃ first middle second, texts = first ++ second ∧ Fits form s first middle ∧
      Fits more middle second rest := by
  induction form generalizing s texts with
  | nil => exact ⟨[], s, texts, rfl, .nil s, h⟩
  | cons piece form ih =>
    cases h with
    | exactly text tail =>
      obtain ⟨first, middle, second, htexts, hfirst, hsecond⟩ := ih tail
      exact ⟨first, middle, second, htexts, .exactly text hfirst, hsecond⟩
    | anyOf choice tail =>
      obtain ⟨first, middle, second, htexts, hfirst, hsecond⟩ := ih tail
      exact ⟨first, middle, second, htexts, .anyOf choice hfirst, hsecond⟩
    | quotation quotable tail =>
      obtain ⟨first, middle, second, htexts, hfirst, hsecond⟩ := ih tail
      exact ⟨_, middle, second, congrArg _ htexts, .quotation quotable hfirst, hsecond⟩

/-- A sentence that goes on with one word after some pieces does not go on with another one. -/
theorem Fits.read?_eq_none {a : String} {first : Form} (form : Form) (b : String) (second : Form)
    (hclear : IsClear form) (hab : ¬ a.toList <+: b.toList) (hba : ¬ b.toList <+: a.toList)
    (h : Fits (form ++ .exactly a :: first) s texts rest) :
    read? (form ++ .exactly b :: second) s.toList = none := by
  cases hread : read? (form ++ .exactly b :: second) s.toList with
  | none => rfl
  | some texts' =>
    obtain ⟨rest', h'⟩ := exists_fits_of_read? hread
    obtain ⟨_, middle, _, -, hform, htail⟩ := h.of_append
    obtain ⟨_, middle', _, -, hform', htail'⟩ := h'.of_append
    obtain ⟨-, rfl⟩ := hform.unique hclear hform'
    obtain ⟨tail, hs, -⟩ := fits_exactly_iff.mp htail
    obtain ⟨tail', hs', -⟩ := fits_exactly_iff.mp htail'
    -- Both words would begin what is left behind the common part, so one would begin the other.
    have hpa : a.toList <+: middle.toList := ⟨tail.toList, by rw [hs, String.toList_append]⟩
    have hpb : b.toList <+: middle.toList := ⟨tail'.toList, by rw [hs', String.toList_append]⟩
    exact ((List.prefix_or_prefix_of_prefix hpa hpb).elim hab hba).elim

end Form

end Sentence

end BrowserFlow
