import Mathlib.Data.List.Infix
import BrowserFlow.Report.Html

/-!
# Shown texts

A shown text is written with entities in place of the characters that markup is made of. It thus
contains none of the delimiters of markup (`delimiters_escaped`), every ampersand in it starts an
entity (`onlyEntities_escaped`), and reading the entities gives the text back (`unescape_escaped`).
Each holds of what is written for one character, followed by anything of which it holds. The same
text comes out if the characters are replaced by their entities one after the other, as long as the
ampersand is the first (`escaped_eq_foldl_replaceAll`).
-/

namespace BrowserFlow.Report

open Text

/-- A text as it stands in a page. -/
def escaped (text : String) : String :=
  (Fragment.shown text).render

/-- Characters that delimit tags and attributes. -/
def isDelimiter (c : Char) : Bool :=
  c == '<' || c == '>' || c == '"' || c == '\''

/-- The delimiters of a page, in order. -/
def delimiters (page : String) : List Char :=
  page.toList.filter isDelimiter

/-- The entities and the characters that they stand for. -/
def entities : List (Char × String) :=
  [('&', "&amp;"), ('<', "&lt;"), ('>', "&gt;"), ('"', "&quot;"), ('\'', "&#39;")]

/-- Every ampersand of a text starts an entity. -/
def OnlyEntities (text : List Char) : Prop :=
  ∀ rest, '&' :: rest <:+ text → ∃ e ∈ entities, e.2.toList <+: '&' :: rest

/-- A text with every entity read as the character that it stands for. -/
def unescape : List Char → List Char
  | '&' :: 'a' :: 'm' :: 'p' :: ';' :: s => '&' :: unescape s
  | '&' :: 'l' :: 't' :: ';' :: s => '<' :: unescape s
  | '&' :: 'g' :: 't' :: ';' :: s => '>' :: unescape s
  | '&' :: 'q' :: 'u' :: 'o' :: 't' :: ';' :: s => '"' :: unescape s
  | '&' :: '#' :: '3' :: '9' :: ';' :: s => '\'' :: unescape s
  | c :: s => c :: unescape s
  | [] => []

/-- A character is written as its entity, or else it is neither an ampersand nor a delimiter and
stands for itself. -/
theorem entity_cases (c : Char) :
    (∃ e ∈ entities, c = e.1 ∧ entity c = e.2.toList) ∨
      (c ≠ '&' ∧ isDelimiter c = false ∧ entity c = [c]) := by
  by_cases hc : c ∈ entities.map Prod.fst
  · obtain ⟨e, he, rfl⟩ := List.mem_map.mp hc
    have hentity : ∀ e ∈ entities, entity e.1 = e.2.toList := by decide
    exact .inl ⟨e, he, rfl, hentity e he⟩
  · simp only [entities, List.map_cons, List.map_nil, List.mem_cons, List.not_mem_nil, or_false,
      not_or] at hc
    obtain ⟨hamp, hlt, hgt, hquot, hapos⟩ := hc
    exact .inr ⟨hamp, by simp [isDelimiter, *], by simp [entity, *]⟩

/-- A character that is no ampersand stands for itself. -/
theorem unescape_cons {c : Char} (h : c ≠ '&') (s : List Char) :
    unescape (c :: s) = c :: unescape s := by
  rw [unescape.eq_def]
  split <;> simp_all

/-- What is written for a character is read as that character. -/
theorem unescape_entity_append (c : Char) (s : List Char) :
    unescape (entity c ++ s) = c :: unescape s := by
  rcases entity_cases c with ⟨e, he, rfl, hc⟩ | ⟨hamp, -, hc⟩
  · have hread : ∀ e ∈ entities, unescape (e.2.toList ++ s) = e.1 :: unescape s := by
      simp [entities, unescape]
    rw [hc, hread e he]
  · rw [hc, List.singleton_append, unescape_cons hamp]

/-- Reading the entities of a shown text gives the text back. -/
theorem unescape_escaped (text : String) : unescape (escaped text).toList = text.toList := by
  rw [escaped, Fragment.render, mapChars, String.toList_ofList]
  induction text.toList with
  | nil => rfl
  | cons c s ih => rw [List.flatMap_cons, unescape_entity_append, ih]

/-- Nothing that is written for a character delimits markup. -/
theorem isDelimiter_of_mem_entity {c d : Char} (h : d ∈ entity c) : isDelimiter d = false := by
  rcases entity_cases c with ⟨e, he, -, hc⟩ | ⟨-, hd, hc⟩
  · have hplain : ∀ e ∈ entities, ∀ d ∈ e.2.toList, isDelimiter d = false := by
      simp [entities, isDelimiter]
    exact hplain e he d (hc ▸ h)
  · rw [hc, List.mem_singleton] at h
    rwa [h]

/-- A shown text contains no delimiter. -/
theorem delimiters_escaped (text : String) : delimiters (escaped text) = [] := by
  rw [delimiters, escaped, Fragment.render, mapChars, String.toList_ofList, List.filter_eq_nil_iff]
  intro d hd
  obtain ⟨c, -, hc⟩ := List.mem_flatMap.mp hd
  simp [isDelimiter_of_mem_entity hc]

/-- Characters other than the ampersand may stand before a text. -/
theorem OnlyEntities.append_of_notMem {w s : List Char} (hw : '&' ∉ w) (h : OnlyEntities s) :
    OnlyEntities (w ++ s) := by
  induction w with
  | nil => exact h
  | cons c w ih =>
    rw [List.mem_cons, not_or] at hw
    intro rest hrest
    rcases List.suffix_cons_iff.mp hrest with heq | hsuffix
    · exact absurd (List.cons.inj heq).1 hw.1
    · exact ih hw.2 rest hsuffix

/-- What is written for a character may stand before a text. -/
theorem OnlyEntities.entity_append {s : List Char} (h : OnlyEntities s) (c : Char) :
    OnlyEntities (entity c ++ s) := by
  rcases entity_cases c with ⟨e, he, -, hc⟩ | ⟨hamp, -, hc⟩
  · -- The only ampersand of an entity is its first character.
    have hhead : ∀ e ∈ entities, ∃ w, e.2.toList = '&' :: w ∧ '&' ∉ w := by simp [entities]
    obtain ⟨w, hw, hnot⟩ := hhead e he
    rw [hc, hw]
    intro rest hrest
    rcases List.suffix_cons_iff.mp hrest with heq | hsuffix
    · exact ⟨e, he, by rw [heq, hw]; exact List.prefix_append _ _⟩
    · exact h.append_of_notMem hnot rest hsuffix
  · rw [hc]
    exact h.append_of_notMem (by simpa using hamp.symm)

/-- Every ampersand of a shown text starts an entity. -/
theorem onlyEntities_escaped (text : String) : OnlyEntities (escaped text).toList := by
  rw [escaped, Fragment.render, mapChars, String.toList_ofList]
  induction text.toList with
  | nil => simp [OnlyEntities]
  | cons c s ih => exact ih.entity_append c

/-! ## One replacement after the other -/

/-- A text with every occurrence of a character replaced by its entity. -/
def replaceAll (text : List Char) (e : Char × String) : List Char :=
  text.flatMap fun c => if c == e.1 then e.2.toList else [c]

theorem foldl_replaceAll_append (es : List (Char × String)) (s t : List Char) :
    es.foldl replaceAll (s ++ t) = es.foldl replaceAll s ++ es.foldl replaceAll t := by
  induction es generalizing s t with
  | nil => rfl
  | cons e es ih => simp only [List.foldl_cons, replaceAll, List.flatMap_append, ih]

theorem foldl_replaceAll_of_ne {c : Char} {es : List (Char × String)} (h : ∀ e ∈ es, c ≠ e.1) :
    es.foldl replaceAll [c] = [c] := by
  induction es with
  | nil => rfl
  | cons e es ih =>
    rw [List.forall_mem_cons] at h
    have hkept : replaceAll [c] e = [c] := by simp [replaceAll, h.1]
    rw [List.foldl_cons, hkept, ih h.2]

/-- No replacement undoes or repeats an earlier one on what is written for a character. -/
theorem foldl_replaceAll_singleton (c : Char) : entities.foldl replaceAll [c] = entity c := by
  rcases entity_cases c with ⟨e, he, rfl, hc⟩ | ⟨hamp, hdelimiter, hc⟩
  · have hreplaced : ∀ e ∈ entities, entities.foldl replaceAll [e.1] = e.2.toList := by decide
    rw [hc, hreplaced e he]
  · -- Only ampersands and delimiters are replaced.
    have hreplaceable : ∀ e ∈ entities, e.1 = '&' ∨ isDelimiter e.1 = true := by decide
    rw [hc]
    refine foldl_replaceAll_of_ne fun e he => ?_
    rintro rfl
    rcases hreplaceable e he with heq | htrue
    · exact hamp heq
    · exact Bool.false_ne_true (hdelimiter.symm.trans htrue)

/-- Replacing the characters one after the other, the ampersand first, escapes a text. -/
theorem escaped_eq_foldl_replaceAll (text : String) :
    (escaped text).toList = entities.foldl replaceAll text.toList := by
  rw [escaped, Fragment.render, mapChars, String.toList_ofList]
  induction text.toList with
  | nil => rfl
  | cons c s ih =>
    rw [List.flatMap_cons, ih, ← foldl_replaceAll_singleton, ← foldl_replaceAll_append,
      List.singleton_append]

end BrowserFlow.Report
