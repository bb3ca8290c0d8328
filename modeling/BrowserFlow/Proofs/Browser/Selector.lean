import BrowserFlow.Proofs.Report.Entity
import BrowserFlow.Target
import Mathlib.Algebra.Ring.Parity
import Mathlib.Data.List.DropRight

/-!
# What a selector asks for

A selector is a beginning that tells the kind of the locator, a quoted text, and what follows the
closing quote. Between the quotes a backslash takes the next character along, so a quote is escaped
there if the backslashes right before it are odd in number (`IsEscaped`). A text can stand between
quotes if all of its own quotes are escaped and one behind it is not (`IsClosed`); then the closing
quote can be told from the others (`HasQuoted.unique`).

The text of a locator is escaped character by character, and every character leaves the next one
unescaped. By induction over the characters the escaped text is closed (`isClosed_escaped`) and is
read as the text again (`unescape_escaped`). So beginning, text and ending can be told from a
selector, and they make up the locator (`selector_faithful`). It comes to the same if all
backslashes are escaped first and all quotes after that (`escaped_eq_foldl_replaceAll`).
-/

namespace BrowserFlow.Locator

open Text

/-! ## The parts of a selector -/

/-- The text that a selector quotes. -/
def quotedText : Locator → String
  | .text t | .placeholder t | .ariaLabel t | .name t | .id t | .labelledControl t _ => t

/-- What stands before the opening quote. -/
def opening : Locator → String
  | .text _ => "text="
  | .placeholder _ => "[placeholder="
  | .ariaLabel _ => "[aria-label="
  | .name _ => "[name="
  | .id _ => "[id="
  | .labelledControl _ _ => "label:has-text("

/-- What stands behind the closing quote. -/
def ending : Locator → String
  | .text _ => ""
  | .placeholder _ | .ariaLabel _ | .name _ | .id _ => "]"
  | .labelledControl _ control => ") + " ++ control

/-- A locator is made up of the parts of its selector. -/
theorem eq_of_parts {l l' : Locator} (hopening : l.opening = l'.opening)
    (htext : l.quotedText = l'.quotedText) (hending : l.ending = l'.ending) : l = l' := by
  cases l <;> cases l' <;> simp_all [opening, quotedText, ending]

/-- The selector with its quotes. -/
theorem toList_selector (l : Locator) : l.selector.toList =
    l.opening.toList ++ '"' :: ((escaped l.quotedText).toList ++ '"' :: l.ending.toList) := by
  unfold selector opening quotedText ending
  cases l <;> simp only [String.toList_append, String.reduceToList, List.cons_append,
    List.nil_append, List.append_assoc]

/-- There is no quote before the opening one. -/
theorem quote_not_mem_opening (l : Locator) : '"' ∉ l.opening.toList := by
  cases l <;> simp [opening]

/-! ## Escaped characters -/

/-- A character is escaped by what stands before it: the backslashes right there are odd in
number. -/
def IsEscaped (before : List Char) : Prop :=
  Odd (before.rtakeWhile (· == '\\')).length

theorem not_isEscaped_nil : ¬ IsEscaped [] := by
  simp [IsEscaped]

/-- Only a backslash that is not escaped itself escapes the next character. -/
theorem isEscaped_concat {before : List Char} {c : Char} :
    IsEscaped (before ++ [c]) ↔ c = '\\' ∧ ¬ IsEscaped before := by
  unfold IsEscaped
  rw [List.rtakeWhile_concat]
  by_cases hc : c = '\\'
  · simp [hc, Nat.odd_add_one]
  · simp [hc]

/-- A text can stand between quotes. -/
structure IsClosed (body : List Char) : Prop where
  /-- All quotes in it are escaped. -/
  quotes : ∀ front back, body = front ++ '"' :: back → IsEscaped front
  /-- A quote behind it is not. -/
  closing : ¬ IsEscaped body

/-- The quoted part of a text begins behind its first quote, and ends before the next one that is
not escaped. -/
structure HasQuoted (s before body after : List Char) : Prop where
  /-- The part stands between two quotes. -/
  eq : s = before ++ '"' :: (body ++ '"' :: after)
  /-- There is no quote before the opening one. -/
  opens : '"' ∉ before
  /-- The closing quote is the first one that is not escaped. -/
  closes : IsClosed body

/-- No quote ends a closed text before its end: one that did would be escaped. -/
theorem IsClosed.eq_nil_of_append {body more after after' : List Char} (h : IsClosed body)
    (h' : IsClosed (body ++ more)) (heq : '"' :: after = more ++ '"' :: after') : more = [] := by
  cases more with
  | nil => rfl
  | cons c more =>
    obtain ⟨rfl, -⟩ := List.cons.inj heq
    exact absurd (h'.quotes body more rfl) h.closing

/-- The quoted part can be told from what is around it. -/
theorem HasQuoted.unique {s before body after before' body' after' : List Char}
    (h : HasQuoted s before body after) (h' : HasQuoted s before' body' after') :
    before = before' ∧ body = body' ∧ after = after' := by
  have heq := h.eq.symm.trans h'.eq
  have hpositive (w : List Char) (hw : '"' ∉ w) : ∀ c ∈ w, (c != '"') = true := fun c hc => by
    simpa using ne_of_mem_of_not_mem hc hw
  have hbefore : before = before' := by
    have htake := congrArg (List.takeWhile (· != '"')) heq
    rwa [List.takeWhile_append_of_pos (hpositive _ h.opens),
      List.takeWhile_append_of_pos (hpositive _ h'.opens), List.takeWhile_cons_of_neg (by simp),
      List.takeWhile_cons_of_neg (by simp), List.append_nil, List.append_nil] at htake
  subst hbefore
  have hquoted := (List.cons.inj (List.append_cancel_left heq)).2
  rcases List.append_eq_append_iff.mp hquoted with ⟨more, rfl, hmore⟩ | ⟨more, rfl, hmore⟩
  · obtain rfl := h.closes.eq_nil_of_append h'.closes hmore
    exact ⟨rfl, (List.append_nil _).symm, (List.cons.inj hmore).2⟩
  · obtain rfl := h'.closes.eq_nil_of_append h.closes hmore
    exact ⟨rfl, List.append_nil _, (List.cons.inj hmore).2.symm⟩

/-! ## Escaping -/

/-- A text between quotes as it is read: a backslash takes the next character along. -/
def unescape : List Char → List Char
  | '\\' :: c :: s => c :: unescape s
  | c :: s => c :: unescape s
  | [] => []

/-- A character is a backslash or a quote, with a backslash before it, or stands for itself. -/
theorem escapedChar_cases (c : Char) :
    ((c = '\\' ∨ c = '"') ∧ escapedChar c = ['\\', c]) ∨
      (c ≠ '\\' ∧ c ≠ '"' ∧ escapedChar c = [c]) := by
  by_cases hslash : c = '\\'
  · exact .inl ⟨.inl hslash, by simp [escapedChar, hslash]⟩
  by_cases hquote : c = '"'
  · exact .inl ⟨.inr hquote, by simp [escapedChar, hquote]⟩
  exact .inr ⟨hslash, hquote, by simp [escapedChar, hslash, hquote]⟩

/-- What is written for a character is read as that character. -/
theorem unescape_escapedChar_append (c : Char) (s : List Char) :
    unescape (escapedChar c ++ s) = c :: unescape s := by
  rcases escapedChar_cases c with ⟨-, hc⟩ | ⟨hslash, -, hc⟩
  · rw [hc]
    rfl
  · rw [hc, List.singleton_append, unescape.eq_def]
    split <;> simp_all

/-- An escaped text is read as the text. -/
theorem unescape_escaped (t : String) : unescape (escaped t).toList = t.toList := by
  rw [escaped, mapChars, String.toList_ofList]
  induction t.toList with
  | nil => rfl
  | cons c s ih => rw [List.flatMap_cons, unescape_escapedChar_append, ih]

/-- What is written for a character leaves the next one unescaped, and is itself escaped if it is a
quote. -/
theorem isClosed_escapedChar_append {before : List Char} (h : ¬ IsEscaped before) (c : Char) :
    ¬ IsEscaped (before ++ escapedChar c) ∧
      ∀ front back, escapedChar c = front ++ '"' :: back → IsEscaped (before ++ front) := by
  have hslash : IsEscaped (before ++ ['\\']) := isEscaped_concat.mpr ⟨rfl, h⟩
  rcases escapedChar_cases c with ⟨-, hc⟩ | ⟨hnot, hquote, hc⟩ <;> rw [hc]
  · constructor
    · have hsplit : before ++ ['\\', c] = (before ++ ['\\']) ++ [c] := by simp
      rw [hsplit, isEscaped_concat]
      exact fun hescaped => hescaped.2 hslash
    · intro front back heq
      rcases front with _ | ⟨a, _ | ⟨b, front⟩⟩
      · simp at heq
      · obtain ⟨rfl, -⟩ := List.cons.inj heq
        exact hslash
      · simp at heq
  · constructor
    · rw [isEscaped_concat]
      exact fun hescaped => hnot hescaped.1
    · intro front back heq
      rcases front with _ | ⟨a, front⟩
      · exact absurd (List.cons.inj heq).1 hquote
      · simp at heq

/-- An escaped text can stand between quotes. -/
theorem isClosed_escaped (t : String) : IsClosed (escaped t).toList := by
  rw [escaped, mapChars, String.toList_ofList]
  -- Whatever stands before it, as long as that leaves the next character unescaped.
  have hclosed (s before : List Char) (h : ¬ IsEscaped before) :
      ¬ IsEscaped (before ++ s.flatMap escapedChar) ∧
        ∀ front back, s.flatMap escapedChar = front ++ '"' :: back →
          IsEscaped (before ++ front) := by
    induction s generalizing before with
    | nil => simpa using h
    | cons c s ih =>
      obtain ⟨hnext, hinside⟩ := isClosed_escapedChar_append h c
      obtain ⟨hend, hrest⟩ := ih (before ++ escapedChar c) hnext
      rw [List.append_assoc, ← List.flatMap_cons] at hend
      refine ⟨hend, fun front back heq => ?_⟩
      rw [List.flatMap_cons] at heq
      rcases List.append_eq_append_iff.mp heq with ⟨more, rfl, hmore⟩ | ⟨more, hmore, hback⟩
      · rw [← List.append_assoc]
        exact hrest more back hmore
      · cases more with
        | nil =>
          rw [List.append_nil] at hmore
          have := hrest [] back hback.symm
          rwa [List.append_nil, hmore] at this
        | cons d more =>
          obtain ⟨rfl, -⟩ := List.cons.inj hback
          exact hinside front more hmore
  obtain ⟨hend, hquotes⟩ := hclosed t.toList [] not_isEscaped_nil
  exact ⟨hquotes, hend⟩

/-! ## Selectors -/

/-- Every selector quotes its text so that the text can be read back, and two locators never have
the same selector. -/
theorem selector_faithful :
    (∀ l : Locator, ∃ body, HasQuoted l.selector.toList l.opening.toList body l.ending.toList ∧
      unescape body = l.quotedText.toList) ∧
    Function.Injective selector := by
  have hquoted (l : Locator) : HasQuoted l.selector.toList l.opening.toList
      (escaped l.quotedText).toList l.ending.toList :=
    ⟨toList_selector l, quote_not_mem_opening l, isClosed_escaped _⟩
  refine ⟨fun l => ⟨_, hquoted l, unescape_escaped _⟩, fun l l' h => ?_⟩
  obtain ⟨hopening, hbody, hending⟩ := (hquoted l).unique (h ▸ hquoted l')
  have htext : l.quotedText.toList = l'.quotedText.toList := by
    rw [← unescape_escaped, hbody, unescape_escaped]
  exact eq_of_parts (String.toList_inj.mp hopening) (String.toList_inj.mp htext)
    (String.toList_inj.mp hending)

/-! ## One replacement after the other -/

/-- What is escaped, and how. -/
def escapes : List (Char × String) :=
  [('\\', "\\\\"), ('"', "\\\"")]

/-- Escaping all backslashes and then all quotes escapes a text. -/
theorem escaped_eq_foldl_replaceAll (t : String) :
    (escaped t).toList = escapes.foldl Report.replaceAll t.toList := by
  have hchar (c : Char) : escapes.foldl Report.replaceAll [c] = escapedChar c := by
    rcases escapedChar_cases c with ⟨rfl | rfl, hc⟩ | ⟨hslash, hquote, hc⟩
    · decide
    · decide
    · rw [hc]
      exact Report.foldl_replaceAll_of_ne (by simp [escapes, hslash, hquote])
  rw [escaped, mapChars, String.toList_ofList]
  induction t.toList with
  | nil => rfl
  | cons c s ih =>
    rw [List.flatMap_cons, ih, ← hchar, ← Report.foldl_replaceAll_append, List.singleton_append]

/-- In the other order the backslash before a quote is escaped in turn. -/
example : escapes.reverse.foldl Report.replaceAll ['"'] ≠ (escaped "\"").toList := by
  decide

end BrowserFlow.Locator
