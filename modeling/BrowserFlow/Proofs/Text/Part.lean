import BrowserFlow.Text.Blank
import BrowserFlow.Text.Digit
import Mathlib.Data.List.DropRight
import Mathlib.Data.List.TakeWhile
import Mathlib.Data.Nat.Digits.Defs

/-!
# Parts of a text

What is left of a text when its ends are taken away, where its lines begin and end, and where its
first number stands. The functions on texts find these parts by scanning. The lemmas here say which
parts they are by how the text is put together from them: blanks before and behind it
(`trim_append_left`, `trim_append_right`), one line before the rest (`lines_append_lineFeed`), a
first run with what comes before and behind it (`isFirstRun_iff`).
-/

namespace BrowserFlow.Text

variable {p : Char → Bool} {before after run s : List Char}

/-! ## Both ends -/

/-- A text without the characters at its ends that satisfy `p`. Trimming is stripping of blanks, and
trimming with respect to one character is stripping of that character. -/
def strip (p : Char → Bool) (s : List Char) : List Char :=
  (s.dropWhile p).rdropWhile p

/-- What stands before a text is taken away with its start. -/
theorem strip_append_left (h : ∀ c ∈ before, p c = true) :
    strip p (before ++ s) = strip p s := by
  rw [strip, List.dropWhile_append_of_pos h, strip]

/-- What stands behind a text is taken away with its end. -/
theorem strip_append_right (h : ∀ c ∈ after, p c = true) : strip p (s ++ after) = strip p s := by
  have hnone : after.dropWhile p = [] := List.dropWhile_eq_nil_iff.mpr h
  have hreverse : ∀ c ∈ after.reverse, p c = true := fun c hc => h c (List.mem_reverse.mp hc)
  rw [strip, strip, List.dropWhile_append]
  split
  · -- Nothing of the text itself is left.
    rename_i hempty
    rw [hnone, List.isEmpty_iff.mp hempty]
  · simp only [List.rdropWhile, List.reverse_append, List.dropWhile_append_of_pos hreverse]

/-- A text is what stripping leaves, and what stripping takes away around it. -/
theorem exists_eq_append_strip (p : Char → Bool) (s : List Char) :
    ∃ before after, (∀ c ∈ before, p c = true) ∧ (∀ c ∈ after, p c = true) ∧
      s = before ++ strip p s ++ after := by
  refine ⟨s.takeWhile p, (s.dropWhile p).rtakeWhile p, fun c hc => List.mem_takeWhile_imp hc,
    fun c hc => List.mem_rtakeWhile_imp hc, ?_⟩
  rw [List.append_assoc, strip, List.rdropWhile_append_rtakeWhile, List.takeWhile_append_dropWhile]

/-- What stripping leaves is stripped. -/
theorem strip_strip (p : Char → Bool) (s : List Char) : strip p (strip p s) = strip p s := by
  obtain ⟨before, after, hbefore, hafter, heq⟩ := exists_eq_append_strip p s
  conv_rhs => rw [heq, strip_append_right hafter, strip_append_left hbefore]

/-- Stripping leaves characters of the text. -/
theorem mem_of_mem_strip {c : Char} (h : c ∈ strip p s) : c ∈ s := by
  obtain ⟨before, after, -, -, heq⟩ := exists_eq_append_strip p s
  rw [heq]
  simp [h]

/-- Stripping makes a text no longer. -/
theorem length_strip_le (p : Char → Bool) (s : List Char) : (strip p s).length ≤ s.length := by
  obtain ⟨before, after, -, -, heq⟩ := exists_eq_append_strip p s
  have hlength := congrArg List.length heq
  simp only [List.length_append] at hlength
  omega

/-- A text is stripped exactly if its first and its last character do not satisfy `p`. -/
theorem strip_eq_self_iff : strip p s = s ↔
    (∀ c ∈ s.head?, p c = false) ∧ ∀ c ∈ s.getLast?, p c = false := by
  constructor
  · -- A character that is taken away at one end leaves too short a text.
    intro h
    refine ⟨fun c hc => ?_, fun c hc => ?_⟩
    · obtain ⟨rest, rfl⟩ := List.head?_eq_some_iff.mp hc
      by_contra hp
      have hstrip : strip p ([c] ++ rest) = strip p rest := strip_append_left (by simpa using hp)
      have hlength := length_strip_le p rest
      rw [← hstrip, List.singleton_append, h, List.length_cons] at hlength
      omega
    · obtain ⟨rest, rfl⟩ := List.getLast?_eq_some_iff.mp hc
      by_contra hp
      have hstrip : strip p (rest ++ [c]) = strip p rest := strip_append_right (by simpa using hp)
      have hlength := length_strip_le p rest
      rw [← hstrip, h, List.length_append, List.length_singleton] at hlength
      omega
  · rintro ⟨hhead, hlast⟩
    have hstart : s.dropWhile p = s := by
      cases s with
      | nil => rfl
      | cons c s => exact List.dropWhile_cons_of_neg (by simp [hhead c rfl])
    rw [strip, hstart, List.rdropWhile_eq_self_iff]
    intro hne
    simp [hlast _ (List.getLast?_eq_some_getLast hne)]

/-- Blanks before a text do not matter when it is trimmed. -/
theorem trim_append_left (h : ∀ c ∈ before, isBlank c = true) : trim (before ++ s) = trim s :=
  strip_append_left h

/-- Blanks behind a text do not matter when it is trimmed. -/
theorem trim_append_right (h : ∀ c ∈ after, isBlank c = true) : trim (s ++ after) = trim s :=
  strip_append_right h

/-- A text is trimmed exactly if it neither starts nor ends with a blank. -/
theorem trim_eq_self_iff : trim s = s ↔
    (∀ c ∈ s.head?, isBlank c = false) ∧ ∀ c ∈ s.getLast?, isBlank c = false :=
  strip_eq_self_iff

/-- A text is trimmed if what it starts with and what it ends with are. -/
theorem trim_append_append {w x : List Char} (hw : w ≠ []) (hw' : trim w = w) (hx : x ≠ [])
    (hx' : trim x = x) (middle : List Char) : trim (w ++ (middle ++ x)) = w ++ (middle ++ x) := by
  rw [trim_eq_self_iff] at hw' hx' ⊢
  rw [List.head?_append_of_ne_nil w hw, ← List.append_assoc, List.getLast?_append_of_ne_nil _ hx]
  exact ⟨hw'.1, hx'.2⟩

/-- The blanks at the end of a text that trimming its end takes away. -/
theorem exists_eq_trimEnd_append (s : List Char) :
    ∃ blanks, (∀ c ∈ blanks, isBlank c = true) ∧ s = trimEnd s ++ blanks :=
  ⟨s.rtakeWhile isBlank, fun _ hc => List.mem_rtakeWhile_imp hc,
    List.rdropWhile_append_rtakeWhile.symm⟩

/-- A text whose end has been trimmed does not end with a blank. -/
theorem getLast?_trimEnd (s : List Char) : ∀ c ∈ (trimEnd s).getLast?, isBlank c = false := by
  intro c hc
  have hne : s.rdropWhile isBlank ≠ [] := fun hnil => by
    rw [show trimEnd s = s.rdropWhile isBlank from rfl, hnil] at hc
    simp at hc
  obtain rfl : (s.rdropWhile isBlank).getLast hne = c := by
    rw [show trimEnd s = s.rdropWhile isBlank from rfl, List.getLast?_eq_some_getLast hne] at hc
    simpa using hc
  simpa using List.rdropWhile_last_not isBlank s hne

/-- Of a trimmed text and its continuation, trimming leaves the continuation without the blanks at
its end. -/
theorem trim_append_of_trimmed {w : List Char} (hne : w ≠ []) (hw : trim w = w)
    (tail : List Char) : trim (w ++ tail) = w ++ trimEnd tail := by
  obtain ⟨blanks, hblanks, htail⟩ := exists_eq_trimEnd_append tail
  have hstart : trim (w ++ trimEnd tail) = w ++ trimEnd tail := by
    rw [trim_eq_self_iff] at hw ⊢
    rw [List.head?_append_of_ne_nil w hne]
    refine ⟨hw.1, ?_⟩
    by_cases hnil : trimEnd tail = []
    · rw [hnil, List.append_nil]
      exact hw.2
    · rw [List.getLast?_append_of_ne_nil _ hnil]
      exact getLast?_trimEnd tail
  conv_lhs => rw [htail, ← List.append_assoc, trim_append_right hblanks]
  exact hstart

/-- Blanks behind a trimmed text and its continuation are blanks behind the continuation. -/
theorem exists_trim_append {w : List Char} (hne : w ≠ []) (hw : trim w = w) (tail : List Char) :
    ∃ rest, trim (w ++ tail) = w ++ rest ∧ trim rest = trim tail := by
  obtain ⟨blanks, hblanks, htail⟩ := exists_eq_trimEnd_append tail
  refine ⟨trimEnd tail, trim_append_of_trimmed hne hw tail, ?_⟩
  conv_rhs => rw [htail, trim_append_right hblanks]

/-! ## Lines -/

/-- There is always a piece. -/
theorem pieces_ne_nil (p : Char → Bool) (s : List Char) : pieces p s ≠ [] := by
  cases s with
  | nil => simp [pieces]
  | cons c s =>
    unfold pieces
    split
    · simp
    · split <;> simp

/-- A text in which nothing divides is one piece. -/
theorem pieces_of_forall (h : ∀ c ∈ s, p c = false) : pieces p s = [s] := by
  induction s with
  | nil => rfl
  | cons c s ih =>
    rw [List.forall_mem_cons] at h
    simp [pieces, ih h.2, h.1]

/-- What divides ends the first piece. -/
theorem pieces_append_cons {c : Char} (h : ∀ c ∈ before, p c = false) (hc : p c = true) :
    pieces p (before ++ c :: s) = before :: pieces p s := by
  induction before with
  | nil =>
    obtain ⟨piece, rest, heq⟩ := List.exists_cons_of_ne_nil (pieces_ne_nil p s)
    simp [pieces, heq, hc]
  | cons b before ih =>
    rw [List.forall_mem_cons] at h
    simp [pieces, ih h.2, h.1]

/-- Nothing divides a piece. -/
theorem forall_of_mem_pieces {piece : List Char} (h : piece ∈ pieces p s) :
    ∀ c ∈ piece, p c = false := by
  induction s generalizing piece with
  | nil =>
    obtain rfl := List.mem_singleton.mp h
    simp
  | cons c s ih =>
    obtain ⟨first, rest, heq⟩ := List.exists_cons_of_ne_nil (pieces_ne_nil p s)
    simp only [pieces, heq] at h ih
    -- A character at which the text is cut is in no piece.
    by_cases hc : p c = true
    · rw [if_pos hc] at h
      rcases List.mem_cons.mp h with rfl | h
      · simp
      · exact ih h
    · rw [if_neg hc] at h
      rcases List.mem_cons.mp h with rfl | h
      · rw [List.forall_mem_cons]
        exact ⟨by simpa using hc, ih List.mem_cons_self⟩
      · exact ih (List.mem_cons_of_mem _ h)

/-- A character that does not divide is in a piece. -/
theorem exists_mem_pieces {c : Char} (h : c ∈ s) (hc : p c = false) :
    ∃ piece ∈ pieces p s, c ∈ piece := by
  induction s with
  | nil => cases h
  | cons d s ih =>
    obtain ⟨first, rest, heq⟩ := List.exists_cons_of_ne_nil (pieces_ne_nil p s)
    simp only [pieces, heq] at ih ⊢
    rcases List.mem_cons.mp h with rfl | hmem
    · exact ⟨c :: first, by simp [hc], List.mem_cons_self⟩
    · obtain ⟨piece, hpiece, hmem⟩ := ih hmem
      by_cases hd : p d = true
      · exact ⟨piece, by simp [hd, List.mem_cons.mp hpiece], hmem⟩
      · -- The character before the first piece joins it.
        rcases List.mem_cons.mp hpiece with rfl | hpiece
        · exact ⟨d :: piece, by simp [hd], List.mem_cons_of_mem d hmem⟩
        · exact ⟨piece, by simp [hd, hpiece], hmem⟩

/-- A line feed ends the first line of a text. -/
theorem lines_append_lineFeed {line : List Char} (h : '\n' ∉ line) (s : List Char) :
    lines (line ++ '\n' :: s) = line :: lines s :=
  pieces_append_cons (fun c hc => by simpa using ne_of_mem_of_not_mem hc h) rfl

/-- A text without a line feed is one line. -/
theorem lines_of_not_mem {line : List Char} (h : '\n' ∉ line) : lines line = [line] :=
  pieces_of_forall fun c hc => by simpa using ne_of_mem_of_not_mem hc h

/-- There is no line feed in a line. -/
theorem lineFeed_not_mem_of_mem_lines {line : List Char} (h : line ∈ lines s) : '\n' ∉ line :=
  fun hmem => absurd (forall_of_mem_pieces h '\n' hmem) (by simp)

/-! ## The first run -/

/-- The first run of characters that satisfy `p` in a text. -/
structure IsFirstRun (p : Char → Bool) (run s : List Char) : Prop where
  /-- There is such a character. -/
  ne_nil : run ≠ []
  /-- All characters of the run are such. -/
  all : ∀ c ∈ run, p c = true
  /-- None before the run is, nor the one right behind it. -/
  stands : ∃ before after, s = before ++ run ++ after ∧ (∀ c ∈ before, p c = false) ∧
    ∀ c ∈ after.head?, p c = false

/-- Scanning finds the first run. -/
theorem isFirstRun_iff : IsFirstRun p run s ↔
    run ≠ [] ∧ (s.dropWhile (!p ·)).takeWhile p = run := by
  constructor
  · -- The scan passes what is before the run, and stops at what is behind it.
    rintro ⟨hne, hall, before, after, rfl, hbefore, hafter⟩
    refine ⟨hne, ?_⟩
    obtain ⟨c, rest, rfl⟩ := List.exists_cons_of_ne_nil hne
    have hrest : after.takeWhile p = [] := by
      cases after with
      | nil => rfl
      | cons d after => exact List.takeWhile_cons_of_neg (by simp [hafter d rfl])
    rw [List.append_assoc, List.dropWhile_append_of_pos (by simpa using hbefore), List.cons_append,
      List.dropWhile_cons_of_neg (by simp [hall c]), ← List.cons_append,
      List.takeWhile_append_of_pos hall, hrest, List.append_nil]
  · rintro ⟨hne, rfl⟩
    refine ⟨hne, fun c hc => List.mem_takeWhile_imp hc, s.takeWhile (!p ·),
      (s.dropWhile (!p ·)).dropWhile p, ?_, fun c hc => by simpa using List.mem_takeWhile_imp hc,
      ?_⟩
    · rw [List.append_assoc, List.takeWhile_append_dropWhile, List.takeWhile_append_dropWhile]
    · intro c hc
      have hnot := List.head?_dropWhile_not p (s.dropWhile (!p ·))
      rwa [Option.mem_def.mp hc] at hnot

/-- Where there is a character that satisfies `p`, there is a first run. -/
theorem exists_isFirstRun (h : ∃ c ∈ s, p c = true) : ∃ run, IsFirstRun p run s := by
  refine ⟨_, isFirstRun_iff.mpr ⟨fun hnil => ?_, rfl⟩⟩
  cases hrest : s.dropWhile (!p ·) with
  | nil =>
    obtain ⟨c, hc, hp⟩ := h
    have hnot := List.dropWhile_eq_nil_iff.mp hrest c hc
    simp [hp] at hnot
  | cons c rest =>
    have hnot := List.head?_dropWhile_not (!p ·) s
    rw [hrest] at hnil hnot
    rw [List.takeWhile_cons_of_pos (by simpa using hnot)] at hnil
    cases hnil

/-! ## Numbers -/

/-- The number that a run of ASCII digits denotes, the last digit being the units. -/
theorem numberOf_eq_ofDigits (digits : List Char) :
    numberOf digits = Nat.ofDigits 10 (digits.reverse.map digitValue) := by
  induction digits using List.reverseRecOn with
  | nil => rfl
  | append_singleton digits c ih =>
    rw [List.reverse_append, List.reverse_singleton, List.singleton_append, List.map_cons,
      Nat.ofDigits_cons, ← ih, numberOf, List.foldl_append]
    simp [numberOf, Nat.add_comm]

end BrowserFlow.Text
