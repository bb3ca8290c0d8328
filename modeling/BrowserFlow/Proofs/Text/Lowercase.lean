import BrowserFlow.Proofs.Text.LetterCase
import Mathlib.Data.Bool.AllAny

/-!
# Lower case is final

Lower-casing a text once more changes nothing (`lower_lower`), since no small letter is a capital:
`caseRuns_avoided` checks that of the table, run by run. By the same table lower-casing makes no
blank. What becomes of a sigma depends on the letters around it, but not on those behind a character
that ends words, such as a hyphen; texts on both sides of it are lower-cased each by itself
(`lower_append_cons`).
-/

namespace BrowserFlow.Text

variable {before s t : List Char} {c d : Char}

/-! ## Small letters in the table -/

/-- The code point of the small letter of a capital in a run. -/
def CaseRun.small (run : CaseRun) (n : Nat) : Nat :=
  (n + run.shift).toNat

/-- Whether none of some code points is a capital: those from `first` to `last` whose distances from
`first` are multiples of `step`. Where runs overlap with them, the parity tells them apart. -/
def avoids (first last step : Nat) : List CaseRun → Bool
  | [] => true
  | run :: rest =>
    Nat.blt last run.first ||
      ((Nat.blt run.last first ||
        ((Nat.beq first last || Nat.beq (step % 2) 0) && Nat.beq (run.step % 2) 0 &&
          Nat.beq ((first + run.first) % 2) 1)) && avoids first last step rest)

/-- A code point that is no capital is its own small form. -/
theorem smallCode_of_avoids {runs : List CaseRun} {first last step n : Nat}
    (h : avoids first last step runs = true) (hfirst : first ≤ n) (hlast : n ≤ last)
    (hstep : (n - first) % step = 0) : smallCode runs n = n := by
  induction runs with
  | nil => rfl
  | cons run rest ih =>
    simp only [avoids, Bool.or_eq_true, Bool.and_eq_true, Nat.blt_eq, Nat.beq_eq] at h
    unfold smallCode
    split_ifs with hbelow hrun
    · rfl
    · exfalso
      simp only [Bool.and_eq_true, decide_eq_true_eq, beq_iff_eq] at hrun
      rcases h with h | ⟨h | ⟨⟨hsingle, heven⟩, hodd⟩, -⟩
      · omega
      · omega
      · -- Both distances are even, and so would be the distance between the beginnings.
        have hn : (n - run.first) % 2 = 0 := by
          obtain ⟨k, hk⟩ := Nat.dvd_of_mod_eq_zero hrun.2
          rw [hk, Nat.mul_mod, heven, Nat.zero_mul]
        have hm : (n - first) % 2 = 0 := by
          rcases hsingle with hsingle | hstep2
          · omega
          · obtain ⟨k, hk⟩ := Nat.dvd_of_mod_eq_zero hstep
            rw [hk, Nat.mul_mod, hstep2, Nat.zero_mul]
        omega
    · rcases h with h | ⟨-, h⟩
      · omega
      · exact ih h

/-- A code point outside all ranges of a set is not in the set. -/
theorem containsCode_eq_false {set : CharSet} {n : Nat} (h : ∀ range ∈ set, n < range.1 ∨ range.2 < n) :
    set.containsCode n = false := by
  induction set with
  | nil => rfl
  | cons range rest ih =>
    obtain ⟨first, last⟩ := range
    rw [List.forall_mem_cons] at h
    unfold CharSet.containsCode
    split_ifs with hfirst
    · rfl
    · simp only [Bool.or_eq_false_iff, decide_eq_false_iff_not]
      exact ⟨by have := h.1; omega, ih h.2⟩

/-- No small letter in the table is a capital of the table. -/
theorem caseRuns_avoided : ∀ run ∈ caseRuns, 0 ≤ run.first + run.shift ∧
    avoids (run.small run.first) (run.small run.last) run.step caseRuns = true := by
  decide +kernel

/-- No small letter in the table is a capital I with a dot, or a blank. -/
theorem caseRuns_apart : ∀ run ∈ caseRuns,
    ∀ range ∈ (0x130, 0x130) :: whiteSpace, run.small run.last < range.1 ∨
      range.2 < run.small run.first := by
  decide +kernel

/-- A code point is its own small form, or that form is a small letter: it has no other small form,
and it is neither a capital I with a dot nor a blank. -/
theorem smallCode_final (n : Nat) : smallCode caseRuns n = n ∨
    (smallCode caseRuns (smallCode caseRuns n) = smallCode caseRuns n ∧
      smallCode caseRuns n ≠ 0x130 ∧ whiteSpace.containsCode (smallCode caseRuns n) = false) := by
  rcases smallCode_cases caseRuns n with h | ⟨run, hmem, hfirst, hlast, hstep, hsmall⟩
  · exact .inl h
  · obtain ⟨hshift, havoids⟩ := caseRuns_avoided run hmem
    have hapart := caseRuns_apart run hmem
    simp only [List.forall_mem_cons] at hapart
    rw [hsmall]
    -- The small letters of a run lie where its capitals do, only shifted.
    have hbounds : run.small run.first ≤ (n + run.shift).toNat ∧
        (n + run.shift).toNat ≤ run.small run.last ∧
        (n + run.shift).toNat - run.small run.first = n - run.first := by
      unfold CaseRun.small
      omega
    obtain ⟨hlow, hhigh, hdistance⟩ := hbounds
    refine .inr ⟨smallCode_of_avoids havoids hlow hhigh (hdistance ▸ hstep), by omega, ?_⟩
    refine containsCode_eq_false fun range hrange => ?_
    rcases hapart.2 range hrange with h | h
    · exact .inl (by omega)
    · exact .inr (by omega)

/-! ## Characters -/

/-- A character that lower-casing leaves as it is, wherever it stands. -/
structure IsLow (c : Char) : Prop where
  /-- It is no capital sigma. -/
  ne_sigma : c ≠ 'Σ'
  /-- It is no capital I with a dot. -/
  ne_dotted : c ≠ 'İ'
  /-- It is its own small form. -/
  small : smallCode caseRuns c.toNat = c.toNat

instance (c : Char) : Decidable (IsLow c) :=
  decidable_of_iff (c ≠ 'Σ' ∧ c ≠ 'İ' ∧ smallCode caseRuns c.toNat = c.toNat)
    ⟨fun ⟨h, h', hsmall⟩ => ⟨h, h', hsmall⟩, fun h => ⟨h.ne_sigma, h.ne_dotted, h.small⟩⟩

/-- A character in lower case becomes itself. -/
theorem IsLow.smallAt_eq (h : IsLow c) (before s : List Char) : smallAt before c s = [c] := by
  rw [smallAt, if_neg (by simpa using h.ne_sigma), lowerChar, if_neg (by simpa using h.ne_dotted),
    h.small, Char.ofNat_toNat]

/-- A sigma has a small form of its own. -/
theorem smallCode_sigma : smallCode caseRuns 'Σ'.toNat ≠ 'Σ'.toNat := by
  decide +kernel

/-- Where a character is not one of the two irregular ones, its small form is in lower case. -/
theorem isLow_smallCode (hsigma : c ≠ 'Σ') (hdotted : c ≠ 'İ') :
    IsLow (Char.ofNat (smallCode caseRuns c.toNat)) := by
  have hnull : IsLow (Char.ofNat 0) := by decide +kernel
  rcases smallCode_final c.toNat with h | ⟨hsmall, hne, -⟩
  · rw [h, Char.ofNat_toNat]
    exact ⟨hsigma, hdotted, h⟩
  · have hcode := toNat_ofNat (smallCode caseRuns c.toNat)
    split_ifs at hcode
    · refine ⟨fun heq => smallCode_sigma ?_, fun heq => hne ?_, by rw [hcode, hsmall]⟩
      · rw [← heq, hcode, hsmall]
      · rw [← hcode, heq]
        rfl
    · rw [← Char.ofNat_toNat (Char.ofNat _), hcode]
      exact hnull

/-- What a character becomes is in lower case. -/
theorem isLow_of_mem_smallAt (h : c ∈ smallAt before d s) : IsLow c := by
  have hletters : ∀ x ∈ ['ς', 'σ', 'i', '\u0307'], IsLow x :=
    List.all_iff_forall_prop.mp (by decide +kernel)
  unfold smallAt lowerChar at h
  split_ifs at h with hsigma _ hdotted
  · exact hletters c (by simp_all)
  · exact hletters c (by simp_all)
  · exact hletters c (by simp_all)
  · obtain rfl := List.mem_singleton.mp h
    exact isLow_smallCode (by simpa using hsigma) (by simpa using hdotted)

/-- What is no blank becomes none. -/
theorem isBlank_of_mem_smallAt (hd : isBlank d = false) (h : c ∈ smallAt before d s) :
    isBlank c = false := by
  -- The letters that are chosen by their neighbours are no blanks.
  have hletters : ∀ x ∈ ['ς', 'σ', 'i', '\u0307'], isBlank x = false :=
    List.all_iff_forall_prop.mp (by decide)
  unfold smallAt lowerChar at h
  split_ifs at h with hsigma _ hdotted
  · exact hletters c (by simp_all)
  · exact hletters c (by simp_all)
  · exact hletters c (by simp_all)
  · obtain rfl := List.mem_singleton.mp h
    rcases smallCode_final d.toNat with hsame | ⟨-, -, hspace⟩
    · rwa [hsame, Char.ofNat_toNat]
    · have hcode := toNat_ofNat (smallCode caseRuns d.toNat)
      split_ifs at hcode
      · rwa [isBlank, CharSet.contains, hcode]
      · rw [← Char.ofNat_toNat (Char.ofNat _), hcode]
        decide

/-! ## Texts -/

/-- The lower case of a text is in lower case. -/
theorem isLow_of_mem_lowerAfter (h : c ∈ lowerAfter before s) : IsLow c := by
  induction s generalizing before with
  | nil => cases h
  | cons d s ih =>
    rw [lowerAfter_cons, List.mem_append] at h
    exact h.elim isLow_of_mem_smallAt ih

/-- A text without blanks has none in lower case. -/
theorem isBlank_of_mem_lowerAfter (hs : ∀ d ∈ s, isBlank d = false) (h : c ∈ lowerAfter before s) :
    isBlank c = false := by
  induction s generalizing before with
  | nil => cases h
  | cons d s ih =>
    rw [List.forall_mem_cons] at hs
    rw [lowerAfter_cons, List.mem_append] at h
    exact h.elim (isBlank_of_mem_smallAt hs.1) (ih hs.2)

/-- A text in lower case stays as it is. -/
theorem lowerAfter_eq_self (h : ∀ c ∈ s, IsLow c) (before : List Char) :
    lowerAfter before s = s := by
  induction s generalizing before with
  | nil => rfl
  | cons d s ih =>
    rw [List.forall_mem_cons] at h
    rw [lowerAfter_cons, h.1.smallAt_eq, ih h.2, List.singleton_append]

/-- Lower-casing a text once more changes nothing. -/
theorem lower_lower (s : List Char) : lower (lower s) = lower s :=
  lowerAfter_eq_self (fun _ hc => isLow_of_mem_lowerAfter hc) []

/-! ## Word by word -/

/-- A character that ends words: it is neither passed over in the search for a letter nor one. -/
structure EndsWords (c : Char) : Prop where
  /-- It is not passed over. -/
  not_ignorable : caseIgnorable.contains c = false
  /-- It is no letter. -/
  not_cased : cased.contains c = false

/-- The search for a letter does not go beyond the end of a word. -/
theorem EndsWords.meetsCased_append (h : EndsWords c) (s t : List Char) :
    meetsCased (s ++ c :: t) = meetsCased s := by
  induction s with
  | nil =>
    rw [List.nil_append, meetsCased, List.dropWhile_cons_of_neg (by simp [h.not_ignorable])]
    exact h.not_cased
  | cons d s ih =>
    by_cases hd : caseIgnorable.contains d = true
    · unfold meetsCased at ih ⊢
      rw [List.cons_append, List.dropWhile_cons_of_pos hd, List.dropWhile_cons_of_pos hd, ih]
    · unfold meetsCased
      rw [List.cons_append, List.dropWhile_cons_of_neg hd, List.dropWhile_cons_of_neg hd]

/-- What is behind the end of a word does not matter in it. -/
theorem EndsWords.lowerAfter_append (h : EndsWords c) (before s t : List Char) :
    lowerAfter before (s ++ c :: t) =
      lowerAfter before s ++ lowerAfter (s.reverse ++ before) (c :: t) := by
  induction s generalizing before with
  | nil => rfl
  | cons d s ih =>
    have hsmall : smallAt before d (s ++ c :: t) = smallAt before d s := by
      rw [smallAt, smallAt, h.meetsCased_append]
    rw [List.cons_append, lowerAfter_cons, lowerAfter_cons, hsmall, ih, List.append_assoc,
      List.reverse_cons, List.append_assoc, List.singleton_append]

/-- What is before the end of a word does not matter behind it. -/
theorem EndsWords.lowerAfter_of_before (h : EndsWords c) (near far s : List Char) :
    lowerAfter (near ++ c :: far) s = lowerAfter near s := by
  induction s generalizing near with
  | nil => rfl
  | cons d s ih =>
    have hsmall : smallAt (near ++ c :: far) d s = smallAt near d s := by
      rw [smallAt, smallAt, h.meetsCased_append]
    rw [lowerAfter_cons, lowerAfter_cons, hsmall, ← List.cons_append, ih]

/-- The texts on both sides of the end of a word are lower-cased each by itself. -/
theorem EndsWords.lower_append_cons (h : EndsWords c) (hlow : IsLow c) (s t : List Char) :
    lower (s ++ c :: t) = lower s ++ c :: lower t := by
  have hbehind : lowerAfter (c :: (s.reverse ++ [])) t = lowerAfter [] t :=
    h.lowerAfter_of_before [] _ t
  rw [lower, h.lowerAfter_append, lowerAfter_cons, hlow.smallAt_eq, hbehind]
  rfl

/-- Words joined by what ends words are lower-cased each by itself. -/
theorem EndsWords.lower_intercalate (h : EndsWords c) (hlow : IsLow c) (ws : List (List Char)) :
    lower ([c].intercalate ws) = [c].intercalate (ws.map lower) := by
  induction ws with
  | nil => rfl
  | cons w ws ih =>
    cases ws with
    | nil => simp
    | cons w' ws =>
      rw [List.intercalate_cons_cons, List.append_assoc, List.singleton_append,
        h.lower_append_cons hlow, ih]
      simp only [List.map_cons, List.intercalate_cons_cons, List.append_assoc,
        List.singleton_append]

end BrowserFlow.Text
