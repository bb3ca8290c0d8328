import BrowserFlow.Proofs.Sentence.Form
import BrowserFlow.Text.Lowercase

/-!
# A word in any letter case

Whether a text holds a word in any letter case is decided by looking for the word in the text's
lower case. `Text.contains_toLower_iff` says that this is right for words of plain letters: for such
a letter no character but itself and its capital has it in its lower case. That is not so for `i`,
which is half of the lower case of a capital I with a dot, and for `k`, which is the lower case of
the sign of the kelvin.
-/

namespace BrowserFlow.Text

/-- A small letter whose only other form is its capital. -/
structure IsPlain (c : Char) : Prop where
  /-- It is a small letter from a to z. -/
  range : 97 ≤ c.toNat ∧ c.toNat ≤ 122
  /-- It is no i. -/
  ne_i : c ≠ 'i'
  /-- It is no k. -/
  ne_k : c ≠ 'k'

instance (c : Char) : Decidable (IsPlain c) :=
  decidable_of_iff ((97 ≤ c.toNat ∧ c.toNat ≤ 122) ∧ c ≠ 'i' ∧ c ≠ 'k')
    ⟨fun ⟨h, hi, hk⟩ => ⟨h, hi, hk⟩, fun h => ⟨h.range, h.ne_i, h.ne_k⟩⟩

/-! ## Code points -/

/-- A code point is its own small form, unless it lies in a run. -/
theorem smallCode_cases (runs : List CaseRun) (n : Nat) :
    smallCode runs n = n ∨
      ∃ run ∈ runs, run.first ≤ n ∧ n ≤ run.last ∧ (n - run.first) % run.step = 0 ∧
        smallCode runs n = (n + run.shift).toNat := by
  induction runs with
  | nil => exact .inl rfl
  | cons run rest ih =>
    unfold smallCode
    split_ifs with hfirst hrun
    · exact .inl rfl
    · rw [Bool.and_eq_true, decide_eq_true_eq, beq_iff_eq] at hrun
      exact .inr ⟨run, List.mem_cons_self, Nat.le_of_not_lt hfirst, hrun.1, hrun.2, rfl⟩
    · refine ih.imp_right ?_
      rintro ⟨run', hmem, h⟩
      exact ⟨run', List.mem_cons_of_mem _ hmem, h⟩

/-- Beyond the first run, which is that of the letters from A to Z, no capital is below the code
point 128, and no small letter but the one of the sign of the kelvin. -/
theorem beyond_of_mem_tail_caseRuns : ∀ run ∈ caseRuns.tail, 128 ≤ run.first ∧
    (128 ≤ run.first + run.shift ∨
      (run.first = 0x212A ∧ run.last = 0x212A ∧ run.shift = 0x6B - 0x212A)) := by
  decide +kernel

/-- The letters from A to Z lie in the first run, and nothing below them has a small form. -/
theorem smallCode_caseRuns (n : Nat) : smallCode caseRuns n =
    if n < 65 then n else if n ≤ 90 then n + 32 else smallCode caseRuns.tail n := by
  rw [caseRuns, smallCode]
  simp only [Nat.mod_one, beq_self_eq_true, Bool.and_true, decide_eq_true_eq, List.tail_cons]
  split_ifs <;> omega

/-- The code points that become a plain letter are that letter and its capital. -/
theorem smallCode_eq_iff {c : Char} (h : IsPlain c) (n : Nat) :
    smallCode caseRuns n = c.toNat ↔ n = c.toNat ∨ n + 32 = c.toNat := by
  obtain ⟨hlow, hhigh⟩ := h.range
  have hk : c.toNat ≠ 0x6B := fun hc => h.ne_k (Char.toNat_inj.mp hc)
  rw [smallCode_caseRuns]
  split_ifs with h65 h90
  · omega
  · omega
  · rcases smallCode_cases caseRuns.tail n with hsmall | ⟨run, hmem, hfirst, hlast, -, hsmall⟩
    · omega
    · obtain ⟨hcapital, hrun | ⟨hf, hl, hs⟩⟩ := beyond_of_mem_tail_caseRuns run hmem
      · omega
      · omega

/-! ## Characters -/

/-- The code point of a character, where a number that is no code point gives the null character. -/
theorem toNat_ofNat (n : Nat) : (Char.ofNat n).toNat = if n.isValidChar then n else 0 := by
  unfold Char.ofNat
  by_cases h : n.isValidChar
  · rw [dif_pos h, if_pos h]
    rfl
  · rw [dif_neg h, if_neg h]
    rfl

/-- The capitals from A to Z are 32 code points below their small letters. -/
theorem toNat_toLower (d : Char) : d.toLower.toNat =
    if 65 ≤ d.toNat ∧ d.toNat ≤ 90 then d.toNat + 32 else d.toNat := by
  have hcapital : (d.val ≥ 'A'.val ∧ d.val ≤ 'Z'.val) ↔ 65 ≤ d.toNat ∧ d.toNat ≤ 90 := by
    rw [ge_iff_le, UInt32.le_iff_toNat_le, UInt32.le_iff_toNat_le]
    rfl
  unfold Char.toLower
  split_ifs with h h' h'
  · have hhigh := (hcapital.mp h).2
    change (d.val + 32).toNat = d.val.toNat + 32
    rw [UInt32.toNat_add]
    change (d.toNat + 32) % 2 ^ 32 = d.toNat + 32
    omega
  · exact absurd (hcapital.mp h) h'
  · exact absurd (hcapital.mpr h') h
  · rfl

/-- The characters whose small form is a plain letter are that letter and its capital. -/
theorem ofNat_smallCode_eq_iff {c : Char} (h : IsPlain c) (d : Char) :
    Char.ofNat (smallCode caseRuns d.toNat) = c ↔ d.toLower = c := by
  obtain ⟨hlow, hhigh⟩ := h.range
  have hsmall := smallCode_eq_iff h d.toNat
  rw [← Char.toNat_inj, ← Char.toNat_inj, toNat_ofNat, toNat_toLower]
  split_ifs with hvalid hcapital hcapital
  · omega
  · omega
  all_goals
    -- the small form is no code point, so it is not that of the letter
    have hne : smallCode caseRuns d.toNat ≠ c.toNat := fun heq =>
      hvalid (heq ▸ c.valid)
    omega

/-- What a character becomes in the lower case of a text, by what is before it and behind it. -/
def smallAt (before : List Char) (d : Char) (s : List Char) : List Char :=
  if d == 'Σ' then (if meetsCased before && !meetsCased s then ['ς'] else ['σ']) else lowerChar d

/-- The lower case of a text is that of its first character before that of the others. -/
theorem lowerAfter_cons (before : List Char) (d : Char) (s : List Char) :
    lowerAfter before (d :: s) = smallAt before d s ++ lowerAfter (d :: before) s := rfl

/-- What a character becomes. -/
inductive Small (d : Char) : List Char → Prop
  /-- A sigma becomes one of two letters. -/
  | sigma {x : Char} (sigma : d = 'Σ') (small : 128 ≤ x.toNat) : Small d [x]
  /-- A capital I with a dot becomes an i and a dot. -/
  | dotted (dotted : d = 'İ') : Small d ['i', '\u0307']
  /-- Any other character becomes the one that the runs say. -/
  | single : Small d [Char.ofNat (smallCode caseRuns d.toNat)]

/-- What a character becomes at any place. -/
theorem small_smallAt (before : List Char) (d : Char) (s : List Char) :
    Small d (smallAt before d s) := by
  unfold smallAt lowerChar
  split_ifs with hsigma _ hdotted
  · exact .sigma (beq_iff_eq.mp hsigma) (by decide)
  · exact .sigma (beq_iff_eq.mp hsigma) (by decide)
  · exact .dotted (beq_iff_eq.mp hdotted)
  · exact .single

/-- Every character becomes something. -/
theorem Small.ne_nil {d : Char} {small : List Char} (h : Small d small) : small ≠ [] := by
  cases h <;> simp

/-- Only the empty text is empty in lower case. -/
theorem lower_ne_nil {s : List Char} (h : s ≠ []) : lower s ≠ [] := by
  obtain ⟨d, s, rfl⟩ := List.exists_cons_of_ne_nil h
  rw [lower, lowerAfter_cons]
  exact List.append_ne_nil_of_left_ne_nil (small_smallAt [] d s).ne_nil _

/-- A character whose letter is plain becomes that letter. -/
theorem Small.eq_of_toLower {c d : Char} {small : List Char} (h : Small d small) (hc : IsPlain c)
    (hd : d.toLower = c) : small = [c] := by
  have hrange := hc.range
  cases h with
  | sigma hsigma =>
    subst hd hsigma
    exact absurd hrange (by decide)
  | dotted hdotted =>
    subst hd hdotted
    exact absurd hrange (by decide)
  | single => rw [(ofNat_smallCode_eq_iff hc d).mpr hd]

/-- A plain letter is in the lower case of a character only if it is that character's letter. -/
theorem Small.toLower_eq_of_mem {c d : Char} {small : List Char} (h : Small d small)
    (hc : IsPlain c) (hmem : c ∈ small) : d.toLower = c := by
  have hrange := hc.range
  cases h with
  | sigma _ hsmall =>
    rw [List.mem_singleton] at hmem
    subst hmem
    omega
  | dotted =>
    rw [List.mem_pair] at hmem
    rcases hmem with rfl | rfl
    · exact absurd rfl hc.ne_i
    · exact absurd hrange (by decide)
  | single => exact (ofNat_smallCode_eq_iff hc d).mp (List.mem_singleton.mp hmem).symm

/-! ## Words -/

/-- The lower case of a text begins with a word of plain letters exactly if the text begins with
that word in some letter case. -/
theorem prefix_lowerAfter_iff {w : List Char} (hw : ∀ c ∈ w, IsPlain c) (before s : List Char) :
    w <+: lowerAfter before s ↔ ∃ word rest, s = word ++ rest ∧ word.map Char.toLower = w := by
  induction w generalizing before s with
  | nil => exact iff_of_true List.nil_prefix ⟨[], s, rfl, rfl⟩
  | cons c w ih =>
    have hc : IsPlain c := hw c List.mem_cons_self
    have ih := ih fun c hmem => hw c (List.mem_cons_of_mem _ hmem)
    cases s with
    | nil => simp [lowerAfter]
    | cons d s =>
      have hsmall := small_smallAt before d s
      rw [lowerAfter_cons]
      -- A plain character is found in a small form only if it is the whole of it.
      by_cases hd : d.toLower = c
      · rw [hsmall.eq_of_toLower hc hd, List.singleton_append, List.prefix_cons_inj, ih]
        constructor
        · rintro ⟨word, rest, rfl, rfl⟩
          exact ⟨d :: word, rest, rfl, by rw [List.map_cons, hd]⟩
        · rintro ⟨_ | ⟨d', word⟩, rest, hs, hword⟩
          · cases hword
          · obtain ⟨rfl, rfl⟩ := List.cons.inj hs
            exact ⟨word, rest, rfl, (List.cons.inj hword).2⟩
      · refine iff_of_false ?_ ?_
        · intro hprefix
          have hnotMem : c ∉ smallAt before d s := fun hmem =>
            hd (hsmall.toLower_eq_of_mem hc hmem)
          generalize smallAt before d s = small at *
          cases hsmall <;> exact hnotMem (by simp_all)
        · rintro ⟨_ | ⟨d', word⟩, rest, hs, hword⟩
          · cases hword
          · obtain ⟨rfl, -⟩ := List.cons.inj hs
            exact hd (List.cons.inj hword).1

/-- A word of plain letters does not begin within what a character becomes. -/
theorem Small.infix_append_iff {w small t : List Char} {d : Char} (h : Small d small)
    (hw : ∀ c ∈ w, IsPlain c) : w <:+: small ++ t ↔ w <+: small ++ t ∨ w <:+: t := by
  cases h with
  | sigma | single => exact List.infix_cons_iff
  | dotted =>
    have hdot : w <+: '\u0307' :: t → w <:+: t := by
      cases w with
      | nil => exact fun _ => List.nil_infix
      | cons c w =>
        intro hprefix
        have hc := (hw c List.mem_cons_self).range
        rw [(List.cons_prefix_cons.mp hprefix).1] at hc
        exact absurd hc (by decide)
    simp only [List.cons_append, List.nil_append, List.infix_cons_iff]
    tauto

/-- The lower case of a text holds a word of plain letters exactly if the text holds that word in
some letter case. -/
theorem infix_lowerAfter_iff {w : List Char} (hw : ∀ c ∈ w, IsPlain c) (before s : List Char) :
    w <:+: lowerAfter before s ↔
      ∃ front word rest, s = front ++ word ++ rest ∧ word.map Char.toLower = w := by
  -- The induction is on the text; a word begins with its first letter or further on.
  induction s generalizing before with
  | nil => simp [lowerAfter, eq_comm]
  | cons d s ih =>
    rw [lowerAfter_cons, (small_smallAt before d s).infix_append_iff hw, ← lowerAfter_cons,
      prefix_lowerAfter_iff hw, ih]
    constructor
    · rintro (⟨word, rest, hs, hword⟩ | ⟨front, word, rest, rfl, hword⟩)
      · exact ⟨[], word, rest, hs, hword⟩
      · exact ⟨d :: front, word, rest, rfl, hword⟩
    · rintro ⟨_ | ⟨d', front⟩, word, rest, hs, hword⟩
      · exact .inl ⟨word, rest, hs, hword⟩
      · obtain ⟨rfl, rfl⟩ := List.cons.inj hs
        exact .inr ⟨front, word, rest, rfl, hword⟩

/-- A text holds a word in some letter case. -/
def Mentions (text word : String) : Prop :=
  ∃ front found rest, text.toList = front ++ found ++ rest ∧ found.map Char.toLower = word.toList

/-- A word of plain letters is found in the lower case of a text exactly if the text holds it in
some letter case. -/
theorem contains_toLower_iff {word : String} (hword : ∀ c ∈ word.toList, IsPlain c)
    (text : String) : contains (toLower text) word = true ↔ Mentions text word := by
  unfold contains toLower lower Mentions
  rw [occursIn_iff, String.toList_ofList, infix_lowerAfter_iff hword]

end BrowserFlow.Text
