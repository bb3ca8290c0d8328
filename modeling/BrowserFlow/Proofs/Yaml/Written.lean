import BrowserFlow.Proofs.Json.Scalar
import BrowserFlow.Proofs.Yaml.Quoted
import BrowserFlow.Yaml.Layout
import Mathlib.Data.Bool.AllAny
import Mathlib.Data.List.Chain

/-!
# Strings as JSON writes them

JSON writes a string character by character (`Written`), and escapes only quotes, backslashes and the
controls below the space. What YAML makes of it depends on the string alone. Folding changes it where
it has a next line character, or a space beside one of the two separators that end lines
(`Written.folded_eq_iff`). A line is taken for a mark between documents if it begins like one behind a
separator (`Written.marked_iff`). And YAML has to allow the characters (`isAllowed_stringText_iff`).
`IsKept` is what is left: the strings that YAML reads as they are.
-/

namespace BrowserFlow

open Text JsonText JsonSource

namespace JsonSource

/-! ## Characters -/

/-- An element of a string is what is written for a character. -/
structure Piece.Writes (p : Piece) (c : Char) : Prop where
  /-- It is written so. -/
  chars : p.chars = Json.stringChar c
  /-- It stands for the character. -/
  char : p.char = c
  /-- It is no half of a surrogate pair. -/
  whole : p.Whole
  /-- It is a gap, if the character is one and not escaped. -/
  isGap : p.isGap = (decide (32 ≤ c.toNat) && Yaml.isVoid c)
  /-- It ends a line, if the character does and is not escaped. -/
  isBreak : p.isBreak = (decide (32 ≤ c.toNat) && Yaml.isBreak c)

/-- The characters of a string are written as its elements. -/
abbrev Written (pieces : List Piece) (s : List Char) : Prop :=
  List.Forall₂ Piece.Writes pieces s

/-- A character is written as an element. -/
theorem exists_writes (c : Char) : ∃ p : Piece, p.Writes c := by
  -- A character is written as a letter, as a code or as itself, and only as itself can it be a gap.
  rcases stringChar_cases c with ⟨e, -, he, hc⟩ | ⟨hlt, hc⟩ | ⟨hquote, hbackslash, hge, hc⟩
  · have hvoid : (decide (32 ≤ c.toNat) && Yaml.isVoid c) = false ∧
        (decide (32 ≤ c.toNat) && Yaml.isBreak c) = false := by
      unfold escapeChar? at he
      split_ifs at he with hself
      · cases he
        simp only [Bool.or_eq_true, beq_iff_eq] at hself
        obtain (rfl | rfl) | rfl := hself <;> decide
      all_goals
        cases he
        decide
    exact ⟨.letter e c he, hc.symm, rfl, trivial, hvoid.1.symm, hvoid.2.symm⟩
  · have hcontrol : decide (32 ≤ c.toNat) = false := by simpa using hlt
    refine ⟨.code '0' '0' _ _ c.toNat (hexCode?_hexDigit (by omega)), hc.symm, c.ofNat_toNat, ?_,
      ?_, ?_⟩
    · exact fun h => by omega
    · rw [hcontrol]
      rfl
    · rw [hcontrol]
      rfl
  · have hplain : decide (32 ≤ c.toNat) = true := by simpa using hge
    refine ⟨.raw c ⟨hquote, hbackslash, hge⟩, hc.symm, rfl, trivial, ?_, ?_⟩
    · rw [hplain]
      rfl
    · rw [hplain]
      rfl

/-- A string is written as elements. -/
theorem exists_written (s : List Char) : ∃ pieces, Written pieces s := by
  induction s with
  | nil => exact ⟨[], .nil⟩
  | cons c s ih =>
    obtain ⟨p, hp⟩ := exists_writes c
    obtain ⟨pieces, hpieces⟩ := ih
    exact ⟨p :: pieces, .cons hp hpieces⟩

namespace Written

variable {pieces : List Piece} {s : List Char}

theorem chars_eq (h : Written pieces s) :
    pieces.flatMap Piece.chars = s.flatMap Json.stringChar := by
  induction h with
  | nil => rfl
  | cons hp _ ih => rw [List.flatMap_cons, List.flatMap_cons, hp.chars, ih]

theorem map_char (h : Written pieces s) : pieces.map Piece.char = s := by
  induction h with
  | nil => rfl
  | cons hp _ ih => rw [List.map_cons, hp.char, ih]

theorem whole (h : Written pieces s) : ∀ p ∈ pieces, p.Whole := by
  induction h with
  | nil => simp
  | cons hp _ ih => exact List.forall_mem_cons.mpr ⟨hp.whole, ih⟩

end Written

/-! ## Gaps -/

/-- Whether a character separates lines or paragraphs. -/
def isSeparator (c : Char) : Bool :=
  c.toNat == 0x2028 || c.toNat == 0x2029

/-- Two characters are no space next to a separator. -/
def IsApart (a b : Char) : Prop :=
  ¬ (a = ' ' ∧ isSeparator b = true) ∧ ¬ (isSeparator a = true ∧ b = ' ')

/-- A text that folding does not change: it has no next line character, and no space next to a
separator. -/
structure IsUnfolded (s : List Char) : Prop where
  /-- There is no next line character. -/
  nextLine : ∀ c ∈ s, c.toNat ≠ 0x85
  /-- There is no space next to a separator. -/
  isApart : s.IsChain IsApart

/-- Whether a character is a space or the end of a line where JSON does not escape it. -/
def isOpen (c : Char) : Bool :=
  decide (32 ≤ c.toNat) && Yaml.isVoid c

variable {g s : List Char} {pieces : List Piece}

theorem isOpen_iff {c : Char} :
    isOpen c = true ↔ c = ' ' ∨ c.toNat = 0x85 ∨ isSeparator c = true := by
  have hspace : c = ' ' ↔ c.toNat = 32 := by
    constructor
    · rintro rfl
      rfl
    · intro h
      rw [← c.ofNat_toNat, h]
  constructor
  · intro h
    simp only [isOpen, Yaml.isVoid, Yaml.isSpacing, Yaml.isBreak, Bool.and_eq_true,
      Bool.or_eq_true, beq_iff_eq, decide_eq_true_eq] at h
    obtain ⟨hge, (h | rfl) | (((rfl | rfl) | h) | h) | h⟩ := h
    · exact .inl h
    · -- Tabs and the usual ends of lines are escaped.
      exact absurd hge (by decide)
    · exact absurd hge (by decide)
    · exact absurd hge (by decide)
    · exact .inr (.inl h)
    · exact .inr (.inr (by simp [isSeparator, h]))
    · exact .inr (.inr (by simp [isSeparator, h]))
  · rintro (rfl | h | h)
    · decide
    · simp [isOpen, Yaml.isVoid, Yaml.isBreak, h]
    · simp only [isSeparator, Bool.or_eq_true, beq_iff_eq] at h
      obtain h | h := h <;> simp [isOpen, Yaml.isVoid, Yaml.isBreak, h]

/-- What gathers in a gap. -/
theorem foldl_add_eq (g : List Char) : g.foldl Yaml.Gap.add {} =
    match (g.filter Yaml.isBreak).map Yaml.breakText with
    | [] => { spaces := g }
    | first :: others => { isBroken := true, first := [first], others } := by
  induction g using List.reverseRecOn with
  | nil => rfl
  | append_singleton g c ih =>
    rw [List.foldl_append, ih, List.filter_append, List.map_append]
    cases hbreak : Yaml.isBreak c <;>
      cases (g.filter Yaml.isBreak).map Yaml.breakText <;> simp [Yaml.Gap.add, hbreak]

/-- Folding makes a gap no longer. -/
theorem length_folded_gap_le (g : List Char) :
    (g.foldl Yaml.Gap.add {}).folded.length ≤ g.length := by
  have hle : ((g.filter Yaml.isBreak).map Yaml.breakText).length ≤ g.length := by
    rw [List.length_map]
    exact List.length_filter_le _ g
  rw [foldl_add_eq]
  cases hbreaks : (g.filter Yaml.isBreak).map Yaml.breakText with
  | nil => exact Nat.le_refl _
  | cons first others =>
    rw [hbreaks, List.length_cons] at hle
    simp only [Yaml.Gap.folded]
    split_ifs <;> simp <;> omega

/-- A separator ends a line and stays in the text. -/
theorem isBreak_of_isSeparator {c : Char} (h : isSeparator c = true) :
    Yaml.isBreak c = true ∧ Yaml.breakText c = c ∧ c ≠ ' ' := by
  have hne : c ≠ ' ' := by rintro rfl; exact absurd h (by decide)
  refine ⟨?_, if_pos h, hne⟩
  simp only [isSeparator, Bool.or_eq_true, beq_iff_eq] at h
  obtain h | h := h <;> simp [Yaml.isBreak, h]

/-- What is open and ends no line is a space. -/
theorem eq_space_of_isOpen {c : Char} (hopen : isOpen c = true) (hbreak : Yaml.isBreak c = false) :
    c = ' ' := by
  obtain h | h | h := isOpen_iff.mp hopen
  · exact h
  · simp [Yaml.isBreak, h] at hbreak
  · exact absurd (isBreak_of_isSeparator h).1 (ne_true_of_eq_false hbreak)

/-- What is open and stands for the end of a line is a separator. -/
theorem isSeparator_of_isOpen_breakText {c : Char} (hopen : isOpen (Yaml.breakText c) = true) :
    isSeparator (Yaml.breakText c) = true := by
  by_cases hc : isSeparator c = true
  · rwa [(isBreak_of_isSeparator hc).2.1]
  · rw [show Yaml.breakText c = '\n' from if_neg hc] at hopen
    exact absurd hopen (by decide)

/-- Folding leaves spaces as they are. -/
theorem folded_gap_spaces (h : ∀ x ∈ g, x = ' ') : (g.foldl Yaml.Gap.add {}).folded = g := by
  have hnone : g.filter Yaml.isBreak = [] :=
    List.filter_eq_nil_iff.mpr fun x hx => by rw [h x hx]; decide
  rw [foldl_add_eq, hnone]
  rfl

/-- Folding leaves separators as they are. -/
theorem folded_gap_separators (h : ∀ x ∈ g, isSeparator x = true) :
    (g.foldl Yaml.Gap.add {}).folded = g := by
  have hall : (g.filter Yaml.isBreak).map Yaml.breakText = g := by
    rw [List.filter_eq_self.mpr fun x hx => (isBreak_of_isSeparator (h x hx)).1]
    exact (List.map_congr_left fun x hx =>
      (isBreak_of_isSeparator (h x hx)).2.1).trans (List.map_id' g)
  rw [foldl_add_eq, hall]
  cases g with
  | nil => rfl
  | cons x g =>
    have hne : x ≠ '\n' := by
      rintro rfl
      exact absurd (h _ List.mem_cons_self) (by decide)
    simp [Yaml.Gap.folded, hne]

/-- Folding leaves a gap as it is if it consists of spaces or of separators. -/
theorem folded_gap_eq_self_iff (hopen : ∀ x ∈ g, isOpen x = true) :
    (g.foldl Yaml.Gap.add {}).folded = g ↔
      (∀ x ∈ g, x = ' ') ∨ ∀ x ∈ g, isSeparator x = true := by
  refine ⟨fun hfolded => ?_, fun h => h.elim folded_gap_spaces folded_gap_separators⟩
  rw [foldl_add_eq] at hfolded
  cases hbreaks : (g.filter Yaml.isBreak).map Yaml.breakText with
  | nil =>
    rw [List.map_eq_nil_iff, List.filter_eq_nil_iff] at hbreaks
    exact .inl fun x hx => eq_space_of_isOpen (hopen x hx) (Bool.eq_false_iff.mpr (hbreaks x hx))
  | cons first others =>
    have hlength : others.length < g.length := by
      have hle := List.length_filter_le Yaml.isBreak g
      rw [← List.length_map (f := Yaml.breakText), hbreaks, List.length_cons] at hle
      exact hle
    simp only [hbreaks, Yaml.Gap.folded, Bool.not_true, Bool.false_eq_true, if_false] at hfolded
    -- The gap is a space, all ends of lines but the first, or all of them.
    split_ifs at hfolded with hfirst hothers
    · exact .inl fun x hx => by simpa [← hfolded] using hx
    · rw [hfolded] at hlength
      exact absurd hlength (Nat.lt_irrefl _)
    · refine .inr fun x hx => ?_
      have hmem : x ∈ (g.filter Yaml.isBreak).map Yaml.breakText := by
        rw [hbreaks, ← List.singleton_append, hfolded]
        exact hx
      obtain ⟨y, -, rfl⟩ := List.mem_map.mp hmem
      exact isSeparator_of_isOpen_breakText (hopen _ hx)

/-- A gap without spaces next to separators consists of the ones or of the others. -/
theorem forall_or_forall (hall : ∀ x ∈ g, x = ' ' ∨ isSeparator x = true)
    (happart : g.IsChain IsApart) : (∀ x ∈ g, x = ' ') ∨ ∀ x ∈ g, isSeparator x = true := by
  induction g with
  | nil => exact .inl nofun
  | cons a g ih =>
    rw [List.forall_mem_cons] at hall
    simp only [List.forall_mem_cons]
    -- Two neighbours are of one kind, and so all are.
    cases g with
    | nil => exact hall.1.imp (fun ha => ⟨ha, nofun⟩) (fun ha => ⟨ha, nofun⟩)
    | cons b g =>
      rw [List.isChain_cons_cons] at happart
      obtain ⟨⟨hspace, hseparator⟩, happart⟩ := happart
      obtain hspaces | hseparators := ih hall.2 happart
      · have hb := hspaces b List.mem_cons_self
        exact .inl ⟨hall.1.resolve_right fun ha => hseparator ⟨ha, hb⟩, hspaces⟩
      · have hb := hseparators b List.mem_cons_self
        exact .inr ⟨hall.1.resolve_left fun ha => hspace ⟨ha, hb⟩, hseparators⟩

/-- A gap that folding does not change consists of spaces or of separators. -/
theorem isUnfolded_gap_iff (hopen : ∀ x ∈ g, isOpen x = true) :
    IsUnfolded g ↔ (∀ x ∈ g, x = ' ') ∨ ∀ x ∈ g, isSeparator x = true := by
  constructor
  · rintro ⟨hnext, happart⟩
    refine forall_or_forall (fun x hx => ?_) happart
    exact (isOpen_iff.mp (hopen x hx)).imp_right fun h => h.resolve_left (hnext x hx)
  · rintro (hspaces | hseparators)
    · refine ⟨fun x hx => by rw [hspaces x hx]; decide, List.Pairwise.isChain ?_⟩
      refine List.pairwise_of_forall_mem_list fun a ha b hb => ?_
      rw [hspaces a ha, hspaces b hb]
      exact ⟨by decide, by decide⟩
    · have hne (x : Char) (hx : x ∈ g) := (isBreak_of_isSeparator (hseparators x hx)).2.2
      refine ⟨fun x hx h => ?_, List.Pairwise.isChain ?_⟩
      · have hx' := hseparators x hx
        simp [isSeparator, h] at hx'
      · exact List.pairwise_of_forall_mem_list fun a ha b hb =>
          ⟨fun h => hne a ha h.1, fun h => hne b hb h.2⟩

/-- A character that is neither a space nor the end of a line separates what folding changes. -/
theorem isUnfolded_append_cons_iff {c : Char} (hc : isOpen c = false) :
    IsUnfolded (g ++ c :: s) ↔ IsUnfolded g ∧ IsUnfolded s := by
  have hclosed : c ≠ ' ' ∧ c.toNat ≠ 0x85 ∧ isSeparator c = false := by
    have hno := mt isOpen_iff.mpr (ne_true_of_eq_false hc)
    simpa only [not_or, Bool.not_eq_true] using hno
  -- Such a character may stand next to anything.
  have hbefore (a : Char) : IsApart a c :=
    ⟨fun h => by simp [hclosed.2.2] at h, fun h => hclosed.1 h.2⟩
  have hbehind (b : Char) : IsApart c b :=
    ⟨fun h => hclosed.1 h.1, fun h => by simp [hclosed.2.2] at h⟩
  constructor
  · rintro ⟨hnext, happart⟩
    rw [List.forall_mem_append, List.forall_mem_cons] at hnext
    rw [List.isChain_append, List.isChain_cons] at happart
    exact ⟨⟨hnext.1, happart.1⟩, ⟨hnext.2.2, happart.2.1.2⟩⟩
  · rintro ⟨⟨hnext, happart⟩, ⟨hnext', happart'⟩⟩
    refine ⟨List.forall_mem_append.mpr ⟨hnext, List.forall_mem_cons.mpr ⟨hclosed.2.1, hnext'⟩⟩, ?_⟩
    rw [List.isChain_append, List.isChain_cons]
    exact ⟨happart, ⟨fun b _ => hbehind b, happart'⟩, fun a _ b hb => by
      obtain rfl : c = b := by simpa using hb
      exact hbefore a⟩

/-- Folding makes a string no longer. -/
theorem length_foldedAfter_le (g : List Char) (pieces : List Piece) :
    (foldedAfter (g.foldl Yaml.Gap.add {}) pieces).length ≤ g.length + pieces.length := by
  induction pieces generalizing g with
  | nil => exact length_folded_gap_le g
  | cons p pieces ih =>
    rw [foldedAfter]
    -- An element of a gap is added to it, and any other ends it.
    split_ifs with hgap
    · have hle := ih (g ++ [p.char])
      rw [List.foldl_append, List.length_append, List.length_singleton] at hle
      rw [List.length_cons]
      exact Nat.le_trans hle (by omega)
    · have hle := ih []
      have hle' := length_folded_gap_le g
      rw [List.length_append, List.length_cons, List.length_cons]
      simp only [List.foldl_nil, List.length_nil] at hle
      omega

/-- A string is folded to itself if folding does not change its text. -/
theorem Written.foldedAfter_eq_iff (h : Written pieces s) (hopen : ∀ x ∈ g, isOpen x = true) :
    foldedAfter (g.foldl Yaml.Gap.add {}) pieces = g ++ s ↔ IsUnfolded (g ++ s) := by
  induction h generalizing g with
  | nil =>
    rw [foldedAfter, List.append_nil, folded_gap_eq_self_iff hopen, isUnfolded_gap_iff hopen]
  | @cons p c pieces s hp h ih =>
    rw [foldedAfter, hp.isGap, hp.char]
    cases hc : isOpen c with
    | true =>
      have hopen' : ∀ x ∈ g ++ [c], isOpen x = true :=
        List.forall_mem_append.mpr ⟨hopen, List.forall_mem_singleton.mpr hc⟩
      have hrest := ih hopen'
      rw [List.foldl_append, List.append_assoc] at hrest
      rw [show (decide (32 ≤ c.toNat) && Yaml.isVoid c) = true from hc, if_pos rfl]
      exact hrest
    | false =>
      -- Neither part becomes longer, so that both stay as they are if the whole does.
      have hgap := length_folded_gap_le g
      have hlater := length_foldedAfter_le [] pieces
      rw [h.length_eq, List.length_nil, Nat.zero_add] at hlater
      have hparts : (g.foldl Yaml.Gap.add {}).folded ++ c :: foldedAfter {} pieces = g ++ c :: s ↔
          (g.foldl Yaml.Gap.add {}).folded = g ∧ foldedAfter {} pieces = s := by
        constructor
        · intro heq
          have hlength := congrArg List.length heq
          simp only [List.length_append, List.length_cons] at hlength
          simp only [List.foldl_nil] at hlater
          obtain ⟨hg, hs⟩ := List.append_inj heq (by omega)
          exact ⟨hg, (List.cons.inj hs).2⟩
        · rintro ⟨hg, hs⟩
          rw [hg, hs]
      rw [show (decide (32 ≤ c.toNat) && Yaml.isVoid c) = false from hc,
        if_neg Bool.false_ne_true, isUnfolded_append_cons_iff hc, hparts,
        (folded_gap_eq_self_iff hopen).trans (isUnfolded_gap_iff hopen).symm]
      exact and_congr_right fun _ => ih (List.forall_mem_nil _)

/-- YAML keeps what JSON writes for a text if folding does not change the text. -/
theorem Written.folded_eq_iff (h : Written pieces s) : folded pieces = s ↔ IsUnfolded s :=
  h.foldedAfter_eq_iff (List.forall_mem_nil _)

/-! ## Marks -/

/-- A line begins like a mark between documents. -/
def BeginsMark (line : List Char) : Prop :=
  ∃ mark ∈ ["---", "..."], ∃ y rest, line = mark.toList ++ y :: rest ∧ isOpen y = true

/-- What is neither a space nor the end of a line is not written as such. -/
theorem Written.isVoid_head?_iff (h : Written pieces s) :
    (pieces.flatMap Piece.chars ++ ['"']).head?.all Yaml.isVoid = true ↔
      ∃ y rest, s = y :: rest ∧ isOpen y = true := by
  cases h with
  | nil => simp [show Yaml.isVoid '"' = false from rfl]
  | @cons p c pieces s hp _ =>
    have hgap :
        (p.chars ++ (pieces.flatMap Piece.chars ++ ['"'])).head?.all Yaml.isVoid = p.isGap := by
      cases p with
      | raw x plain => rfl
      | letter => rfl
      | code => rfl
    rw [List.flatMap_cons, List.append_assoc, hgap, hp.isGap]
    constructor
    · exact fun hc => ⟨c, s, rfl, hc⟩
    · rintro ⟨y, rest, heq, hy⟩
      cases heq
      exact hy

/-- Characters that need no escape are written as themselves. -/
theorem Written.exists_of_append {w t : List Char} (hw : ∀ c ∈ w, c ≠ '\\' ∧ c ≠ '"')
    (h : Written pieces s) (heq : pieces.flatMap Piece.chars ++ ['"'] = w ++ t) :
    ∃ pieces' s', s = w ++ s' ∧ Written pieces' s' ∧ pieces'.flatMap Piece.chars ++ ['"'] = t := by
  induction w generalizing pieces s with
  | nil => exact ⟨pieces, s, rfl, h, heq⟩
  | cons a w ih =>
    rw [List.forall_mem_cons] at hw
    cases h with
    | nil => exact absurd (List.cons.inj heq).1.symm hw.1.2
    | @cons p c pieces s hp h =>
      cases p with
      -- Of the ways to write a character, the escapes begin with a backslash.
      | raw x plain =>
        rw [List.flatMap_cons, List.append_assoc] at heq
        obtain ⟨rfl, hrest⟩ := List.cons.inj heq
        obtain rfl : x = c := hp.char
        obtain ⟨pieces', s', rfl, h', ht⟩ := ih hw.2 h hrest
        exact ⟨pieces', s', rfl, h', ht⟩
      | letter => exact absurd (List.cons.inj heq).1.symm hw.1.1
      | code => exact absurd (List.cons.inj heq).1.symm hw.1.1

/-- A mark is one of two beginnings, with a space or the end of a line behind it. -/
theorem isMark_iff {line : List Char} : isMark line = true ↔
    ∃ mark ∈ ["---", "..."], ∃ t, line = mark.toList ++ t ∧ t.head?.all Yaml.isVoid = true := by
  have hthird (mark t : List Char) (h : mark.length = 3) : (mark ++ t)[3]? = t.head? := by
    rw [List.getElem?_append_right (by omega), h, List.head?_eq_getElem?]
  simp only [isMark, Bool.and_eq_true, Bool.or_eq_true, Option.isSome_iff_exists,
    after?_eq_some_iff, List.mem_cons, List.not_mem_nil, or_false, exists_eq_or_imp, exists_eq_left]
  constructor
  · rintro ⟨hvoid, ⟨t, rfl⟩ | ⟨t, rfl⟩⟩
    · exact .inl ⟨t, rfl, by rwa [hthird _ _ rfl] at hvoid⟩
    · exact .inr ⟨t, rfl, by rwa [hthird _ _ rfl] at hvoid⟩
  · rintro (⟨t, rfl, hvoid⟩ | ⟨t, rfl, hvoid⟩)
    · exact ⟨by rwa [hthird _ _ rfl], .inl ⟨t, rfl⟩⟩
    · exact ⟨by rwa [hthird _ _ rfl], .inr ⟨t, rfl⟩⟩

/-- A line is a mark if its text begins like one. -/
theorem Written.isMark_iff (h : Written pieces s) :
    isMark (pieces.flatMap Piece.chars ++ ['"']) = true ↔ BeginsMark s := by
  -- The characters of a mark are written as themselves.
  have hplain : ∀ mark ∈ ["---", "..."], (∀ c ∈ mark.toList, c ≠ '\\' ∧ c ≠ '"') ∧
      mark.toList.flatMap Json.stringChar = mark.toList := by
    simp only [← List.all_iff_forall_prop]
    decide
  rw [JsonSource.isMark_iff]
  constructor
  · rintro ⟨mark, hmem, t, ht, hvoid⟩
    obtain ⟨pieces', s', rfl, h', rfl⟩ := h.exists_of_append (hplain mark hmem).1 ht
    obtain ⟨y, rest, rfl, hy⟩ := h'.isVoid_head?_iff.mp hvoid
    exact ⟨mark, hmem, y, rest, rfl, hy⟩
  · rintro ⟨mark, hmem, y, rest, rfl, hy⟩
    obtain ⟨pieces', h'⟩ := exists_written (y :: rest)
    refine ⟨mark, hmem, pieces'.flatMap Piece.chars ++ ['"'], ?_,
      h'.isVoid_head?_iff.mpr ⟨y, rest, rfl, hy⟩⟩
    rw [h.chars_eq, List.flatMap_append, (hplain mark hmem).2, h'.chars_eq, List.append_assoc]

/-- A string has a line that is a mark if its text has one. -/
theorem Written.marked_iff {fresh : Bool} (h : Written pieces s) : marked fresh pieces = true ↔
    (fresh = true ∧ BeginsMark s) ∨ ∃ x line, x :: line <:+ s ∧
      (decide (32 ≤ x.toNat) && Yaml.isBreak x) = true ∧ BeginsMark line := by
  -- The induction is on the elements; behind the end of a line another one begins.
  induction h generalizing fresh with
  | nil =>
    have hnot : ¬ BeginsMark [] := by
      rintro ⟨mark, _, y, rest, heq, -⟩
      simp at heq
    simp [marked, hnot]
  | @cons p c pieces s hp h ih =>
    have hmark := Written.isMark_iff (.cons hp h)
    rw [marked, Bool.or_eq_true, Bool.and_eq_true, hmark, ih, hp.isBreak]
    simp only [List.suffix_cons_iff, List.cons.injEq]
    constructor
    · rintro (hfresh | ⟨hbreak, hline⟩ | ⟨x, line, hsuffix, hx⟩)
      · exact .inl hfresh
      · exact .inr ⟨c, s, .inl ⟨rfl, rfl⟩, hbreak, hline⟩
      · exact .inr ⟨x, line, .inr hsuffix, hx⟩
    · rintro (hfresh | ⟨x, line, ⟨rfl, rfl⟩ | hsuffix, hx⟩)
      · exact .inl hfresh
      · exact .inr (.inl hx)
      · exact .inr (.inr ⟨x, line, hsuffix, hx⟩)

/-- A text that YAML reads back from what JSON writes for it. -/
structure IsKept (s : List Char) : Prop extends IsUnfolded s where
  /-- YAML allows the characters that JSON does not escape. -/
  allowed : ∀ c ∈ s, 32 ≤ c.toNat → Yaml.isAllowed c = true
  /-- No line behind a separator begins like a mark between documents. -/
  unmarked : ∀ x line, x :: line <:+ s → isSeparator x = true → ¬ BeginsMark line

/-- A text without next line characters is written without marks if no line behind a separator
begins like one. -/
theorem Written.marked_eq_false_iff (h : Written pieces s) (hnext : ∀ c ∈ s, c.toNat ≠ 0x85) :
    marked false pieces = false ↔
      ∀ x line, x :: line <:+ s → isSeparator x = true → ¬ BeginsMark line := by
  -- What ends a line in the text is a separator, since the other ends of lines are escaped or
  -- excluded.
  have hbreak {x : Char} {line : List Char} (hsuffix : x :: line <:+ s) :
      (decide (32 ≤ x.toNat) && Yaml.isBreak x) = true ↔ isSeparator x = true := by
    have hx := hnext x (hsuffix.subset List.mem_cons_self)
    constructor
    · intro hopen
      rw [Bool.and_eq_true] at hopen
      have hvoid : isOpen x = true := by simp [isOpen, Yaml.isVoid, hopen]
      obtain rfl | h | h := isOpen_iff.mp hvoid
      · exact absurd hopen.2 (by decide)
      · exact absurd h hx
      · exact h
    · intro h
      obtain ⟨hbreak, -, -⟩ := isBreak_of_isSeparator h
      have hge : 32 ≤ x.toNat := by
        simp only [isSeparator, Bool.or_eq_true, beq_iff_eq] at h
        omega
      simp [hge, hbreak]
  rw [← Bool.not_eq_true, h.marked_iff]
  constructor
  · intro hno x line hsuffix hx hmark
    exact hno (.inr ⟨x, line, hsuffix, (hbreak hsuffix).mpr hx, hmark⟩)
  · rintro hno (⟨hfresh, -⟩ | ⟨x, line, hsuffix, hx, hmark⟩)
    · exact Bool.false_ne_true hfresh
    · exact hno x line hsuffix ((hbreak hsuffix).mp hx) hmark

/-- YAML allows what is written for a character if the character is escaped or allowed itself. -/
theorem isAllowed_stringChar_iff {c : Char} :
    (∀ x ∈ Json.stringChar c, Yaml.isAllowed x = true) ↔
      (32 ≤ c.toNat → Yaml.isAllowed c = true) := by
  have hbackslash : Yaml.isAllowed '\\' = true := rfl
  -- What is written for a control character consists of a backslash and of letters or digits.
  rcases stringChar_cases c with ⟨e, -, he, hc⟩ | ⟨hlt, hc⟩ | ⟨-, -, hge, hc⟩
  · have hletter : Yaml.isAllowed e = true ∧ (32 ≤ c.toNat → Yaml.isAllowed c = true) := by
      unfold escapeChar? at he
      split_ifs at he with hself
      · cases he
        simp only [Bool.or_eq_true, beq_iff_eq] at hself
        obtain (rfl | rfl) | rfl := hself <;> decide
      all_goals
        simp only [beq_iff_eq] at *
        subst_vars
        cases he
        decide
    simpa [hc, hbackslash, hletter.1] using hletter.2
  · have hdigit : ∀ n < 16, Yaml.isAllowed (hexDigit n) = true := by decide
    have hnot : ¬ 32 ≤ c.toNat := by omega
    simp [hc, hbackslash, hdigit (c.toNat / 16) (by omega), hdigit (c.toNat % 16) (by omega), hnot,
      show Yaml.isAllowed 'u' = true from rfl, show Yaml.isAllowed '0' = true from rfl]
  · simp [hc, hge]

/-- YAML allows what is written for a text if it allows what is not escaped in it. -/
theorem isAllowed_stringText_iff {text : String} :
    (∀ x ∈ Json.stringText text, Yaml.isAllowed x = true) ↔
      ∀ c ∈ text.toList, 32 ≤ c.toNat → Yaml.isAllowed c = true := by
  have hquote : Yaml.isAllowed '"' = true := rfl
  simp only [Json.stringText, List.mem_append, List.mem_cons, List.mem_flatMap, List.not_mem_nil,
    or_false, or_imp, forall_and, forall_eq, hquote, true_and, and_true, forall_exists_index,
    and_imp, ← isAllowed_stringChar_iff]
  exact ⟨fun h c hc x hx => h x c hc hx, fun h x c hc hx => h c hc x hx⟩

/-- A text of visible ASCII characters is kept. -/
theorem isKept_of_ascii (h : ∀ c ∈ s, 32 < c.toNat ∧ c.toNat < 127) : IsKept s where
  nextLine c hc := by
    have := h c hc
    omega
  isApart := by
    have hspace (c : Char) (hc : c ∈ s) : c ≠ ' ' := by
      rintro rfl
      exact absurd (h _ hc).1 (by decide)
    exact List.Pairwise.isChain (List.pairwise_of_forall_mem_list fun a ha b hb =>
      ⟨fun hab => hspace a ha hab.1, fun hab => hspace b hb hab.2⟩)
  allowed c hc _ := by
    have := h c hc
    simp [Yaml.isAllowed]
    omega
  unmarked x line hsuffix hx := by
    have := h x (hsuffix.subset List.mem_cons_self)
    simp only [isSeparator, Bool.or_eq_true, beq_iff_eq] at hx
    omega

end JsonSource

end BrowserFlow
