import BrowserFlow.Proofs.Json.Source
import BrowserFlow.Proofs.Yaml.Passing

/-!
# JSON strings as quoted scalars

A JSON string is a quoted scalar of YAML, but not always one of the same text. YAML folds line
breaks, and knows three that may stand in a JSON string; it knows no pairs of surrogates; and it
takes a line that begins like a mark between documents for one. `JsonSource.folded` is the text that
YAML reads, and `JsonSource.marked` says whether there is such a line. `readQuoted_apply` and
`readQuoted_marked` show that the reader does what these two say.

The reader takes a string in turns: the elements up to a space or a line break, then the spaces and
line breaks. The induction is over these turns; what it carries along is whether a line begins.
-/

namespace BrowserFlow

open Text JsonText

namespace JsonSource

namespace Piece

/-- The character that an element stands for by itself. -/
def char : Piece → Char
  | raw c _ => c
  | letter _ c _ => c
  | code _ _ _ _ n _ => Char.ofNat n

/-- Whether an element is a space or the end of a line. -/
def isGap : Piece → Bool
  | raw c _ => Yaml.isVoid c
  | _ => false

/-- Whether an element is the end of a line. -/
def isBreak : Piece → Bool
  | raw c _ => Yaml.isBreak c
  | _ => false

/-- An element is no half of a surrogate pair. -/
def Whole : Piece → Prop
  | code _ _ _ _ n _ => ¬ (0xD800 ≤ n ∧ n ≤ 0xDFFF)
  | _ => True

end Piece

/-- The text of some elements in YAML, after a gap. -/
def foldedAfter (gap : Yaml.Gap) : List Piece → List Char
  | [] => gap.folded
  | piece :: pieces =>
    if piece.isGap then foldedAfter (gap.add piece.char) pieces
    else gap.folded ++ piece.char :: foldedAfter {} pieces

/-- The text of a string in YAML. -/
def folded (pieces : List Piece) : List Char :=
  foldedAfter {} pieces

/-- Whether a line that begins here is a mark between documents. -/
def isMark (s : List Char) : Bool :=
  s[3]?.all Yaml.isVoid &&
    ((after? "---".toList s).isSome || (after? "...".toList s).isSome)

/-- Whether one of the lines of a string is a mark between documents; `fresh` says whether a line
begins with the first element. -/
def marked (fresh : Bool) : List Piece → Bool
  | [] => false
  | piece :: pieces =>
    (fresh && isMark ((piece :: pieces).flatMap Piece.chars ++ ['"'])) ||
      marked piece.isBreak pieces

/-- What comes behind the closing quote is no part of a mark. -/
theorem isMark_append (s rest : List Char) : isMark (s ++ '"' :: rest) = isMark (s ++ ['"']) := by
  -- Four characters are enough to decide.
  rcases s with _ | ⟨a, _ | ⟨b, _ | ⟨c, _ | ⟨d, s⟩⟩⟩⟩ <;> simp [isMark, after?] <;>
    split_ifs <;> rfl

/-- No mark begins with a space or the end of a line. -/
theorem isMark_of_isVoid {c : Char} (h : Yaml.isVoid c = true) (s : List Char) :
    isMark (c :: s) = false := by
  have hdash : c ≠ '-' := by rintro rfl; exact absurd h (by decide)
  have hpoint : c ≠ '.' := by rintro rfl; exact absurd h (by decide)
  simp [isMark, after?, Ne.symm hdash, Ne.symm hpoint]

variable {piece : Piece} {pieces rest : List Piece} {gap : Yaml.Gap}

/-- A gap is a character that stands for itself. -/
theorem Piece.exists_raw (h : piece.isGap = true) :
    piece.chars = [piece.char] ∧ Yaml.isVoid piece.char = true ∧
      piece.isBreak = Yaml.isBreak piece.char ∧ piece.char ≠ '\r' := by
  cases piece with
  | raw c plain => exact ⟨rfl, h, rfl, by rintro hc; rw [char] at hc; simp [hc] at plain⟩
  | letter => cases h
  | code => cases h

/-- What is no gap ends no line. -/
theorem Piece.isBreak_of_not_isGap (h : piece.isGap = false) : piece.isBreak = false := by
  cases piece with
  | raw c plain =>
    have := (Bool.or_eq_false_iff.mp h).2
    exact this
  | letter => rfl
  | code => rfl

/-- A code that is no half of a surrogate pair is that of a character. -/
theorem joinParts_code_of_whole {n : Nat} (h : ¬ (0xD800 ≤ n ∧ n ≤ 0xDFFF))
    (parts : List StringPart) :
    joinParts (.code n :: parts) = (joinParts parts).map (Char.ofNat n :: ·) := by
  have htrailing : isTrailing n = false := by
    simp only [isTrailing, Bool.and_eq_false_iff, decide_eq_false_iff_not]
    omega
  have hleading : isLeading n = false := by
    simp only [isLeading, Bool.and_eq_false_iff, decide_eq_false_iff_not]
    omega
  rcases parts with _ | ⟨_ | _, _⟩ <;> simp [joinParts, htrailing, hleading]

/-- Without surrogate pairs a string is the characters of its elements. -/
theorem spelling_eq (h : ∀ p ∈ pieces, p.Whole) :
    spelling pieces = .ok (String.ofList (pieces.map Piece.char)) := by
  -- No element is one half of a pair, so that each stands for its own character.
  have hjoin : joinParts (pieces.map Piece.part) = .ok (pieces.map Piece.char) := by
    induction pieces with
    | nil => rfl
    | cons p pieces ih =>
      rw [List.forall_mem_cons] at h
      rw [List.map_cons, List.map_cons]
      cases p with
      | raw c plain => rw [Piece.part, joinParts, ih h.2]; rfl
      | letter e c escape => rw [Piece.part, joinParts, ih h.2]; rfl
      | code a b c d n digits =>
        rw [Piece.part, joinParts_code_of_whole h.1, ih h.2]
        rfl
  rw [spelling, hjoin]
  rfl

/-! ## Turns -/

/-- Elements that are no gaps stand for themselves. -/
theorem foldedAfter_append_word (hne : pieces ≠ []) (h : ∀ p ∈ pieces, p.isGap = false) :
    foldedAfter gap (pieces ++ rest) = gap.folded ++ pieces.map Piece.char ++ folded rest := by
  induction pieces generalizing gap with
  | nil => exact absurd rfl hne
  | cons piece pieces ih =>
    rw [List.forall_mem_cons] at h
    rw [List.cons_append, foldedAfter, h.1]
    by_cases hnil : pieces = []
    · simp [hnil, folded]
    · simp [ih hnil h.2, Yaml.Gap.folded]

/-- A gap is added up. -/
theorem foldedAfter_append_gap (h : ∀ p ∈ pieces, p.isGap = true) :
    foldedAfter gap (pieces ++ rest) =
      foldedAfter ((pieces.map Piece.char).foldl Yaml.Gap.add gap) rest := by
  induction pieces generalizing gap with
  | nil => rfl
  | cons piece pieces ih =>
    rw [List.forall_mem_cons] at h
    rw [List.cons_append, foldedAfter, h.1, if_pos rfl, ih h.2, List.map_cons, List.foldl_cons]

/-- A gap ends with the first element that is none. -/
theorem foldedAfter_eq (h : ∀ p ∈ pieces.head?, p.isGap = false) :
    foldedAfter gap pieces = gap.folded ++ folded pieces := by
  cases pieces with
  | nil => simp [folded, foldedAfter, Yaml.Gap.folded]
  | cons piece pieces =>
    have hp := h piece rfl
    simp [folded, foldedAfter, hp, Yaml.Gap.folded]

/-- No line begins among elements that are no gaps, but for the first. -/
theorem marked_append_word {fresh : Bool} (hne : pieces ≠ [])
    (h : ∀ p ∈ pieces, p.isGap = false) :
    marked fresh (pieces ++ rest) =
      ((fresh && isMark ((pieces ++ rest).flatMap Piece.chars ++ ['"'])) || marked false rest) := by
  induction pieces generalizing fresh with
  | nil => exact absurd rfl hne
  | cons piece pieces ih =>
    rw [List.forall_mem_cons] at h
    rw [List.cons_append, marked, Piece.isBreak_of_not_isGap h.1]
    by_cases hnil : pieces = []
    · simp [hnil]
    · rw [ih hnil h.2, Bool.false_and, Bool.false_or]

/-- Behind a gap a line begins if the gap ends with the end of a line. -/
theorem marked_append_gap {fresh : Bool} (hne : pieces ≠ []) (h : ∀ p ∈ pieces, p.isGap = true) :
    marked fresh (pieces ++ rest) = marked (pieces.getLast hne).isBreak rest := by
  induction pieces generalizing fresh with
  | nil => exact absurd rfl hne
  | cons piece pieces ih =>
    rw [List.forall_mem_cons] at h
    have hmark : isMark ((piece :: (pieces ++ rest)).flatMap Piece.chars ++ ['"']) = false := by
      obtain ⟨hchars, hvoid, -⟩ := Piece.exists_raw h.1
      rw [List.flatMap_cons, hchars, List.singleton_append, List.cons_append]
      exact isMark_of_isVoid hvoid _
    rw [List.cons_append, marked, hmark, Bool.and_false, Bool.false_or]
    by_cases hnil : pieces = []
    · subst hnil
      rfl
    · rw [ih hnil h.2, List.getLast_cons hnil]

/-- The elements of a string up to the first gap, the gap, and what is left behind it. -/
structure Turn (pieces : List Piece) where
  /-- The elements up to the gap. -/
  word : List Piece
  /-- The gap. -/
  gap : List Piece
  /-- What is left behind it. -/
  later : List Piece
  /-- They are all elements. -/
  eq_append : pieces = word ++ (gap ++ later)
  /-- The first ones are no gaps. -/
  of_word : ∀ p ∈ word, p.isGap = false
  /-- Then there are only gaps. -/
  of_gap : ∀ p ∈ gap, p.isGap = true
  /-- What is left begins with none. -/
  of_later : ∀ p ∈ later.head?, p.isGap = false
  /-- Nothing is left if there is no gap. -/
  later_eq_nil : gap = [] → later = []

namespace Turn

/-- The first turn of a string. -/
def first (pieces : List Piece) : Turn pieces where
  word := pieces.takeWhile (!·.isGap)
  gap := (pieces.dropWhile (!·.isGap)).takeWhile Piece.isGap
  later := (pieces.dropWhile (!·.isGap)).dropWhile Piece.isGap
  eq_append := by rw [List.takeWhile_append_dropWhile, List.takeWhile_append_dropWhile]
  of_word p hp := by simpa using List.mem_takeWhile_imp hp
  of_gap p hp := List.mem_takeWhile_imp hp
  of_later p hp := by
    have hnot := List.head?_dropWhile_not Piece.isGap (pieces.dropWhile (!·.isGap))
    rwa [Option.mem_def.mp hp] at hnot
  later_eq_nil hnil := by
    cases hrest : pieces.dropWhile (!·.isGap) with
    | nil => rfl
    | cons p rest =>
      have hnot := List.head?_dropWhile_not (!·.isGap) pieces
      rw [hrest] at hnil hnot
      have hp : p.isGap = true := by simpa using hnot
      rw [List.takeWhile_cons_of_pos hp] at hnil
      cases hnil

variable (turn : Turn pieces)

/-- The text of a string is put together turn by turn. -/
theorem folded_eq : folded pieces = turn.word.map Piece.char ++
    ((turn.gap.map Piece.char).foldl Yaml.Gap.add {}).folded ++ folded turn.later := by
  have hgap : folded (turn.gap ++ turn.later) =
      ((turn.gap.map Piece.char).foldl Yaml.Gap.add {}).folded ++ folded turn.later := by
    rw [folded, foldedAfter_append_gap turn.of_gap, foldedAfter_eq turn.of_later]
  rw [List.append_assoc, ← hgap]
  conv_lhs => rw [turn.eq_append]
  by_cases hword : turn.word = []
  · rw [hword]
    rfl
  · rw [folded, foldedAfter_append_word hword turn.of_word]
    simp [Yaml.Gap.folded]

/-- Unless a mark comes first, the marks are those behind the gap. -/
theorem marked_eq {fresh : Bool} (hne : turn.gap ≠ [])
    (hmark : (fresh && isMark (pieces.flatMap Piece.chars ++ ['"'])) = false) :
    marked fresh pieces = marked (turn.gap.getLast hne).isBreak turn.later := by
  rw [turn.eq_append] at hmark
  conv_lhs => rw [turn.eq_append]
  by_cases hword : turn.word = []
  · rw [hword, List.nil_append, marked_append_gap hne turn.of_gap]
  · rw [marked_append_word hword turn.of_word, hmark, Bool.false_or,
      marked_append_gap hne turn.of_gap]

/-- Unless a mark comes first, there is none if there is no gap. -/
theorem marked_eq_false {fresh : Bool} (hnil : turn.gap = [])
    (hmark : (fresh && isMark (pieces.flatMap Piece.chars ++ ['"'])) = false) :
    marked fresh pieces = false := by
  have heq := turn.eq_append
  rw [hnil, turn.later_eq_nil hnil] at heq
  rw [heq] at hmark ⊢
  by_cases hword : turn.word = []
  · rw [hword]
    rfl
  · rw [marked_append_word hword turn.of_word, hmark]
    rfl

/-- The characters of a string are those of its turn. -/
theorem chars_eq : pieces.flatMap Piece.chars = turn.word.flatMap Piece.chars ++
    turn.gap.flatMap Piece.chars ++ turn.later.flatMap Piece.chars := by
  conv_lhs => rw [turn.eq_append]
  simp

/-- Behind a gap there is less left. -/
theorem length_later_lt (hne : turn.gap ≠ []) : turn.later.length < pieces.length := by
  have hpos := List.length_pos_of_ne_nil hne
  conv_rhs => rw [turn.eq_append]
  simp only [List.length_append]
  omega

/-- The text of a gap is that of its characters. -/
theorem chars_gap : turn.gap.flatMap Piece.chars = turn.gap.map Piece.char := by
  rw [List.map_eq_flatMap]
  exact List.flatMap_congr fun p hp => (Piece.exists_raw (turn.of_gap p hp)).1

end Turn

/-- A mark in front makes a string marked. -/
theorem marked_of_isMark {fresh : Bool}
    (h : (fresh && isMark (pieces.flatMap Piece.chars ++ ['"'])) = true) :
    marked fresh pieces = true := by
  cases pieces with
  | nil => simp [isMark, after?] at h
  | cons piece pieces => rw [marked, h, Bool.true_or]

end JsonSource

open JsonSource

namespace JsonText

/-- The letter of an escape stands for the same character in YAML. -/
theorem escapeCode?_of_escapeChar? {e c : Char} (h : escapeChar? e = some c) :
    Yaml.escapeCode? e = some c.toNat ∧ Yaml.isBreak e = false := by
  unfold escapeChar? at h
  split_ifs at h with hself hb hf hn hr ht
  · cases h
    simp only [Bool.or_eq_true, beq_iff_eq] at hself
    obtain (rfl | rfl) | rfl := hself <;> decide
  all_goals
    simp only [beq_iff_eq] at *
    subst_vars
    cases h
    decide

/-- The digits of a code stand for it. -/
theorem exists_hexValues {a b c d : Char} {n : Nat}
    (h : ∀ s, hexCode? (a :: b :: c :: d :: s) = some (n, s)) :
    ([a, b, c, d].filterMap hexValue?).length = 4 ∧
      ([a, b, c, d].filterMap hexValue?).foldl (fun n d => 16 * n + d) 0 = n := by
  have h := h []
  simp only [hexCode?, Option.bind_eq_bind, Option.bind_eq_some_iff, Option.pure_def,
    Option.some.injEq, Prod.mk.injEq, and_true] at h
  obtain ⟨va, ha, vb, hb, vc, hc, vd, hd, rfl⟩ := h
  simp only [List.filterMap_cons, ha, hb, hc, hd, List.filterMap_nil, List.length_cons,
    List.length_nil, List.foldl_cons, List.foldl_nil, true_and]
  omega

/-- A hexadecimal digit is less than sixteen. -/
theorem lt_of_hexValue? {c : Char} {v : Nat} (h : hexValue? c = some v) : v < 16 := by
  unfold hexValue? at h
  dsimp only at h
  split_ifs at h <;> cases h <;> simp only [Bool.and_eq_true, decide_eq_true_eq] at * <;> omega

/-- A code has 16 bits. -/
theorem lt_of_hexCode? {s t : List Char} {n : Nat} (h : hexCode? s = some (n, t)) :
    n < 0x10000 := by
  unfold hexCode? at h
  split at h
  · simp only [Option.bind_eq_bind, Option.bind_eq_some_iff, Option.pure_def, Option.some.injEq,
      Prod.mk.injEq] at h
    obtain ⟨va, ha, vb, hb, vc, hc, vd, hd, rfl, -⟩ := h
    have := lt_of_hexValue? ha
    have := lt_of_hexValue? hb
    have := lt_of_hexValue? hc
    have := lt_of_hexValue? hd
    omega
  · cases h

end JsonText

namespace Yaml

variable {c : Cursor} {pieces : List Piece} {t : List Char}

/-- What is read of an escape, if it is one in YAML. -/
theorem readEscape_letter {e x : Char} (h : escapeChar? e = some x) (hc : c.rest = '\\' :: e :: t) :
    readEscape c = .ok (x, c.skip 2) := by
  have hpeek : c.peek 1 = some e := by simp [Cursor.peek, hc]
  simp only [readEscape, Scan.bind_apply, Scan.get_apply, hpeek, (escapeCode?_of_escapeChar? h).1,
    Scan.skip_apply, Scan.pure_apply, Char.ofNat_toNat]

/-- What is read of a code that is no half of a pair. -/
theorem readEscape_code {x y z w : Char} {n : Nat}
    (h : ∀ s, hexCode? (x :: y :: z :: w :: s) = some (n, s))
    (hn : ¬ (0xD800 ≤ n ∧ n ≤ 0xDFFF)) (hc : c.rest = '\\' :: 'u' :: x :: y :: z :: w :: t) :
    readEscape c = .ok (Char.ofNat n, c.skip 6) := by
  have hpeek : c.peek 1 = some 'u' := by simp [Cursor.peek, hc]
  have hdigits : (c.rest.drop 2).take 4 = [x, y, z, w] := by simp [hc]
  obtain ⟨hlength, hvalue⟩ := exists_hexValues h
  have hlt := lt_of_hexCode? (h [])
  simp only [readEscape, Scan.bind_apply, Scan.get_apply, hpeek,
    show escapeCode? 'u' = none from rfl, show escapeDigits? 'u' = some 4 from rfl, hdigits,
    hlength, hvalue]
  -- The code is that of a character: it is read with four digits, and is no half of a pair.
  have hvalid : (decide (0xD800 ≤ n) && decide (n ≤ 0xDFFF) || decide (0x10FFFF < n)) = false := by
    simp only [Bool.or_eq_false_iff, Bool.and_eq_false_iff, decide_eq_false_iff_not]
    omega
  rw [if_neg (by decide), hvalid, if_neg Bool.false_ne_true, Scan.bind_apply, Scan.skip_apply]
  rfl

/-- No line ends inside an element that is no gap. -/
theorem isBreak_of_mem_chars {piece : Piece} (h : piece.isGap = false) :
    ∀ x ∈ piece.chars, isBreak x = false := by
  cases piece with
  | raw x plain => exact List.forall_mem_singleton.mpr (Bool.or_eq_false_iff.mp h).2
  | letter e x escape =>
    simp only [Piece.chars, List.forall_mem_cons, List.not_mem_nil, false_implies, implies_true,
      and_true]
    exact ⟨rfl, (escapeCode?_of_escapeChar? escape).2⟩
  | code x y z w n digits =>
    -- Neither the marks of an escape nor hexadecimal digits end a line.
    have hdigit {x : Char} {v : Nat} (h : hexValue? x = some v) : isBreak x = false := by
      rw [Bool.eq_false_iff]
      intro hbreak
      simp only [isBreak, Bool.or_eq_true, beq_iff_eq] at hbreak
      have hnone : hexValue? x = none := by
        rcases hbreak with (((rfl | rfl) | hx) | hx) | hx
        · rfl
        · rfl
        all_goals simp [hexValue?, hx]
      rw [hnone] at h
      cases h
    have h := digits []
    simp only [hexCode?, Option.bind_eq_bind, Option.bind_eq_some_iff] at h
    obtain ⟨_, hx, _, hy, _, hz, _, hw, -⟩ := h
    simp only [Piece.chars, List.forall_mem_cons, List.not_mem_nil, false_implies, implies_true,
      and_true]
    exact ⟨rfl, rfl, hdigit hx, hdigit hy, hdigit hz, hdigit hw⟩

/-- An escape is read, then the elements behind it. -/
theorem readQuotedPart_escape {y e : Char} {n : Nat} (fuel : Nat) (hc : c.rest = '\\' :: y :: t)
    (hy : isBreak y = false) (hread : readEscape c = .ok (e, c.skip n)) :
    readQuotedPart false (fuel + 1) c =
      match readQuotedPart false fuel (c.skip n) with
      | .ok ((part, broken), c') => .ok ((e :: part, broken), c')
      | .error e => .error e := by
  simp only [readQuotedPart, Scan.bind_apply, Scan.get_apply, hc, Cursor.isVoidAt_zero hc,
    Cursor.satisfies_one hc, hy, show isVoid '\\' = false from rfl]
  show (readEscape >>= fun e => readQuotedPart false fuel >>= fun parts =>
    pure (e :: parts.1, parts.2)) c = _
  rw [Scan.bind_apply, hread]
  dsimp only
  rw [Scan.bind_apply]
  rcases readQuotedPart false fuel (c.skip n) with _ | ⟨⟨_, _⟩, _⟩ <;> rfl

/-- One element of a part is read, then the others. -/
theorem readQuotedPart_cons {piece : Piece} (fuel : Nat) (hgap : piece.isGap = false)
    (hwhole : piece.Whole) (hc : c.rest = piece.chars ++ t) :
    readQuotedPart false (fuel + 1) c =
      match readQuotedPart false fuel (c.skip piece.chars.length) with
      | .ok ((part, broken), c') => .ok ((piece.char :: part, broken), c')
      | .error e => .error e := by
  cases piece with
  | raw x plain =>
    have hx : isVoid x = false := hgap
    simp only [Piece.chars, List.singleton_append] at hc
    simp only [readQuotedPart, Scan.bind_apply, Scan.get_apply, hc, Cursor.isVoidAt_zero hc, hx,
      Bool.false_and, Bool.false_eq_true, if_false, Bool.not_false, Bool.true_and, beq_iff_eq,
      plain.1, plain.2.1, Scan.skip_apply, Piece.chars, List.length_singleton]
    rcases readQuotedPart false fuel (c.skip 1) with _ | ⟨⟨_, _⟩, _⟩ <;> rfl
  | letter e x escape =>
    exact readQuotedPart_escape fuel hc (escapeCode?_of_escapeChar? escape).2
      (readEscape_letter escape hc)
  | code x y z w n digits =>
    exact readQuotedPart_escape fuel hc rfl (readEscape_code digits hwhole hc)

/-- A part of a string is read up to a space, the end of a line or the closing quote. -/
theorem readQuotedPart_apply {x : Char} {fuel : Nat} (hword : ∀ p ∈ pieces, p.isGap = false)
    (hwhole : ∀ p ∈ pieces, p.Whole) (hx : isVoid x = true ∨ x = '"')
    (hc : c.rest = pieces.flatMap Piece.chars ++ x :: t) (hfuel : pieces.length < fuel) :
    ∃ c', readQuotedPart false fuel c = .ok ((pieces.map Piece.char, false), c') ∧
      Cursor.Passes (pieces.flatMap Piece.chars) c c' := by
  -- The induction is on the elements; the fuel is enough for one round each.
  induction pieces generalizing c fuel with
  | nil =>
    cases fuel with
    | zero => exact absurd hfuel (Nat.not_lt_zero _)
    | succ fuel =>
      rw [List.flatMap_nil, List.nil_append] at hc
      refine ⟨c, ?_, .refl c⟩
      simp only [readQuotedPart, Scan.bind_apply, Scan.get_apply, hc, Cursor.isVoidAt_zero hc]
      rcases hx with hx | rfl
      · rw [hx]
        rfl
      · rfl
  | cons piece pieces ih =>
    cases fuel with
    | zero => exact absurd hfuel (Nat.not_lt_zero _)
    | succ fuel =>
      rw [List.forall_mem_cons] at hword hwhole
      rw [List.flatMap_cons, List.append_assoc] at hc
      rw [List.length_cons] at hfuel
      have hpass := Cursor.passes_skip hc (isBreak_of_mem_chars hword.1)
      obtain ⟨c', hread, hpasses⟩ := ih hword.2 hwhole.2 (Cursor.skip_rest hc)
        (Nat.lt_of_succ_lt_succ hfuel)
      refine ⟨c', ?_, List.flatMap_cons ▸ hpass.trans hpasses⟩
      rw [readQuotedPart_cons fuel hword.1 hwhole.1 hc, hread]
      rfl

/-- Whether a mark between documents comes next. -/
theorem Cursor.atDocumentMark_eq (hc : c.rest = pieces.flatMap Piece.chars ++ '"' :: t) :
    c.atDocumentMark =
      ((c.column == 0) && isMark (pieces.flatMap Piece.chars ++ ['"'])) := by
  have hvoid : c.isVoidAt 3 = c.rest[3]?.all isVoid := by
    unfold isVoidAt peek
    cases c.rest[3]? <;> rfl
  rw [← isMark_append _ t, ← hc, isMark, ← Bool.and_assoc, ← hvoid]
  rfl

/-- An element has a character. -/
theorem length_le_length_chars (pieces : List Piece) :
    pieces.length ≤ (pieces.flatMap Piece.chars).length := by
  have hpos (p : Piece) : 1 ≤ p.chars.length := by cases p <;> simp [Piece.chars]
  induction pieces with
  | nil => exact Nat.le_refl 0
  | cons p pieces ih =>
    have := hpos p
    rw [List.flatMap_cons, List.length_append, List.length_cons]
    omega

/-- What is no gap begins with no space and no end of a line. -/
theorem isVoid_of_head? (h : ∀ p ∈ pieces.head?, p.isGap = false) :
    ∀ x ∈ (pieces.flatMap Piece.chars ++ '"' :: t).head?, isVoid x = false := by
  cases pieces with
  | nil => simp [show isVoid '"' = false from rfl]
  | cons p pieces =>
    have hp := h p rfl
    cases p with
    | raw x plain => simpa [Piece.chars] using (show isVoid x = false from hp)
    | letter => simp [Piece.chars, show isVoid '\\' = false from rfl]
    | code => simp [Piece.chars, show isVoid '\\' = false from rfl]

section Turn

variable (turn : Turn pieces) (fuel : Nat) (text : List Char) (hwhole : ∀ p ∈ pieces, p.Whole)
  (hc : c.rest = pieces.flatMap Piece.chars ++ '"' :: t) (hmark : c.atDocumentMark = false)

include hwhole hc hmark

/-- In the last turn the string is read up to the closing quote. -/
theorem readQuotedParts_last (hgap : turn.gap = []) :
    ∃ c', readQuotedParts false (fuel + 1) text c = .ok (text ++ folded pieces, c') ∧
      Cursor.Passes (pieces.flatMap Piece.chars ++ ['"']) c c' := by
  -- Without a gap the word is all there is, and the closing quote comes behind it.
  have hword : pieces = turn.word := by
    have heq := turn.eq_append
    rwa [hgap, turn.later_eq_nil hgap, List.append_nil, List.append_nil] at heq
  have hfolded : folded pieces = pieces.map Piece.char := by
    rw [turn.folded_eq, hgap, turn.later_eq_nil hgap, ← hword]
    simp [folded, foldedAfter, Gap.folded]
  have hend : c.atEnd = false := by simp [Cursor.atEnd, hc]
  have hlength : pieces.length < c.rest.length + 1 := by
    have := length_le_length_chars pieces
    rw [hc, List.length_append]
    omega
  obtain ⟨c₁, hpart, hpass⟩ := readQuotedPart_apply (hword ▸ turn.of_word) hwhole (.inr rfl) hc
    hlength
  have hrest : c₁.rest = ['"'] ++ t := by
    have heq := hpass.rest
    rw [hc] at heq
    exact (List.append_cancel_left heq).symm
  have hat : c₁.isAt '"' = true := by simp [Cursor.isAt, Cursor.peek, hrest]
  refine ⟨c₁.skip 1, ?_, hpass.trans (Cursor.passes_skip hrest (List.forall_mem_singleton.mpr rfl))⟩
  simp only [readQuotedParts, Scan.bind_apply, Scan.get_apply, hmark, hend, Bool.false_eq_true,
    if_false, hpart, hat, if_true, Scan.skip_apply, Scan.pure_apply]
  rw [hfolded]

/-- In any other turn it is read up to where the gap ends. -/
theorem readQuotedParts_turn (hgap : turn.gap ≠ []) :
    ∃ c', readQuotedParts false (fuel + 1) text c =
        readQuotedParts false fuel (text ++ turn.word.map Piece.char ++
          ((turn.gap.map Piece.char).foldl Gap.add {}).folded) c' ∧
      Cursor.Passes (turn.word.flatMap Piece.chars ++ turn.gap.flatMap Piece.chars) c c' ∧
      (c'.column == 0) = (turn.gap.getLast hgap).isBreak := by
  obtain ⟨p, gap, hcons⟩ := List.exists_cons_of_ne_nil hgap
  obtain ⟨-, hvoid, -⟩ := Piece.exists_raw (turn.of_gap p (by simp [hcons]))
  have hrest : c.rest = turn.word.flatMap Piece.chars ++
      (turn.gap.map Piece.char ++ (turn.later.flatMap Piece.chars ++ '"' :: t)) := by
    rw [hc, ← turn.chars_gap, turn.chars_eq]
    simp only [List.append_assoc]
  have hlength : turn.word.length < c.rest.length + 1 ∧ (turn.gap.map Piece.char).length <
      c.rest.length + 1 := by
    have := length_le_length_chars turn.word
    simp only [hrest, List.length_append]
    omega
  -- The word ends where the gap begins.
  obtain ⟨c₁, hpart, hpass⟩ := readQuotedPart_apply (x := p.char)
    (t := gap.map Piece.char ++ (turn.later.flatMap Piece.chars ++ '"' :: t))
    turn.of_word (fun p hp => hwhole p (by rw [turn.eq_append]; simp [hp])) (.inl hvoid)
    (by rw [hrest, hcons]; rfl) hlength.1
  have hrest₁ : c₁.rest = turn.gap.map Piece.char ++ (turn.later.flatMap Piece.chars ++ '"' :: t) :=
    List.append_cancel_left (hpass.rest.symm.trans hrest)
  have hat : c₁.isAt '"' = false := by
    have hne : p.char ≠ '"' := by rintro h; rw [h] at hvoid; exact absurd hvoid (by decide)
    simp [Cursor.isAt, Cursor.peek, hrest₁, hcons, hne]
  have hend : c.atEnd = false := by simp [Cursor.atEnd, hc]
  -- The gap ends where the next word begins.
  obtain ⟨gap', c₂, hread, hpass₂, hgap'⟩ := readGap_apply {} (by decide : (-1 : Int) ≤ 0) hrest₁
    (List.forall_mem_map.mpr fun p hp => (Piece.exists_raw (turn.of_gap p hp)).2.1)
    (isVoid_of_head? turn.of_later) hlength.2
  have hreturn : '\r' ∉ turn.gap.map Piece.char := by
    rw [List.mem_map]
    rintro ⟨p, hp, hchar⟩
    exact (Piece.exists_raw (turn.of_gap p hp)).2.2.2 hchar
  refine ⟨c₂, ?_, turn.chars_gap ▸ hpass.trans hpass₂, ?_⟩
  · simp only [readQuotedParts, Scan.bind_apply, Scan.get_apply, hmark, hend, Bool.false_eq_true,
      if_false, hpart, hat, hread, hgap' hreturn]
  · have hlast := turn.gap.getLast_mem hgap
    have hcolumn := hpass₂.column (turn.gap.getLast hgap).char (by
      rw [List.getLast?_map, List.getLast?_eq_some_getLast hgap]
      rfl)
    rw [(Piece.exists_raw (turn.of_gap _ hlast)).2.2.1, Bool.eq_iff_iff, beq_iff_eq, hcolumn]

end Turn

/-- The parts of a string are read turn by turn up to the closing quote, unless one of the lines
begins like a mark between documents. -/
theorem readQuotedParts_apply (text : List Char) {fuel : Nat} (hwhole : ∀ p ∈ pieces, p.Whole)
    (hc : c.rest = pieces.flatMap Piece.chars ++ '"' :: t) (hfuel : pieces.length < fuel) :
    (marked (c.column == 0) pieces = true → ∃ e, readQuotedParts false fuel text c = .error e) ∧
      (marked (c.column == 0) pieces = false → ∃ c',
        readQuotedParts false fuel text c = .ok (text ++ folded pieces, c') ∧
          Cursor.Passes (pieces.flatMap Piece.chars ++ ['"']) c c') := by
  -- The induction is on the fuel, since a turn takes several elements: a word and its gap.
  induction fuel generalizing pieces c text with
  | zero => exact absurd hfuel (Nat.not_lt_zero _)
  | succ fuel ih =>
    have hstart := Cursor.atDocumentMark_eq hc
    cases hmark : c.atDocumentMark with
    | true =>
      rw [hmark] at hstart
      have hmarked := marked_of_isMark hstart.symm
      refine ⟨fun _ => ⟨⟨.found "unexpected document indicator", "scanning a quoted scalar"⟩, ?_⟩,
        fun h => absurd (h.symm.trans hmarked) Bool.false_ne_true⟩
      simp only [readQuotedParts, Scan.bind_apply, Scan.get_apply, hmark, if_true, Scan.fail_apply]
    | false =>
      rw [hmark] at hstart
      let turn := Turn.first pieces
      by_cases hgap : turn.gap = []
      · have hmarked := turn.marked_eq_false hgap hstart.symm
        refine ⟨fun h => absurd (hmarked.symm.trans h) Bool.false_ne_true, fun _ => ?_⟩
        exact readQuotedParts_last turn fuel text hwhole hc hmark hgap
      · obtain ⟨c₁, hturn, hpass, hcolumn⟩ :=
          readQuotedParts_turn turn fuel text hwhole hc hmark hgap
        have hrest : c₁.rest = turn.later.flatMap Piece.chars ++ '"' :: t := by
          rw [turn.chars_eq, List.append_assoc] at hc
          exact List.append_cancel_left (hpass.rest.symm.trans hc)
        have hlater := ih (text ++ turn.word.map Piece.char ++
          ((turn.gap.map Piece.char).foldl Gap.add {}).folded)
          (fun p hp => hwhole p (by rw [turn.eq_append]; simp [hp])) hrest
          (by have := turn.length_later_lt hgap; omega)
        rw [hcolumn, ← turn.marked_eq hgap hstart.symm] at hlater
        rw [hturn]
        refine ⟨hlater.1, fun hm => ?_⟩
        obtain ⟨c', hread, hpasses⟩ := hlater.2 hm
        refine ⟨c', ?_, ?_⟩
        · rw [hread, turn.folded_eq]
          simp
        · rw [turn.chars_eq, List.append_assoc]
          exact hpass.trans hpasses

/-- What comes behind the opening quote stands on a line that has begun. -/
theorem readQuoted_eq (hc : c.rest = literal pieces ++ t) :
    ∃ c₁, readQuoted false c = readQuotedParts false (c₁.rest.length + 1) [] c₁ ∧
      Cursor.Passes ['"'] c c₁ ∧ c₁.rest = pieces.flatMap Piece.chars ++ '"' :: t ∧
      pieces.length < c₁.rest.length + 1 ∧ (c₁.column == 0) = false := by
  have hquote : c.rest = ['"'] ++ (pieces.flatMap Piece.chars ++ '"' :: t) := by
    simp [hc, literal]
  have hpass := Cursor.passes_skip hquote (List.forall_mem_singleton.mpr rfl)
  have hrest : (c.skip 1).rest = pieces.flatMap Piece.chars ++ '"' :: t :=
    Cursor.skip_rest hquote
  have hlength : pieces.length < (c.skip 1).rest.length + 1 := by
    have := length_le_length_chars pieces
    rw [hrest, List.length_append]
    omega
  refine ⟨c.skip 1, ?_, hpass, hrest, hlength, by simp [Cursor.skip]⟩
  simp only [readQuoted, Scan.bind_apply, Scan.skip_apply, Scan.get_apply]

section Literal

variable (hwhole : ∀ p ∈ pieces, p.Whole) (hc : c.rest = literal pieces ++ t)

include hwhole hc

/-- A string is read as its text in YAML. -/
theorem readQuoted_apply (hmarked : marked false pieces = false) :
    ∃ c', readQuoted false c = .ok (folded pieces, c') ∧ Cursor.Passes (literal pieces) c c' := by
  obtain ⟨c₁, hread, hpass, hrest, hlength, hcolumn⟩ := readQuoted_eq hc
  obtain ⟨c', hparts, hpasses⟩ := (readQuotedParts_apply [] hwhole hrest hlength).2
    (by rwa [hcolumn])
  exact ⟨c', hread.trans hparts, hpass.trans hpasses⟩

/-- A string with a line that is a mark between documents is not read. -/
theorem readQuoted_marked (hmarked : marked false pieces = true) :
    ∃ e, readQuoted false c = .error e := by
  obtain ⟨c₁, hread, -, hrest, hlength, hcolumn⟩ := readQuoted_eq hc
  obtain ⟨e, hparts⟩ := (readQuotedParts_apply [] hwhole hrest hlength).1 (by rwa [hcolumn])
  exact ⟨e, hread.trans hparts⟩

end Literal

end Yaml

end BrowserFlow
