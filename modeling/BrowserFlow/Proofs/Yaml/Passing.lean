import BrowserFlow.Yaml.Scalar
import Mathlib.Data.List.Basic

/-!
# Passing over characters

What reading does to the place in a text: from one place to another some characters are passed,
which says how far the second one is behind the first (`Cursor.Passes`). The spaces and line breaks
between two parts of a scalar are passed and gathered in a gap (`readGap_apply`).
-/

namespace BrowserFlow.Yaml

variable {α β : Type}

namespace Scan

/-- A sequence of readings goes on where its first part ends, and ends there if that fails. -/
theorem bind_apply (scan : Scan α) (next : α → Scan β) (c : Cursor) :
    (scan >>= next) c = match scan c with
      | .ok (a, c') => next a c'
      | .error e => .error e := by
  show StateT.bind scan next c = _
  unfold StateT.bind
  cases scan c <;> rfl

/-- Returning a value reads nothing. -/
theorem pure_apply (a : α) (c : Cursor) : (pure a : Scan α) c = .ok (a, c) := rfl

/-- Looking at the place reads nothing. -/
theorem get_apply (c : Cursor) : (get : Scan Cursor) c = .ok (c, c) := rfl

/-- Skipping leads on. -/
theorem skip_apply (n : Nat) (c : Cursor) : skip n c = .ok ((), c.skip n) := rfl

/-- The end of a line is read as the text that it stands for. -/
theorem takeBreak_apply (c : Cursor) : takeBreak c = .ok c.skipBreak := rfl

/-- What fails has no result. -/
theorem fail_apply (problem : Problem) (activity : String) (c : Cursor) :
    (fail problem activity : Scan α) c = .error ⟨problem, some activity⟩ := rfl

end Scan

/-- The sizes of texts add up. -/
theorem byteSize_append (s t : List Char) : byteSize (s ++ t) = byteSize s + byteSize t := by
  induction s with
  | nil => exact (Nat.zero_add _).symm
  | cons c s ih => rw [List.cons_append, byteSize, byteSize, ih, Nat.add_assoc]

/-- Whether a character is a space, a tab or the end of a line. -/
def isVoid (x : Char) : Bool :=
  isSpacing x || isBreak x

namespace Cursor

/-- From a place to another one some characters are passed. -/
structure Passes (s : List Char) (c c' : Cursor) : Prop where
  /-- They are what is read meanwhile. -/
  rest : c.rest = s ++ c'.rest
  /-- Their bytes are counted. -/
  index : c'.index = c.index + byteSize s
  /-- Lines are counted. -/
  line_le : c.line ≤ c'.line
  /-- The line is the same one if it does not end on the way. -/
  line : (∀ x ∈ s, isBreak x = false) → c'.line = c.line
  /-- A line begins behind the end of one, and nowhere else. -/
  column : ∀ x ∈ s.getLast?, c'.column = 0 ↔ isBreak x = true
  /-- The place is the same one if there are no characters. -/
  eq_of_nil : s = [] → c' = c

variable {s t : List Char} {x : Char} {c c' c'' : Cursor}

/-- Nothing is passed from a place to itself. -/
theorem Passes.refl (c : Cursor) : Passes [] c c :=
  ⟨rfl, rfl, Nat.le_refl _, fun _ => rfl, by simp, fun _ => rfl⟩

/-- What is passed first and what is passed next add up. -/
theorem Passes.trans (h : Passes s c c') (h' : Passes t c' c'') : Passes (s ++ t) c c'' where
  rest := by rw [h.rest, h'.rest, List.append_assoc]
  index := by rw [h'.index, h.index, byteSize_append, Nat.add_assoc]
  line_le := Nat.le_trans h.line_le h'.line_le
  line hs := by
    rw [List.forall_mem_append] at hs
    rw [h'.line hs.2, h.line hs.1]
  column x hx := by
    -- The last character is one of the second part, unless that is empty.
    by_cases ht : t = []
    · rw [ht, List.append_nil] at hx
      rw [h'.eq_of_nil ht]
      exact h.column x hx
    · rw [List.getLast?_append_of_ne_nil _ ht] at hx
      exact h'.column x hx
  eq_of_nil hs := by
    obtain ⟨hs, ht⟩ := List.append_eq_nil_iff.mp hs
    rw [h'.eq_of_nil ht, h.eq_of_nil hs]

/-- Skipping passes characters of a line. -/
theorem passes_skip (h : c.rest = s ++ t) (hs : ∀ x ∈ s, isBreak x = false) :
    Passes s c (c.skip s.length) where
  rest := by simp [skip, h]
  index := by simp [skip, h]
  line_le := Nat.le_refl _
  line _ := rfl
  column x hx := by
    have hmem : x ∈ s := List.mem_of_getLast? hx
    have hpos := List.length_pos_of_mem hmem
    simp only [skip, hs x hmem, Bool.false_eq_true, iff_false]
    omega
  eq_of_nil hs := by
    subst hs
    simp [skip, byteSize]

/-- The rest behind skipped characters. -/
theorem skip_rest (h : c.rest = s ++ t) : (c.skip s.length).rest = t := by
  simp [skip, h]

/-- The end of a line is read as what it stands for, and a new line begins behind it. -/
theorem skipBreak_eq (h : c.rest = x :: t) (hx : isBreak x = true)
    (ht : x = '\r' → t.head? ≠ some '\n') :
    c.skipBreak = ([if x.toNat == 0x2028 || x.toNat == 0x2029 then x else '\n'],
      ⟨t, c.index + x.utf8Size, c.line + 1, 0⟩) := by
  unfold skipBreak
  split
  · -- Two characters would be read together.
    rename_i rest hrest
    rw [h] at hrest
    cases hrest
    exact absurd rfl (ht rfl)
  · rename_i y rest _ hrest
    rw [h] at hrest
    cases hrest
    rw [if_pos hx]
  · rename_i hrest
    rw [h] at hrest
    cases hrest

/-- The end of a line is passed as a whole. -/
theorem passes_skipBreak (h : c.rest = x :: t) (hx : isBreak x = true)
    (ht : x = '\r' → t.head? ≠ some '\n') : Passes [x] c c.skipBreak.2 := by
  rw [skipBreak_eq h hx ht]
  exact ⟨h, rfl, Nat.le_succ _, by simp [hx], by simp [hx], nofun⟩

/-- A carriage return and a line feed are passed together. -/
theorem passes_skipBreak_two (h : c.rest = '\r' :: '\n' :: t) :
    Passes ['\r', '\n'] c c.skipBreak.2 := by
  have hskip : c.skipBreak.2 = ⟨t, c.index + 2, c.line + 1, 0⟩ := by
    unfold skipBreak
    rw [h]
    rfl
  rw [hskip]
  exact ⟨h, rfl, Nat.le_succ _, by simp [isBreak], by simp [isBreak], nofun⟩

/-- The end of a line is passed with a line feed that belongs to it. -/
theorem exists_passes_skipBreak (h : c.rest = x :: (s ++ t)) (hx : isBreak x = true)
    (ht : t.head? ≠ some '\n') :
    ∃ ends left, s = ends ++ left ∧ (∀ y ∈ ends, isBreak y = true) ∧
      Passes (x :: ends) c c.skipBreak.2 := by
  by_cases htwo : x = '\r' ∧ s.head? = some '\n'
  · obtain ⟨rfl, hs⟩ := htwo
    obtain ⟨left, rfl⟩ := List.head?_eq_some_iff.mp hs
    exact ⟨['\n'], left, rfl, by simp [isBreak], passes_skipBreak_two h⟩
  · refine ⟨[], s, rfl, by simp, passes_skipBreak h hx ?_⟩
    rintro rfl hhead
    cases s with
    | nil => exact ht hhead
    | cons y s => exact htwo ⟨rfl, hhead⟩

/-- What comes next is the first character of what is still to be read. -/
theorem satisfies_zero (c : Cursor) (p : Char → Bool) : c.satisfies 0 p = c.rest.head?.any p := by
  unfold satisfies peek
  rw [List.head?_eq_getElem?]

/-- What comes behind the next character. -/
theorem satisfies_one {y : Char} (h : c.rest = x :: y :: t) (p : Char → Bool) :
    c.satisfies 1 p = p y := by
  simp [satisfies, peek, h]

/-- Whether the next character is a space or the end of a line. -/
theorem isVoidAt_zero (h : c.rest = x :: t) : c.isVoidAt 0 = isVoid x := by
  simp [isVoidAt, peek, h, isVoid]

/-- Whether the one behind it is. -/
theorem isVoidAt_one {y : Char} (h : c.rest = x :: y :: t) : c.isVoidAt 1 = isVoid y := by
  simp [isVoidAt, peek, h, isVoid]

/-- A line is no mark between documents unless it begins with dashes or points. -/
theorem atDocumentMark_eq_false (h : c.rest = x :: t)
    (hdash : x = '-' → t.head? ≠ some '-') (hpoint : x ≠ '.') : c.atDocumentMark = false := by
  have hdashes : Text.after? "---".toList c.rest = none := by
    by_cases hx : x = '-'
    · subst hx
      cases t with
      | nil => simp [Text.after?, h]
      | cons y t =>
        have hy : y ≠ '-' := by rintro rfl; exact hdash rfl rfl
        simp [Text.after?, h, Ne.symm hy]
    · simp [Text.after?, h, Ne.symm hx]
  have hpoints : Text.after? "...".toList c.rest = none := by simp [Text.after?, h, Ne.symm hpoint]
  rw [atDocumentMark, hdashes, hpoints]
  exact Bool.and_false _

end Cursor

/-! ## Gaps -/

/-- What the end of a line stands for. -/
def breakText (x : Char) : Char :=
  if x.toNat == 0x2028 || x.toNat == 0x2029 then x else '\n'

/-- A gap with one more character, a space or the end of a line. -/
def Gap.add (gap : Gap) (x : Char) : Gap :=
  if isBreak x then
    if gap.isBroken then { gap with others := gap.others ++ [breakText x] }
    else { isBroken := true, first := [breakText x] }
  else if gap.isBroken then gap
  else { gap with spaces := gap.spaces ++ [x] }

/-- The end of a line is neither a space nor a tab. -/
theorem isSpacing_of_isBreak {x : Char} (h : isBreak x = true) : isSpacing x = false := by
  rw [Bool.eq_false_iff]
  intro hspacing
  simp only [isSpacing, Bool.or_eq_true, beq_iff_eq] at hspacing
  rcases hspacing with rfl | rfl <;> exact absurd h (by decide)

/-- Where no gap goes on, none is read. -/
theorem readGap_end (margin : Int) (fuel : Nat) (gap : Gap) {c : Cursor}
    (h : ∀ x ∈ c.rest.head?, isVoid x = false) : readGap margin fuel gap c = .ok (gap, c) := by
  cases fuel with
  | zero => rfl
  | succ fuel =>
    have hend : c.rest.head?.any isSpacing = false ∧ c.rest.head?.any isBreak = false := by
      cases hhead : c.rest.head? with
      | none => exact ⟨rfl, rfl⟩
      | some x => simpa [isVoid] using h x hhead
    simp only [readGap, Scan.bind_apply, Scan.get_apply, Cursor.satisfies_zero, hend.1, hend.2]
    rfl

/-- A space or a tab is added to the gap, where tabs do not matter for the indentation. -/
theorem readGap_space {margin : Int} (hmargin : margin ≤ 0) (fuel : Nat) (gap : Gap) {x : Char}
    {t : List Char} {c : Cursor} (h : c.rest = x :: t) (hvoid : isVoid x = true)
    (hbreak : isBreak x = false) :
    readGap margin (fuel + 1) gap c = readGap margin fuel (gap.add x) (c.skip 1) := by
  have hspacing : isSpacing x = true := by simpa [isVoid, hbreak] using hvoid
  have hnot : ¬ (c.column : Int) < margin := by omega
  simp [readGap, Scan.bind_apply, Scan.get_apply, Scan.skip_apply, Cursor.satisfies_zero, h,
    hspacing, hnot, Gap.add, hbreak]

/-- The gap with the text of one more end of a line. -/
def Gap.addBreak (gap : Gap) (text : List Char) : Gap :=
  if gap.isBroken then { gap with others := gap.others ++ text }
  else { isBroken := true, first := text }

/-- The end of a line is added to the gap as the text that it stands for. -/
theorem readGap_break (margin : Int) (fuel : Nat) (gap : Gap) {x : Char} {t : List Char}
    {c : Cursor} (h : c.rest = x :: t) (hbreak : isBreak x = true) :
    readGap margin (fuel + 1) gap c =
      readGap margin fuel (gap.addBreak c.skipBreak.1) c.skipBreak.2 := by
  simp [readGap, Scan.bind_apply, Scan.get_apply, Scan.takeBreak_apply, Cursor.satisfies_zero, h,
    hbreak, isSpacing_of_isBreak hbreak, Gap.addBreak]

/-- A gap is read up to where it ends. Where tabs do not matter for the indentation, this cannot
fail; unless lines end with two characters, every character of the gap is added. -/
theorem readGap_apply (gap : Gap) {margin : Int} (hmargin : margin ≤ 0) {fuel : Nat}
    {g t : List Char} {c : Cursor} (h : c.rest = g ++ t) (hg : ∀ x ∈ g, isVoid x = true)
    (ht : ∀ x ∈ t.head?, isVoid x = false) (hfuel : g.length < fuel) :
    ∃ gap' c', readGap margin fuel gap c = .ok (gap', c') ∧ Cursor.Passes g c c' ∧
      ('\r' ∉ g → gap' = g.foldl Gap.add gap) := by
  -- The induction is on the fuel, since the end of a line may take two characters of the gap.
  induction fuel generalizing g gap c with
  | zero => exact absurd hfuel (Nat.not_lt_zero _)
  | succ fuel ih =>
    cases g with
    | nil =>
      rw [List.nil_append] at h
      exact ⟨gap, c, readGap_end margin _ gap (h ▸ ht), .refl c, fun _ => rfl⟩
    | cons x g =>
      rw [List.forall_mem_cons] at hg
      rw [List.length_cons] at hfuel
      cases hbreak : isBreak x with
      | false =>
        have hpass : Cursor.Passes [x] c (c.skip 1) := Cursor.passes_skip h (by simp [hbreak])
        obtain ⟨gap', c', hread, hpasses, hgap⟩ := ih (gap.add x) (c := c.skip 1)
          (by simp [Cursor.skip, h]) hg.2 (by omega)
        exact ⟨gap', c', (readGap_space hmargin fuel gap h hg.1 hbreak).trans hread,
          hpass.trans hpasses, fun hr => hgap fun hm => hr (.tail _ hm)⟩
      | true =>
        have hround := readGap_break margin fuel gap h hbreak
        by_cases htwo : x = '\r' ∧ g.head? = some '\n'
        · -- The two characters are read together.
          obtain ⟨rfl, hg'⟩ := htwo
          obtain ⟨g, rfl⟩ := List.head?_eq_some_iff.mp hg'
          rw [List.forall_mem_cons] at hg
          rw [List.length_cons] at hfuel
          have hpass := Cursor.passes_skipBreak_two h
          obtain ⟨gap', c', hread, hpasses, -⟩ := ih (gap.addBreak c.skipBreak.1)
            (c := c.skipBreak.2) (by simpa using hpass.rest.symm.trans h) hg.2.2 (by omega)
          exact ⟨gap', c', hround.trans hread, hpass.trans hpasses,
            fun hr => absurd List.mem_cons_self hr⟩
        · have hone : x = '\r' → (g ++ t).head? ≠ some '\n' := by
            rintro hx hhead
            cases g with
            | nil => exact absurd (ht _ hhead) (by decide)
            | cons y g => exact htwo ⟨hx, hhead⟩
          have hpass := Cursor.passes_skipBreak h hbreak hone
          have hadd : gap.addBreak c.skipBreak.1 = gap.add x := by
            rw [Cursor.skipBreak_eq h hbreak hone, Gap.add, if_pos hbreak]
            rfl
          rw [hadd] at hround
          obtain ⟨gap', c', hread, hpasses, hgap⟩ := ih (gap.add x) (c := c.skipBreak.2)
            (by simpa using hpass.rest.symm.trans h) hg.2 (by omega)
          exact ⟨gap', c', hround.trans hread, hpass.trans hpasses,
            fun hr => hgap fun hm => hr (.tail _ hm)⟩

end BrowserFlow.Yaml
