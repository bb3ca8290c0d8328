import BrowserFlow.Proofs.Yaml.Passing

/-!
# Words as plain scalars

A word between brackets, with blanks and a mark behind it, is read as a plain scalar of that text
(`readPlain_apply`). The blanks belong to what is read: the reader looks behind them whether the
scalar goes on, and where a mark comes it does not go on.
-/

namespace BrowserFlow.Yaml

variable {c : Cursor} {word gap t : List Char} {x : Char}

/-- A character of a word: it ends none. -/
def isWordChar (x : Char) : Bool :=
  !isVoid x && x != ':' && !isFlowMark x

/-- A word is read up to a blank or a mark. -/
theorem readPlainPart_apply {fuel : Nat} (hword : ∀ y ∈ word, isWordChar y = true)
    (hx : isVoid x = true ∨ isFlowMark x = true) (hrest : c.rest = word ++ x :: t)
    (hfuel : word.length < fuel) :
    ∃ c', readPlainPart true fuel c = .ok (word, c') ∧ Cursor.Passes word c c' := by
  induction word generalizing c fuel with
  | nil =>
    cases fuel with
    | zero => exact absurd hfuel (Nat.not_lt_zero _)
    | succ fuel =>
      rw [List.nil_append] at hrest
      refine ⟨c, ?_, .refl c⟩
      simp only [readPlainPart, Scan.bind_apply, Scan.get_apply, hrest, Cursor.isVoidAt_zero hrest]
      obtain hvoid | hmark := hx
      · -- A blank ends the part, and so does a mark.
        rw [hvoid]
        rfl
      · have hcolon : (x == ':') = false := by
          rw [beq_eq_false_iff_ne]
          rintro rfl
          cases hmark
        rw [hmark, hcolon]
        cases isVoid x <;> rfl
  | cons y word ih =>
    cases fuel with
    | zero => exact absurd hfuel (Nat.not_lt_zero _)
    | succ fuel =>
      rw [List.forall_mem_cons] at hword
      rw [List.length_cons] at hfuel
      rw [List.cons_append] at hrest
      simp only [isWordChar, Bool.and_eq_true, Bool.not_eq_true', bne_iff_ne, ne_eq] at hword
      obtain ⟨⟨⟨hvoid, hcolon⟩, hmark⟩, hword⟩ := hword
      -- A character of a word is neither, so that it is read.
      have hpass : Cursor.Passes [y] c (c.skip 1) := Cursor.passes_skip hrest
        (List.forall_mem_singleton.mpr (Bool.or_eq_false_iff.mp hvoid).2)
      obtain ⟨c', hread, hpasses⟩ := ih (c := c.skip 1) (by simpa [isWordChar] using hword)
        (by simp [Cursor.skip, hrest]) (Nat.lt_of_succ_lt_succ hfuel)
      refine ⟨c', ?_, hpass.trans hpasses⟩
      simp only [readPlainPart, Scan.bind_apply, Scan.get_apply, hrest, Cursor.isVoidAt_zero hrest,
        hvoid, beq_eq_false_iff_ne.mpr hcolon, hmark, Bool.and_false, Bool.false_and, Bool.or_false,
        Bool.false_eq_true, if_false, Scan.skip_apply, hread]
      rfl

/-- One round of reading a plain scalar between brackets: a part, and the gap behind it. -/
theorem readPlainParts_round (fuel : Nat) (text : List Char) (gap : Gap) {part : List Char}
    {next : List Char × Gap} {c₁ : Cursor} (hmark : c.atDocumentMark = false)
    (hcomment : c.isAt '#' = false)
    (hpart : readPlainPart true (c.rest.length + 1) c = .ok (part, c₁))
    (hnext : (if part.isEmpty then (text, gap) else (text ++ gap.folded ++ part, {})) = next) :
    readPlainParts true 0 (fuel + 1) text gap c =
      if c₁.atEnd || !c₁.isVoidAt 0 then .ok ((next.1, next.2.isBroken), c₁)
      else match readGap 0 (c₁.rest.length + 1) next.2 c₁ with
        | .ok (gap', c₂) => readPlainParts true 0 fuel next.1 gap' c₂
        | .error e => .error e := by
  simp only [readPlainParts, Scan.bind_apply, Scan.get_apply, hmark, hcomment, Bool.or_false,
    Bool.false_eq_true, if_false, hpart, hnext]
  cases c₁.atEnd || !c₁.isVoidAt 0 with
  | true => rfl
  | false =>
    simp only [Bool.false_eq_true, if_false, Scan.bind_apply]
    cases readGap 0 (c₁.rest.length + 1) next.2 c₁ <;> rfl

/-- A mark is no part of a word. -/
theorem isVoid_of_isFlowMark (hx : isFlowMark x = true) : isVoid x = false := by
  simp only [isFlowMark, Bool.or_eq_true, beq_iff_eq] at hx
  obtain (((rfl | rfl) | rfl) | rfl) | rfl := hx <;> rfl

/-- At a mark the scalar does not go on. -/
theorem readPlainParts_mark (fuel : Nat) (text : List Char) (gap : Gap) (hx : isFlowMark x = true)
    (hrest : c.rest = x :: t) :
    readPlainParts true 0 (fuel + 1) text gap c = .ok ((text, gap.isBroken), c) := by
  have hdash : x ≠ '-' := by rintro rfl; cases hx
  have hpoint : x ≠ '.' := by rintro rfl; cases hx
  have hcomment : x ≠ '#' := by rintro rfl; cases hx
  have hword : ∀ y ∈ ([] : List Char), isWordChar y = true := nofun
  obtain ⟨c', hpart, hnone⟩ := readPlainPart_apply hword (.inr hx) hrest
    (Nat.succ_pos c.rest.length)
  rw [hnone.eq_of_nil rfl] at hpart
  refine (readPlainParts_round fuel text gap
    (Cursor.atDocumentMark_eq_false hrest (fun h => absurd h hdash) hpoint)
    (by simp [Cursor.isAt, Cursor.peek, hrest, hcomment]) hpart
    (show _ = (text, gap) from rfl)).trans ?_
  rw [Cursor.isVoidAt_zero hrest, isVoid_of_isFlowMark hx, Bool.not_false, Bool.or_true]
  rfl

/-- A word with the blanks behind it is read up to a mark. -/
theorem readPlain_apply (hword : ∀ y ∈ word, isWordChar y = true) (hne : word ≠ [])
    (hgap : ∀ y ∈ gap, isVoid y = true) (hx : isFlowMark x = true)
    (hrest : c.rest = word ++ (gap ++ x :: t)) (hmark : c.atDocumentMark = false)
    (hcomment : c.isAt '#' = false) :
    ∃ c' broken, readPlain true (-1) c = .ok ((word, broken), c') ∧
      Cursor.Passes (word ++ gap) c c' := by
  obtain ⟨first, word', rfl⟩ := List.exists_cons_of_ne_nil hne
  have hend : isVoid x = false := isVoid_of_isFlowMark hx
  obtain ⟨y, t', hcons, hy⟩ : ∃ y t', gap ++ x :: t = y :: t' ∧
      (isVoid y = true ∨ isFlowMark y = true) := by
    cases gap with
    | nil => exact ⟨x, t, rfl, .inr hx⟩
    | cons y gap => exact ⟨y, gap ++ x :: t, rfl, .inl (hgap y List.mem_cons_self)⟩
  -- The word ends where the blanks or the mark come.
  have hlength : (first :: word').length < c.rest.length + 1 := by
    rw [hrest, List.length_append]
    omega
  obtain ⟨c₁, hpart, hpass⟩ := readPlainPart_apply hword hy (hcons ▸ hrest) hlength
  have hrest₁ : c₁.rest = gap ++ x :: t := List.append_cancel_left (hpass.rest.symm.trans hrest)
  have hround := readPlainParts_round c.rest.length [] {} hmark hcomment hpart
    (show _ = (first :: word', ({} : Gap)) from rfl)
  have hatEnd : c₁.atEnd = false := by simp [Cursor.atEnd, hrest₁]
  rw [hatEnd, Bool.false_or] at hround
  cases gap with
  | nil =>
    refine ⟨c₁, false, ?_, by simpa using hpass⟩
    rw [Cursor.isVoidAt_zero hrest₁, hend] at hround
    exact hround
  | cons z gap =>
    -- Only behind the blanks is it seen that nothing more belongs to it.
    have hlength₁ : (z :: gap).length < c₁.rest.length + 1 := by
      rw [hrest₁, List.length_append]
      omega
    obtain ⟨gap', c₂, hread, hpasses, -⟩ := readGap_apply {} (Int.le_refl 0) hrest₁ hgap
      (by rintro _ ⟨⟩; exact hend) hlength₁
    have hrest₂ : c₂.rest = x :: t := List.append_cancel_left (hpasses.rest.symm.trans hrest₁)
    refine ⟨c₂, gap'.isBroken, ?_, hpass.trans hpasses⟩
    rw [Cursor.isVoidAt_zero (List.cons_append ▸ hrest₁), hgap z List.mem_cons_self, hread]
      at hround
    obtain ⟨fuel, hfuel⟩ := Nat.exists_eq_succ_of_ne_zero (n := c.rest.length) (by simp [hrest])
    refine hround.trans ?_
    rw [hfuel]
    exact readPlainParts_mark fuel (first :: word') gap' hx hrest₂

end BrowserFlow.Yaml
