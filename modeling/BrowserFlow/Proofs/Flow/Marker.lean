import BrowserFlow.Proofs.Flow.Writing

/-!
# Ordinal markers

The ordinal of a step is looked at twice: when the flow is read, to find the steps and their
numbers, and when a step is executed, to take the marker off its sentence. Each goes through the
line by itself, and both find the same marker. `Step.Marks` says what one is, by the text alone:
ASCII digits, at least one, with a point right behind them. `Step.marked_alike` says that a line is
a step exactly if it has one, that the number is that of the digits, or the greatest one if it is
too great, and that the sentence is what stands behind the point; behind it there may be another
marker, which stays.
-/

namespace BrowserFlow

open Text

namespace Step

/-- A line consists of an ordinal marker with these digits, and of a rest. -/
structure Marks (digits rest line : List Char) : Prop where
  /-- There is a digit. -/
  ne_nil : digits ≠ []
  /-- The digits are ASCII digits. -/
  isDigit : ∀ c ∈ digits, isAsciiDigit c = true
  /-- A point stands between them and the rest. -/
  line_eq : line = digits ++ '.' :: rest

/-- The ordinal that digits denote, the last one being the units: the greatest ordinal stands for
all that are greater. -/
def ordinalOf (digits : List Char) : Nat :=
  min (Nat.ofDigits 10 (digits.reverse.map digitValue)) (2 ^ 32 - 1)

variable {digits rest line : List Char}

/-- A step line is a line with a marker. -/
theorem startsLine_iff_marks : StartsLine line ↔ ∃ digits rest, Marks digits rest line := by
  constructor
  · rintro ⟨digits, rest, hne, hdigits, hline⟩
    exact ⟨digits, rest, hne, hdigits, hline⟩
  · rintro ⟨digits, rest, h⟩
    exact ⟨digits, rest, h.ne_nil, h.isDigit, h.line_eq⟩

/-- The digits of a marker are all the digits that the line starts with, and the rest is what stands
behind the point. -/
theorem Marks.scanned (h : Marks digits rest line) : line.takeWhile isAsciiDigit = digits ∧
    line.drop (digits.length + 1) = rest := by
  rw [h.line_eq]
  refine ⟨takeWhile_append_point rest h.isDigit, ?_⟩
  rw [← List.drop_drop, List.drop_left]
  rfl

/-- A line has one marker only. -/
theorem Marks.unique {digits' rest' : List Char} (h : Marks digits rest line)
    (h' : Marks digits' rest' line) : digits' = digits ∧ rest' = rest := by
  obtain ⟨rfl, rfl⟩ := h.scanned
  obtain ⟨rfl, rfl⟩ := h'.scanned
  exact ⟨rfl, rfl⟩

/-- The number of a line with a marker is that of its digits. -/
theorem Marks.ordinal_eq (h : Marks digits rest line) :
    ∃ n, (ofLine? line).map (·.ordinal) = some n ∧ n.toNat = ordinalOf digits := by
  refine ⟨UInt32.ofNat (min (numberOf digits) (UInt32.size - 1)), ?_, ?_⟩
  · rw [h.line_eq, ofLine?, leadingOrdinal?_append rest h.ne_nil h.isDigit]
    rfl
  · rw [UInt32.toNat_ofNat_of_lt' (by simp [UInt32.size]), numberOf_eq_ofDigits]
    rfl

/-- A line has the number of its marker, and none without one. -/
theorem ordinal_eq_some_iff (line : List Char) (n : UInt32) :
    (ofLine? line).map (·.ordinal) = some n ↔
      ∃ digits rest, Marks digits rest line ∧ n.toNat = ordinalOf digits := by
  constructor
  · intro h
    have hread : (ofLine? line).isSome = true := Option.isSome_map.symm.trans (by rw [h]; rfl)
    obtain ⟨digits, rest, hmarks⟩ := startsLine_iff_marks.mp ((ofLine?_isSome_iff line).mp hread)
    obtain ⟨m, hm, hvalue⟩ := hmarks.ordinal_eq
    obtain rfl := Option.some.inj (h.symm.trans hm)
    exact ⟨digits, rest, hmarks, hvalue⟩
  · rintro ⟨digits, rest, hmarks, hvalue⟩
    obtain ⟨m, hm, hvalue'⟩ := hmarks.ordinal_eq
    rw [hm, UInt32.toNat_inj.mp (hvalue'.trans hvalue.symm)]

/-- The marker of a line is taken off, with the blanks behind it. -/
theorem Marks.stripOrdinal_eq {line : String} (h : Marks digits rest (trim line.toList)) :
    stripOrdinal line = String.ofList (trimStart rest) := by
  obtain ⟨hpos, hpoint⟩ := (startsLine_iff _).mp (startsLine_iff_marks.mpr ⟨_, _, h⟩)
  obtain ⟨hdigits, hrest⟩ := h.scanned
  rw [hdigits] at hpos hpoint
  simp only [stripOrdinal, hdigits, hpos, hpoint, hrest, decide_true, beq_self_eq_true,
    Bool.and_true, if_true]

/-- A line without a marker is only trimmed. -/
theorem stripOrdinal_of_not_startsLine {line : String} (h : ¬ StartsLine (trim line.toList)) :
    stripOrdinal line = String.ofList (trim line.toList) := by
  rw [startsLine_iff] at h
  exact if_neg (by simpa using h)

/-- Finding the number of a line and taking its marker off agree. -/
structure MarkedAlike (line : String) : Prop where
  /-- There is a number exactly if the trimmed line has a marker, and it is that of the digits. -/
  ordinal_iff : ∀ n : UInt32, (ofLine? (trim line.toList)).map (·.ordinal) = some n ↔
    ∃ digits rest, Marks digits rest (trim line.toList) ∧ n.toNat = ordinalOf digits
  /-- Then what stands behind the point remains, blanks in front of it left out. -/
  stripped : ∀ digits rest, Marks digits rest (trim line.toList) →
    stripOrdinal line = String.ofList (trimStart rest)
  /-- Otherwise the trimmed line remains as it is. -/
  kept : (∀ digits rest, ¬ Marks digits rest (trim line.toList)) →
    stripOrdinal line = String.ofList (trim line.toList)

end Step

/-- The steps of some groups have a marker each, and their sentences are what stands behind it. -/
def Flow.Unmarked (groups : List Group) : Prop :=
  ∀ group ∈ groups, ∀ step ∈ group.steps, ∃ digits rest,
    Step.Marks digits rest step.line.toList ∧ step.ordinal.toNat = Step.ordinalOf digits ∧
      step.sentence = String.ofList (trimStart rest)

/-- A step that can be written has a marker, which its sentence is without. -/
theorem Step.WellFormed.exists_marks {step : Step} (h : step.WellFormed) : ∃ digits rest,
    Step.Marks digits rest step.line.toList ∧ step.ordinal.toNat = Step.ordinalOf digits ∧
      step.sentence = String.ofList (trimStart rest) := by
  obtain ⟨digits, rest, hne, hdigits, hline, hordinal⟩ := h.marked
  have hmarks : Step.Marks digits rest step.line.toList := ⟨hne, hdigits, hline⟩
  refine ⟨digits, rest, hmarks, hordinal, ?_⟩
  exact Step.Marks.stripOrdinal_eq (h.trimmed.symm ▸ hmarks)

/-- A line's number is found and its marker is taken off by the same marker, so that the steps of a
flow have theirs, and only the first one, taken off in their sentences. -/
theorem Step.marked_alike (line text : String) :
    Step.MarkedAlike line ∧ Flow.Unmarked (Flow.read text) := by
  refine ⟨⟨ordinal_eq_some_iff _, fun _ _ h => h.stripOrdinal_eq, fun h => ?_⟩, ?_⟩
  · refine stripOrdinal_of_not_startsLine fun hstarts => ?_
    obtain ⟨digits, rest, hmarks⟩ := startsLine_iff_marks.mp hstarts
    exact h digits rest hmarks
  · intro group hgroup step hstep
    exact (((Flow.wellFormed_read text).groups group hgroup).steps step hstep).exists_marks

-- Only the first of two markers is taken off, and a digit of another script makes none.
example : stripOrdinal " 007.  2. Volte " = "2. Volte" ∧ stripOrdinal "٣. Volte" = "٣. Volte" := by
  decide +kernel

end BrowserFlow
