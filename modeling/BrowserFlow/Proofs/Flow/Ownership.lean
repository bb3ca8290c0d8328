import BrowserFlow.Flow

/-!
# Which heading a step belongs to

Reading a flow loses no step, doubles none and puts none under a wrong name. The reference speaks of
the positions of lines alone: a step line starts with an ordinal, and it is owned by the nearest
heading above it, or by the name for steps above every heading. `Flow.Filed` says that some groups
hold the owned step lines in order, and `Flow.read_filed` that the groups of a text do.

The reading goes line by line and files the steps under a heading only at the next one. Its
invariant, `Flow.Reading.Holds`, is therefore about the groups that there would be if what has been
gathered were filed at once, and about the name that owns the next line.
-/

namespace BrowserFlow

open Text

/-! ## Step lines -/

namespace Step

/-- A line starts with an ordinal: ASCII digits, at least one, and a point right behind them. -/
def StartsLine (line : List Char) : Prop :=
  ∃ digits rest, digits ≠ [] ∧ (∀ c ∈ digits, isAsciiDigit c = true) ∧ line = digits ++ '.' :: rest

/-- The digits of an ordinal are all the digits that a line starts with. -/
theorem takeWhile_append_point {digits : List Char} (rest : List Char)
    (hdigits : ∀ c ∈ digits, isAsciiDigit c = true) :
    (digits ++ '.' :: rest).takeWhile isAsciiDigit = digits := by
  have hpoint : isAsciiDigit '.' = false := by decide
  rw [List.takeWhile_append_of_pos hdigits, List.takeWhile_cons_of_neg (by simp [hpoint]),
    List.append_nil]

/-- A line that goes on with a point behind its first digits consists of them, the point, and the
rest. -/
theorem eq_append_of_point {line : List Char}
    (hpoint : (line.drop (line.takeWhile isAsciiDigit).length).head? = some '.') :
    line = line.takeWhile isAsciiDigit ++
      '.' :: line.drop ((line.takeWhile isAsciiDigit).length + 1) := by
  obtain ⟨rest, hrest⟩ := List.head?_eq_some_iff.mp hpoint
  have htake : line.take (line.takeWhile isAsciiDigit).length = line.takeWhile isAsciiDigit :=
    (List.prefix_iff_eq_take.mp (List.takeWhile_prefix _)).symm
  have htail : line.drop ((line.takeWhile isAsciiDigit).length + 1) = rest := by
    rw [← List.drop_drop, hrest]
    rfl
  calc line = line.take _ ++ line.drop _ := (List.take_append_drop _ line).symm
    _ = line.takeWhile isAsciiDigit ++ '.' :: rest := by rw [htake, hrest]
    _ = _ := by rw [htail]

/-- A line starts with an ordinal exactly if it starts with digits and a point follows them. -/
theorem startsLine_iff (line : List Char) : StartsLine line ↔
    0 < (line.takeWhile isAsciiDigit).length ∧
      (line.drop (line.takeWhile isAsciiDigit).length).head? = some '.' := by
  constructor
  · rintro ⟨digits, rest, hne, hdigits, rfl⟩
    rw [takeWhile_append_point rest hdigits, List.drop_left]
    exact ⟨List.length_pos_iff.mpr hne, rfl⟩
  · rintro ⟨hpos, hpoint⟩
    exact ⟨line.takeWhile isAsciiDigit, _, List.ne_nil_of_length_pos hpos,
      fun c hc => List.all_eq_true.mp List.all_takeWhile c hc, eq_append_of_point hpoint⟩

/-- The ordinal is what the digits denote, or the greatest one if they denote too much. -/
theorem leadingOrdinal?_append {digits : List Char} (rest : List Char) (hne : digits ≠ [])
    (hdigits : ∀ c ∈ digits, isAsciiDigit c = true) : leadingOrdinal? (digits ++ '.' :: rest) =
      some (UInt32.ofNat (min (numberOf digits) (UInt32.size - 1))) := by
  have hnumber : natural? digits = some (numberOf digits) := by
    simpa [natural?, hne] using hdigits
  have hparse : (parseOrdinal? digits).getD (UInt32.ofNat (UInt32.size - 1)) =
      UInt32.ofNat (min (numberOf digits) (UInt32.size - 1)) := by
    simp only [parseOrdinal?, hnumber]
    split
    · next hfits => rw [Option.getD_some, Nat.min_eq_left (Nat.le_sub_one_of_lt hfits)]
    · next hlarge =>
      rw [Option.getD_none,
        Nat.min_eq_right (Nat.le_trans (Nat.sub_le _ _) (Nat.not_lt.mp hlarge))]
  simp only [leadingOrdinal?, takeWhile_append_point rest hdigits, List.take_left, List.drop_left,
    hparse]
  simp [hne]

/-- A line is read as a step exactly if it starts with an ordinal. -/
theorem ofLine?_isSome_iff (line : List Char) :
    (ofLine? line).isSome = true ↔ StartsLine line := by
  rw [startsLine_iff, ofLine?, Option.isSome_map]
  simp only [leadingOrdinal?]
  split
  · next hnone =>
    have hnot : ¬ (0 < (line.takeWhile isAsciiDigit).length ∧
        (line.drop (line.takeWhile isAsciiDigit).length).head? = some '.') := by
      rintro ⟨hpos, hpoint⟩
      simp [hpoint, Nat.ne_of_gt hpos] at hnone
    simpa using hnot
  · next hsome => simpa [Nat.pos_iff_ne_zero] using hsome

/-- A step keeps the line that it was read from. -/
theorem line_of_ofLine? {line : List Char} {step : Step} (h : ofLine? line = some step) :
    step.line = String.ofList line := by
  simp only [ofLine?, Option.map_eq_some_iff] at h
  obtain ⟨_, _, rfl⟩ := h
  rfl

/-- A heading is no step. -/
theorem not_startsLine_heading (title : List Char) : ¬ StartsLine ('#' :: title) := by
  rintro ⟨digits, rest, hne, hdigits, heq⟩
  cases digits with
  | nil => exact hne rfl
  | cons c digits =>
    have hc := hdigits c (by simp)
    rw [← (List.cons.inj heq).1] at hc
    exact absurd hc (by decide)

end Step

namespace Flow

/-! ## Ownership by position -/

/-- There is a heading at a position. -/
def IsHeadingAt (lines : List (List Char)) (i : Nat) : Prop :=
  ∃ title, lines[i]? = some ('#' :: title)

/-- The line at a position, or what would come there, is owned by a name. -/
inductive Owns (lines : List (List Char)) (name : String) (i : Nat) : Prop
  /-- The nearest heading above has this name. -/
  | heading {j : Nat} {title : List Char} (above : j < i) (at_ : lines[j]? = some ('#' :: title))
    (nearest : ∀ k, j < k → k < i → ¬ IsHeadingAt lines k)
    (name_eq : name = String.ofList (trim title))
  /-- There is no heading above. -/
  | untitled (nowhere : ∀ k, k < i → ¬ IsHeadingAt lines k) (name_eq : name = untitled)

/-- At a position there is a step line that is owned by a name. -/
def IsOwned (lines : List (List Char)) (name : String) (i : Nat) : Prop :=
  (∃ line, lines[i]? = some line ∧ Step.StartsLine line) ∧ Owns lines name i

/-- The first step line of one name comes before all step lines of another one. -/
def ComesBefore (lines : List (List Char)) (name other : String) : Prop :=
  ∃ i, IsOwned lines name i ∧ ∀ j, IsOwned lines other j → i < j

/-- Some steps are those of the step lines that a name owns, in order. -/
def StepsOf (lines : List (List Char)) (name : String) (steps : List Step) : Prop :=
  ∃ positions : List Nat, positions.Pairwise (· < ·) ∧
    (∀ i, i ∈ positions ↔ IsOwned lines name i) ∧
    steps.map some = positions.map (fun i => lines[i]?.bind Step.ofLine?) ∧
    steps.map (·.line) = positions.map fun i => String.ofList (lines[i]?.getD [])

/-- The groups hold exactly the step lines, each under the name that owns it. -/
structure Filed (lines : List (List Char)) (groups : List Group) : Prop where
  /-- No two groups have the same name. -/
  names_nodup : (groups.map (·.name)).Nodup
  /-- No group is empty. -/
  steps_ne_nil : ∀ group ∈ groups, group.steps ≠ []
  /-- The steps of a group are those that its name owns. -/
  stepsOf : ∀ group ∈ groups, StepsOf lines group.name group.steps
  /-- Every name that owns a step line has a group. -/
  exists_group : ∀ name i, IsOwned lines name i → name ∈ groups.map (·.name)
  /-- The groups are in the order of their first step lines. -/
  ordered : (groups.map (·.name)).Pairwise (ComesBefore lines)

variable {lines : List (List Char)} {line : List Char} {name other : String} {i : Nat}

/-- Only headings above a position matter for it. -/
theorem isHeadingAt_concat (hi : i < lines.length) :
    IsHeadingAt (lines ++ [line]) i ↔ IsHeadingAt lines i := by
  unfold IsHeadingAt
  rw [List.getElem?_append_left hi]

/-- What comes behind a position does not change what owns it. -/
theorem owns_concat (hi : i ≤ lines.length) :
    Owns (lines ++ [line]) name i ↔ Owns lines name i := by
  constructor
  · rintro (⟨above, at_, nearest, name_eq⟩ | ⟨nowhere, name_eq⟩)
    · rw [List.getElem?_append_left (by omega)] at at_
      exact .heading above at_
        (fun k hj hk => mt (isHeadingAt_concat (by omega)).mpr (nearest k hj hk)) name_eq
    · exact .untitled (fun k hk => mt (isHeadingAt_concat (by omega)).mpr (nowhere k hk)) name_eq
  · rintro (⟨above, at_, nearest, name_eq⟩ | ⟨nowhere, name_eq⟩)
    · exact .heading above ((List.getElem?_append_left (by omega)).trans at_)
        (fun k hj hk => mt (isHeadingAt_concat (by omega)).mp (nearest k hj hk)) name_eq
    · exact .untitled (fun k hk => mt (isHeadingAt_concat (by omega)).mp (nowhere k hk)) name_eq

/-- A position is owned by one name only. -/
theorem Owns.unique (h : Owns lines name i) (h' : Owns lines other i) : name = other := by
  rcases h with @⟨j, title, above, at_, nearest, rfl⟩ | ⟨nowhere, rfl⟩
  · rcases h' with @⟨j', title', above', at_', nearest', rfl⟩ | ⟨nowhere', -⟩
    · -- Of two nearest headings neither can be below the other.
      rcases Nat.lt_trichotomy j j' with hlt | rfl | hlt
      · exact absurd ⟨title', at_'⟩ (nearest j' hlt above')
      · rw [at_] at at_'
        cases at_'
        rfl
      · exact absurd ⟨title, at_⟩ (nearest' j hlt above)
    · exact absurd ⟨title, at_⟩ (nowhere' j above)
  · rcases h' with @⟨j', title', above', at_', -, -⟩ | ⟨-, rfl⟩
    · exact absurd ⟨title', at_'⟩ (nowhere j' above')
    · rfl

/-- Behind a heading its name owns the next line. -/
theorem owns_heading (lines : List (List Char)) (title : List Char) :
    Owns (lines ++ ['#' :: title]) (String.ofList (trim title)) (lines.length + 1) := by
  refine .heading (Nat.lt_succ_self _) List.getElem?_concat_length ?_ rfl
  intro k hlow hhigh
  omega

/-- Behind any other line the next line has the same owner. -/
theorem Owns.succ (h : Owns lines name lines.length) (hline : ∀ title, line ≠ '#' :: title) :
    Owns (lines ++ [line]) name (lines.length + 1) := by
  -- The line that is added is no heading, so the nearest one above stays so.
  have hlast : ¬ IsHeadingAt (lines ++ [line]) lines.length := by
    rintro ⟨title, ht⟩
    rw [List.getElem?_concat_length] at ht
    exact hline title (Option.some.inj ht)
  have hconcat : Owns (lines ++ [line]) name lines.length := (owns_concat (Nat.le_refl _)).mpr h
  rcases hconcat with ⟨above, at_, nearest, name_eq⟩ | ⟨nowhere, name_eq⟩
  · refine .heading (Nat.lt_succ_of_lt above) at_ (fun k hj hk => ?_) name_eq
    rcases Nat.lt_succ_iff_lt_or_eq.mp hk with hk | rfl
    · exact nearest k hj hk
    · exact hlast
  · refine .untitled (fun k hk => ?_) name_eq
    rcases Nat.lt_succ_iff_lt_or_eq.mp hk with hk | rfl
    · exact nowhere k hk
    · exact hlast

/-- Only positions with a line are owned as steps. -/
theorem IsOwned.lt (h : IsOwned lines name i) : i < lines.length := by
  obtain ⟨⟨line, hline, -⟩, -⟩ := h
  exact (List.getElem?_eq_some_iff.mp hline).1

/-- One more line adds at most one owned step line. -/
theorem isOwned_concat : IsOwned (lines ++ [line]) name i ↔
    IsOwned lines name i ∨
      (i = lines.length ∧ Step.StartsLine line ∧ Owns lines name lines.length) := by
  -- A position is among the lines, at the new one, or behind it.
  rcases Nat.lt_trichotomy i lines.length with hlt | rfl | hlt
  · unfold IsOwned
    rw [owns_concat (Nat.le_of_lt hlt), List.getElem?_append_left hlt]
    simp [Nat.ne_of_lt hlt]
  · have hnot : ¬ IsOwned lines name lines.length := fun h => Nat.lt_irrefl _ h.lt
    simp only [hnot, false_or, true_and]
    unfold IsOwned
    rw [owns_concat (Nat.le_refl _), List.getElem?_concat_length]
    simp
  · have hnot : ¬ IsOwned lines name i := fun h => Nat.lt_asymm hlt h.lt
    have hnot' : ¬ IsOwned (lines ++ [line]) name i := by
      intro h
      have hi := h.lt
      rw [List.length_append, List.length_singleton] at hi
      omega
    simp [hnot, hnot', Nat.ne_of_gt hlt]

/-- One more line does not change which name comes first. -/
theorem ComesBefore.concat (h : ComesBefore lines name other) :
    ComesBefore (lines ++ [line]) name other := by
  obtain ⟨i, hi, hfirst⟩ := h
  refine ⟨i, isOwned_concat.mpr (.inl hi), fun j hj => ?_⟩
  rcases isOwned_concat.mp hj with hj | ⟨rfl, -⟩
  · exact hfirst j hj
  · exact hi.lt

/-! ## One more line -/

namespace StepsOf

/-- A name that owns no step line has no steps. -/
theorem nil (h : ∀ i, ¬ IsOwned lines name i) : StepsOf lines name [] :=
  ⟨[], .nil, fun i => iff_of_false (by simp) (h i), rfl, rfl⟩

/-- A name with steps owns a step line. -/
theorem exists_isOwned {steps : List Step} (h : StepsOf lines name steps) (hne : steps ≠ []) :
    ∃ i, IsOwned lines name i := by
  obtain ⟨positions, -, hmem, hsteps, -⟩ := h
  cases positions with
  | nil => exact absurd (List.map_eq_nil_iff.mp hsteps) hne
  | cons i positions => exact ⟨i, (hmem i).mp (by simp)⟩

/-- What is read off lines is the same with one more line behind them. -/
theorem map_concat {β : Type} {positions : List Nat} (h : ∀ i ∈ positions, i < lines.length)
    (f : Option (List Char) → β) :
    positions.map (fun i => f (lines ++ [line])[i]?) = positions.map fun i => f lines[i]? :=
  List.map_congr_left fun i hi => by rw [List.getElem?_append_left (h i hi)]

/-- One more line that is no step of a name does not change its steps. -/
theorem concat {steps : List Step} (h : StepsOf lines name steps)
    (hline : ¬ (Step.StartsLine line ∧ Owns lines name lines.length)) :
    StepsOf (lines ++ [line]) name steps := by
  obtain ⟨positions, hsorted, hmem, hsteps, htexts⟩ := h
  have hlt : ∀ i ∈ positions, i < lines.length := fun i hi => ((hmem i).mp hi).lt
  refine ⟨positions, hsorted, fun i => ?_, ?_, ?_⟩
  · rw [isOwned_concat, hmem]
    exact (or_iff_left fun hi => hline hi.2).symm
  · rw [hsteps, map_concat hlt fun line => line.bind Step.ofLine?]
  · rw [htexts, map_concat hlt fun line => String.ofList (line.getD [])]

/-- One more step line is one more step of the name that owns it. -/
theorem push {steps : List Step} {step : Step} (h : StepsOf lines name steps)
    (hstep : Step.ofLine? line = some step) (howns : Owns lines name lines.length) :
    StepsOf (lines ++ [line]) name (steps ++ [step]) := by
  obtain ⟨positions, hsorted, hmem, hsteps, htexts⟩ := h
  -- The line that is added comes last, and is the step that is added.
  have hlt : ∀ i ∈ positions, i < lines.length := fun i hi => ((hmem i).mp hi).lt
  have hline : Step.StartsLine line := (Step.ofLine?_isSome_iff line).mp (by simp [hstep])
  refine ⟨positions ++ [lines.length], ?_, fun i => ?_, ?_, ?_⟩
  · rw [List.pairwise_append]
    exact ⟨hsorted, List.pairwise_singleton _ _, fun i hi j hj =>
      List.mem_singleton.mp hj ▸ hlt i hi⟩
  · rw [isOwned_concat, List.mem_append, List.mem_singleton, hmem]
    exact or_congr_right ⟨fun hi => ⟨hi, hline, howns⟩, And.left⟩
  · rw [List.map_append, List.map_append, map_concat hlt fun line => line.bind Step.ofLine?, hsteps]
    simp [hstep]
  · rw [List.map_append, List.map_append, map_concat hlt fun line => String.ofList (line.getD []),
      htexts]
    simp [Step.line_of_ofLine? hstep]

end StepsOf

/-- A name without a group gets one at the end. -/
theorem addSteps_of_not_mem {steps : List Step} {groups : List Group}
    (h : name ∉ groups.map (·.name)) : addSteps name steps groups = groups ++ [⟨name, steps⟩] := by
  induction groups with
  | nil => rfl
  | cons group groups ih =>
    rw [List.map_cons, List.mem_cons, not_or] at h
    rw [addSteps, if_neg (by simpa using Ne.symm h.1), ih h.2, List.cons_append]

/-- The group of a name gets the steps at its end, and the others stay as they are. -/
theorem addSteps_append_cons {steps : List Step} {before after : List Group} {group : Group}
    (h : group.name ∉ before.map (·.name)) :
    addSteps group.name steps (before ++ group :: after) =
      before ++ { group with steps := group.steps ++ steps } :: after := by
  induction before with
  | nil => simp [addSteps]
  | cons first before ih =>
    rw [List.map_cons, List.mem_cons, not_or] at h
    rw [List.cons_append, addSteps, if_neg (by simpa using Ne.symm h.1), ih h.2, List.cons_append]

/-- Steps can be added at once or one after the other. -/
theorem addSteps_append (name : String) (steps more : List Step) (groups : List Group) :
    addSteps name (steps ++ more) groups = addSteps name more (addSteps name steps groups) := by
  induction groups with
  | nil => simp [addSteps]
  | cons group groups ih =>
    by_cases h : group.name = name
    · simp [addSteps, h]
    · simp [addSteps, h, ih]

namespace Filed

variable {groups : List Group}

/-- Of no lines there are no groups. -/
theorem nil : Filed [] [] where
  names_nodup := .nil
  steps_ne_nil := by simp
  stepsOf := by simp
  exists_group _ _ h := absurd h.lt (Nat.not_lt_zero _)
  ordered := .nil

/-- A line that is no step line changes nothing. -/
theorem skip (h : Filed lines groups) (hline : ¬ Step.StartsLine line) :
    Filed (lines ++ [line]) groups where
  names_nodup := h.names_nodup
  steps_ne_nil := h.steps_ne_nil
  stepsOf group hg := (h.stepsOf group hg).concat fun hl => hline hl.1
  exists_group name i hi := by
    rcases isOwned_concat.mp hi with hi | ⟨-, hl, -⟩
    · exact h.exists_group name i hi
    · exact absurd hl hline
  ordered := h.ordered.imp .concat

/-- A step line adds no other name than the one that owns it. -/
theorem mem_names_or_eq (h : Filed lines groups) (howns : Owns lines name lines.length)
    (hi : IsOwned (lines ++ [line]) other i) : other ∈ groups.map (·.name) ∨ other = name := by
  rcases isOwned_concat.mp hi with hi | ⟨-, -, hother⟩
  · exact .inl (h.exists_group other i hi)
  · exact .inr (hother.unique howns)

/-- A step line is no step of the groups with other names. -/
theorem stepsOf_concat (h : Filed lines groups) (howns : Owns lines name lines.length)
    {group : Group} (hg : group ∈ groups) (hne : group.name ≠ name) :
    StepsOf (lines ++ [line]) group.name group.steps :=
  (h.stepsOf group hg).concat fun hl => hne (hl.2.unique howns)

/-- The groups around a group have other names. -/
theorem name_ne {before after : List Group} {group other : Group}
    (h : Filed lines (before ++ group :: after)) (ho : other ∈ before ++ after) :
    other.name ≠ group.name := by
  have hnodup := h.names_nodup
  rw [List.map_append, List.map_cons, List.nodup_append, List.nodup_cons] at hnodup
  obtain ⟨-, ⟨hafter, -⟩, hbefore⟩ := hnodup
  rcases List.mem_append.mp ho with ho | ho
  · exact hbefore _ (List.mem_map_of_mem ho) _ (List.mem_cons_self ..)
  · exact fun heq => hafter (heq ▸ List.mem_map_of_mem ho)

/-- A step line whose name has a group goes to the end of that group. -/
theorem extend {before after : List Group} {group : Group} {step : Step}
    (h : Filed lines (before ++ group :: after)) (hstep : Step.ofLine? line = some step)
    (howns : Owns lines group.name lines.length) :
    Filed (lines ++ [line])
      (before ++ { group with steps := group.steps ++ [step] } :: after) := by
  have hmem : group ∈ before ++ group :: after := by simp
  have hsame : (before ++ { group with steps := group.steps ++ [step] } :: after).map (·.name) =
      (before ++ group :: after).map (·.name) := by
    simp
  -- Only the group of the line gets a step, and all others stay as they are.
  have hold (other : Group) (ho : other ∈ before ++ after) :
      other ∈ before ++ group :: after := by
    rcases List.mem_append.mp ho with ho | ho <;> simp [ho]
  have hnew (other : Group)
      (ho : other ∈ before ++ { group with steps := group.steps ++ [step] } :: after) :
      other = { group with steps := group.steps ++ [step] } ∨ other ∈ before ++ after := by
    rcases List.mem_append.mp ho with ho | ho
    · exact .inr (List.mem_append_left _ ho)
    · exact (List.mem_cons.mp ho).imp_right (List.mem_append_right _)
  refine ⟨hsame ▸ h.names_nodup, fun other ho => ?_, fun other ho => ?_, fun other i hi => ?_,
    hsame ▸ h.ordered.imp .concat⟩
  · rcases hnew other ho with rfl | ho
    · simp
    · exact h.steps_ne_nil other (hold other ho)
  · rcases hnew other ho with rfl | ho
    · exact (h.stepsOf group hmem).push hstep howns
    · exact h.stepsOf_concat howns (hold other ho) (h.name_ne ho)
  · rw [hsame]
    rcases h.mem_names_or_eq howns hi with ho | rfl
    · exact ho
    · exact List.mem_map_of_mem hmem

/-- A step line whose name has no group makes one at the end. -/
theorem new_group {step : Step} (h : Filed lines groups) (hstep : Step.ofLine? line = some step)
    (howns : Owns lines name lines.length) (hname : name ∉ groups.map (·.name)) :
    Filed (lines ++ [line]) (groups ++ [⟨name, [step]⟩]) := by
  have hnone (i : Nat) : ¬ IsOwned lines name i := fun hi => hname (h.exists_group name i hi)
  have hne (group : Group) (hg : group ∈ groups) : group.name ≠ name :=
    fun heq => hname (heq ▸ List.mem_map_of_mem hg)
  refine ⟨?_, ?_, ?_, fun other i hi => ?_, ?_⟩
  · rw [List.map_append, List.nodup_append]
    refine ⟨h.names_nodup, by simp, ?_⟩
    intro a ha b hb heq
    rw [List.map_singleton, List.mem_singleton] at hb
    rw [heq, hb] at ha
    exact hname ha
  · rw [List.forall_mem_append, List.forall_mem_singleton]
    exact ⟨h.steps_ne_nil, List.cons_ne_nil _ _⟩
  · rw [List.forall_mem_append, List.forall_mem_singleton]
    exact ⟨fun group hg => h.stepsOf_concat howns hg (hne group hg),
      (StepsOf.nil hnone).push hstep howns⟩
  · rw [List.map_append, List.mem_append]
    exact (h.mem_names_or_eq howns hi).imp_right fun heq => by simp [heq]
  · rw [List.map_append, List.pairwise_append]
    refine ⟨h.ordered.imp .concat, List.pairwise_singleton _ _, ?_⟩
    rintro _ hgroup _ hnew
    -- Every group so far has a step line, and the new group's only one is the last line.
    obtain ⟨group, hg, rfl⟩ := List.mem_map.mp hgroup
    rw [List.mem_singleton.mp hnew]
    obtain ⟨i, hi⟩ := (h.stepsOf group hg).exists_isOwned (h.steps_ne_nil group hg)
    refine ⟨i, isOwned_concat.mpr (.inl hi), fun j hj => ?_⟩
    rcases isOwned_concat.mp hj with hj | ⟨rfl, -⟩
    · exact absurd hj (hnone j)
    · exact hi.lt

/-- A step line is filed under the name that owns it. -/
theorem add {step : Step} (h : Filed lines groups) (hstep : Step.ofLine? line = some step)
    (howns : Owns lines name lines.length) :
    Filed (lines ++ [line]) (addSteps name [step] groups) := by
  by_cases hname : name ∈ groups.map (·.name)
  · obtain ⟨group, hg, rfl⟩ := List.mem_map.mp hname
    obtain ⟨before, after, rfl⟩ := List.append_of_mem hg
    have hbefore : group.name ∉ before.map (·.name) := by
      intro hb
      obtain ⟨other, ho, heq⟩ := List.mem_map.mp hb
      exact h.name_ne (List.mem_append_left _ ho) heq
    rw [addSteps_append_cons hbefore]
    exact h.extend hstep howns
  · rw [addSteps_of_not_mem hname]
    exact h.new_group hstep howns hname

end Filed

/-! ## Reading line by line -/

namespace Reading

/-- After filing there is nothing left to file. -/
theorem flush_buffer (reading : Reading) : reading.flush.buffer = [] := by
  unfold flush
  split
  · rename_i h
    exact List.isEmpty_iff.mp h
  · rfl

/-- Filing nothing changes nothing. -/
theorem flush_of_buffer_eq_nil {reading : Reading} (h : reading.buffer = []) :
    reading.flush = reading := by
  unfold flush
  rw [if_pos (by rw [h]; rfl)]

/-- A gathered step comes to be filed behind those gathered before. -/
theorem flush_push (reading : Reading) (step : Step) :
    ({ reading with buffer := reading.buffer ++ [step] } : Reading).flush.groups =
      addSteps reading.current [step] reading.flush.groups := by
  obtain ⟨groups, current, buffer⟩ := reading
  cases buffer with
  | nil => rfl
  | cons first buffer => exact addSteps_append current (first :: buffer) [step] groups

/-- A line that is a step and no heading is gathered. -/
theorem readLine_of_some {reading : Reading} {step : Step} (hline : ∀ title, line ≠ '#' :: title)
    (hstep : Step.ofLine? line = some step) :
    reading.readLine line = { reading with buffer := reading.buffer ++ [step] } := by
  unfold readLine
  split
  · exact absurd rfl (hline _)
  · rw [hstep]

/-- A line that is neither a step nor a heading is passed over. -/
theorem readLine_of_none {reading : Reading} (hline : ∀ title, line ≠ '#' :: title)
    (hstep : Step.ofLine? line = none) : reading.readLine line = reading := by
  unfold readLine
  split
  · exact absurd rfl (hline _)
  · rw [hstep]

/-- So many lines have been read: the steps among them would be filed if the gathered ones were
filed now, and the name in force owns the next line. -/
structure Holds (reading : Reading) (lines : List (List Char)) : Prop where
  /-- The gathered steps are all that is missing from the groups. -/
  filed : Filed lines reading.flush.groups
  /-- The next line belongs to the name in force. -/
  current : Owns lines reading.current lines.length

namespace Holds

/-- Before the first line nothing has been read. -/
theorem nil : Holds {} [] where
  filed := .nil
  current := .untitled (fun _ hk => absurd hk (Nat.not_lt_zero _)) rfl

/-- A heading files what has been gathered, and owns the next line. -/
theorem heading {reading : Reading} (h : reading.Holds lines) (title : List Char) :
    (reading.readLine ('#' :: title)).Holds (lines ++ ['#' :: title]) where
  filed := by
    have hflush : (reading.readLine ('#' :: title)).flush = reading.readLine ('#' :: title) :=
      flush_of_buffer_eq_nil reading.flush_buffer
    rw [hflush]
    exact h.filed.skip (Step.not_startsLine_heading title)
  current := by
    rw [List.length_append, List.length_singleton]
    exact owns_heading lines title

/-- Any other line is a step of the name in force or none, and leaves that name. -/
theorem of_not_heading {reading : Reading} (h : reading.Holds lines)
    (hline : ∀ title, line ≠ '#' :: title) :
    (reading.readLine line).Holds (lines ++ [line]) := by
  have hcurrent := h.current.succ hline
  rw [← List.length_singleton (a := line), ← List.length_append] at hcurrent
  -- The line is a step for the current group, or nothing.
  cases hstep : Step.ofLine? line with
  | some step =>
    rw [readLine_of_some hline hstep]
    refine ⟨?_, hcurrent⟩
    rw [flush_push]
    exact h.filed.add hstep h.current
  | none =>
    rw [readLine_of_none hline hstep]
    refine ⟨h.filed.skip fun hl => ?_, hcurrent⟩
    rw [← Step.ofLine?_isSome_iff, hstep] at hl
    cases hl

/-- Reading lines reads them all. -/
theorem foldl {reading : Reading} (h : reading.Holds lines) (more : List (List Char)) :
    (more.foldl Reading.readLine reading).Holds (lines ++ more) := by
  induction more generalizing reading lines with
  | nil => rwa [List.append_nil]
  | cons line more ih =>
    have hline : (reading.readLine line).Holds (lines ++ [line]) := by
      by_cases hheading : ∃ title, line = '#' :: title
      · obtain ⟨title, rfl⟩ := hheading
        exact h.heading title
      · exact h.of_not_heading fun title ht => hheading ⟨title, ht⟩
    simpa using ih hline

end Holds

end Reading

/-- Empty lines are left out before the reading, but reading them would change nothing. -/
theorem read_eq_foldl (text : String) :
    read text = ((trimmedLines text).foldl Reading.readLine {}).flush.groups := by
  have hempty (reading : Reading) (line : List Char) :
      (if !line.isEmpty then reading.readLine line else reading) = reading.readLine line := by
    cases line <;> rfl
  unfold read
  simp only [List.foldl_filter, hempty]

/-- The groups of a text hold exactly its step lines, each under the name that owns it. -/
theorem read_filed (text : String) : Filed (trimmedLines text) (read text) := by
  rw [read_eq_foldl]
  exact (Reading.Holds.nil.foldl (trimmedLines text)).filed

-- The name for steps above every heading can be a heading as well.
example :
    (read "1. Volte\n# Busca\n2. Volte\n# Geral\n3. Volte").map
      (fun group => (group.name, group.steps.map (·.line))) =
    [("Geral", ["1. Volte", "3. Volte"]), ("Busca", ["2. Volte"])] := by
  decide +kernel

end Flow

end BrowserFlow
