import BrowserFlow.Proofs.Flow.Ownership
import Mathlib.Data.List.Pairwise
import Mathlib.Data.Nat.Find

/-!
# The order in which names appear

A name appears in a text where a heading has it; the name for steps above every heading also appears
at such steps. A group is made for the first step under its name, which may come long after the name
has appeared, if its heading is followed by another heading at once. Then a name that appears later
may overtake it. `Flow.read_appearing_iff` says that this is all that can happen: the groups are in
the order in which their names appear exactly if no name overtakes another one, and no name is
overtaken whose first heading is followed by a step at once.
-/

namespace BrowserFlow.Flow

open Text

/-- A name appears at a position. -/
inductive AppearsAt (lines : List (List Char)) (name : String) (i : Nat) : Prop
  /-- There is a heading that has it. -/
  | heading {title : List Char} (at_ : lines[i]? = some ('#' :: title))
    (name_eq : name = String.ofList (trim title))
  /-- There is a step line above every heading, and this is the name for such steps. -/
  | untitled {line : List Char} (at_ : lines[i]? = some line) (step : Step.StartsLine line)
    (nowhere : ∀ k, k < i → ¬ IsHeadingAt lines k) (name_eq : name = untitled)

/-- A name appears somewhere before another one does for the first time. -/
def AppearsBefore (lines : List (List Char)) (name other : String) : Prop :=
  ∃ i, AppearsAt lines name i ∧ ∀ j, AppearsAt lines other j → i < j

/-- A name overtakes another one: it appears after the other one, but its first step line comes
before the first step line of the other one, which has some. -/
structure Overtakes (lines : List (List Char)) (name other : String) : Prop where
  /-- The other name has a step line. -/
  exists_isOwned : ∃ i, IsOwned lines other i
  /-- The name appears after the other one. -/
  appears : AppearsBefore lines other name
  /-- Its first step line comes before. -/
  comes : ComesBefore lines name other

/-- Where a name appears first, a step under it follows before the next heading. -/
def StartsAtOnce (lines : List (List Char)) (name : String) : Prop :=
  ∃ i j, (AppearsAt lines name i ∧ ∀ k, AppearsAt lines name k → i ≤ k) ∧ IsOwned lines name j ∧
    ∀ k, i < k → k < j → ¬ IsHeadingAt lines k

variable {lines : List (List Char)} {name other : String} {i : Nat}

/-- At one position one name appears. -/
theorem AppearsAt.unique (h : AppearsAt lines name i) (h' : AppearsAt lines other i) :
    name = other := by
  rcases h with ⟨at_, rfl⟩ | ⟨at_, step, -, rfl⟩ <;>
    rcases h' with ⟨at', rfl⟩ | ⟨at', step', -, rfl⟩
  · rw [at_] at at'
    cases at'
    rfl
  · -- No heading is a step line.
    rw [at_] at at'
    cases at'
    exact absurd step' (Step.not_startsLine_heading _)
  · rw [at'] at at_
    cases at_
    exact absurd step (Step.not_startsLine_heading _)
  · rfl

/-- A name that owns a step line appears there or above. -/
theorem IsOwned.exists_appearsAt (h : IsOwned lines name i) :
    ∃ j, AppearsAt lines name j ∧ j ≤ i := by
  obtain ⟨⟨line, at_, step⟩, howns⟩ := h
  rcases howns with ⟨above, at', -, name_eq⟩ | ⟨nowhere, name_eq⟩
  · exact ⟨_, .heading at' name_eq, Nat.le_of_lt above⟩
  · exact ⟨i, .untitled at_ step nowhere name_eq, Nat.le_refl i⟩

/-- Of two kinds of positions not both begin before the other one. -/
theorem not_begins_before {P Q : Nat → Prop} (h : ∃ i, P i ∧ ∀ j, Q j → i < j) :
    ¬ ∃ j, Q j ∧ ∀ i, P i → j < i := by
  rintro ⟨j, hj, hfirst'⟩
  obtain ⟨i, hi, hfirst⟩ := h
  exact Nat.lt_asymm (hfirst j hj) (hfirst' i hi)

/-- Of two names not both appear before the other one. -/
theorem AppearsBefore.asymm (h : AppearsBefore lines name other) :
    ¬ AppearsBefore lines other name :=
  not_begins_before h

/-- Of two names not both have a step line before all those of the other one. -/
theorem ComesBefore.asymm (h : ComesBefore lines name other) : ¬ ComesBefore lines other name :=
  not_begins_before h

/-- Of two different names that appear, one appears before the other one. -/
theorem appearsBefore_or (hname : ∃ i, AppearsAt lines name i)
    (hother : ∃ i, AppearsAt lines other i) (hne : name ≠ other) :
    AppearsBefore lines name other ∨ AppearsBefore lines other name := by
  classical
  -- The first positions of the two names are different ones.
  have hfirst : Nat.find hname ≠ Nat.find hother := by
    intro heq
    have hi := Nat.find_spec hname
    rw [heq] at hi
    exact hne (hi.unique (Nat.find_spec hother))
  rcases Nat.lt_or_gt_of_ne hfirst with hlt | hlt
  · exact .inl ⟨_, Nat.find_spec hname, fun j hj => Nat.lt_of_lt_of_le hlt (Nat.find_min' _ hj)⟩
  · exact .inr ⟨_, Nat.find_spec hother, fun j hj => Nat.lt_of_lt_of_le hlt (Nat.find_min' _ hj)⟩

/-- A name is not overtaken if a step follows at once where it appears first. -/
theorem Overtakes.not_startsAtOnce (h : Overtakes lines name other) :
    ¬ StartsAtOnce lines other := by
  rintro ⟨i, j, ⟨-, hfirst⟩, hj, hbetween⟩
  obtain ⟨p, hp, hafter⟩ := h.appears
  obtain ⟨s, hs, hbefore⟩ := h.comes
  -- The name that overtakes appears between the first heading of the other one and its step.
  obtain ⟨q, hq, hqs⟩ := hs.exists_appearsAt
  have hpq : p < q := hafter q hq
  have hiq : i < q := Nat.lt_of_le_of_lt (hfirst p hp) hpq
  have hqj : q < j := Nat.lt_of_le_of_lt hqs (hbefore j hj)
  cases hq with
  | heading at_ _ => exact hbetween q hiq hqj ⟨_, at_⟩
  | untitled _ _ nowhere name_eq =>
    -- Above every heading both names would be the same.
    cases hp with
    | heading at_ _ => exact nowhere p hpq ⟨_, at_⟩
    | untitled _ _ _ other_eq =>
      obtain rfl : name = other := name_eq.trans other_eq.symm
      exact h.comes.asymm h.comes

namespace Filed

variable {groups : List Group}

/-- Every group's name owns a step line. -/
theorem exists_isOwned (h : Filed lines groups) (hname : name ∈ groups.map (·.name)) :
    ∃ i, IsOwned lines name i := by
  obtain ⟨group, hg, rfl⟩ := List.mem_map.mp hname
  exact (h.stepsOf group hg).exists_isOwned (h.steps_ne_nil group hg)

/-- Groups that are in the order of their first step lines are in the order in which their names
appear exactly if no name overtakes another one. -/
theorem pairwise_appearsBefore_iff (h : Filed lines groups) :
    (groups.map (·.name)).Pairwise (AppearsBefore lines) ↔
      ∀ name other, ¬ Overtakes lines name other := by
  constructor
  · intro happear name other hover
    -- Of two groups the one is not overtaken by the order of the names, and the other one is not by
    -- the order of the step lines.
    have hnever := List.Pairwise.forall_of_forall_of_flip
      (R := fun a b => ¬ Overtakes lines a b) (fun a _ ho => ho.comes.asymm ho.comes)
      (happear.imp fun ha ho => ha.asymm ho.appears) (h.ordered.imp fun hc ho => hc.asymm ho.comes)
    obtain ⟨i, hi, -⟩ := hover.comes
    obtain ⟨j, hj⟩ := hover.exists_isOwned
    exact hnever (h.exists_group name i hi) (h.exists_group other j hj) hover
  · intro hover
    refine h.ordered.imp_of_mem fun {name other} hname hother hcomes => ?_
    obtain ⟨i, hi⟩ := h.exists_isOwned hname
    obtain ⟨j, hj⟩ := h.exists_isOwned hother
    obtain ⟨p, hp, -⟩ := hi.exists_appearsAt
    obtain ⟨q, hq, -⟩ := hj.exists_appearsAt
    have hne : name ≠ other := by
      rintro rfl
      exact hcomes.asymm hcomes
    refine (appearsBefore_or ⟨p, hp⟩ ⟨q, hq⟩ hne).resolve_right fun happear => ?_
    exact hover name other ⟨⟨j, hj⟩, happear, hcomes⟩

end Filed

/-- The groups of a text are in the order in which their names appear exactly if no name overtakes
another one, and none is overtaken that has a step at once where it appears first. -/
theorem read_appearing_iff (text : String) :
    let lines := trimmedLines text
    (((read text).map (·.name)).Pairwise (AppearsBefore lines) ↔
        ∀ name other, ¬ Overtakes lines name other) ∧
      ∀ name other, Overtakes lines name other → ¬ StartsAtOnce lines other := by
  intro lines
  have hfiled : Filed lines (read text) := by
    rw [read_eq_foldl]
    exact (Reading.Holds.nil.foldl lines).filed
  exact ⟨hfiled.pairwise_appearsBefore_iff, fun _ _ h => h.not_startsAtOnce⟩

/-- The groups are not always in the order in which their names appear: here the first heading is
followed by the second one at once, and goes on below it. -/
theorem read_not_appearing :
    ¬ ((read "# A\n# B\n1. Volte\n# A\n2. Atualize").map (·.name)).Pairwise
      (AppearsBefore (trimmedLines "# A\n# B\n1. Volte\n# A\n2. Atualize")) := by
  have hnames : (read "# A\n# B\n1. Volte\n# A\n2. Atualize").map (·.name) = ["B", "A"] := by
    decide +kernel
  have hfirst : AppearsAt (trimmedLines "# A\n# B\n1. Volte\n# A\n2. Atualize") "A" 0 :=
    @AppearsAt.heading _ _ _ " A".toList (by decide +kernel) (by decide +kernel)
  rw [hnames, List.pairwise_pair]
  rintro ⟨i, -, hbefore⟩
  exact absurd (hbefore 0 hfirst) (Nat.not_lt_zero i)

end BrowserFlow.Flow
