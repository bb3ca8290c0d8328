import Mathlib.Data.List.SplitBy
import BrowserFlow.Report.Html

/-!
# Runs of records

The section of the steps is written step by step, and a card ends where the next step is of another
group. So there is one card for every run of records with the same group. The runs are the only way
to cut the records into pieces of one group each, such that the group changes from each piece to the
next (`isCut_iff`), and the section consists of their cards (`stepSection_eq`).

While the card of a group is open, steps of that group only add rows (`stepsAfter_append`), and
whatever comes after them ends the card (`stepsAfter_of_ne`).
-/

namespace BrowserFlow.Report

/-- A card: some records of one group. -/
def card : List StepRecord → Fragments
  | [] => []
  | record :: records =>
    [.markup "<div class=\"group\"><div class=\"group-header\">", .shown record.group,
      .markup "</div><div class=\"steps\">"] ++
    (record :: records).flatMap stepFragments ++
    [.markup "</div></div>\n"]

/-- The records cut into runs of the same group, in order. -/
def runs (records : List StepRecord) : List (List StepRecord) :=
  records.splitBy fun a b => a.group == b.group

/-- Records are cut into pieces of one group each, and the group changes from each piece to the
next. -/
structure IsCut (records : List StepRecord) (cut : List (List StepRecord)) : Prop where
  /-- Together the pieces are the records, in order. -/
  flatten_eq : cut.flatten = records
  /-- No piece is empty. -/
  ne_nil : ∀ run ∈ cut, run ≠ []
  /-- The records of a piece are of one group. -/
  group_eq : ∀ run ∈ cut, ∀ a ∈ run, ∀ b ∈ run, a.group = b.group
  /-- Those of neighbouring pieces are not. -/
  group_ne : cut.IsChain fun run next => ∀ a ∈ run, ∀ b ∈ next, a.group ≠ b.group

/-! ## Cuts -/

variable {records run : List StepRecord} {cut : List (List StepRecord)}

/-- Records of which each is of the group of the next are all of one group. -/
theorem isChain_group_iff :
    (run.IsChain fun a b => (a.group == b.group) = true) ↔
      ∀ a ∈ run, ∀ b ∈ run, a.group = b.group := by
  simp only [beq_iff_eq]
  have : IsTrans StepRecord fun a b => a.group = b.group := ⟨fun _ _ _ => Eq.trans⟩
  have : Std.Symm fun a b : StepRecord => a.group = b.group := ⟨fun _ _ => Eq.symm⟩
  constructor
  · intro h a ha b hb
    have hpairwise : run.Pairwise fun a b => a.group = b.group := List.isChain_iff_pairwise.mp h
    exact List.Pairwise.forall_of_forall (R := fun a b => a.group = b.group) (fun _ _ => rfl)
      hpairwise ha hb
  · intro h
    exact (List.pairwise_of_forall_mem_list h).isChain

/-- The runs are the only way to cut the records. -/
theorem isCut_iff : IsCut records cut ↔ runs records = cut := by
  unfold runs
  rw [List.splitBy_eq_iff]
  constructor
  · intro h
    refine ⟨h.flatten_eq.symm, fun hnil => h.ne_nil [] hnil rfl,
      fun run hrun => isChain_group_iff.mpr (h.group_eq run hrun),
      h.group_ne.imp_of_mem_imp fun run next hrun hnext hne => ?_⟩
    have hlast := List.getLast_mem (h.ne_nil run hrun)
    have hhead := List.head_mem (h.ne_nil next hnext)
    exact ⟨_, _, beq_eq_false_iff_ne.mpr (hne _ hlast _ hhead)⟩
  · rintro ⟨rfl, hnil, hchain, hchange⟩
    have hgroup : ∀ run ∈ cut, ∀ a ∈ run, ∀ b ∈ run, a.group = b.group :=
      fun run hrun => isChain_group_iff.mp (hchain run hrun)
    refine ⟨rfl, fun run hrun hempty => hnil (hempty ▸ hrun), hgroup,
      hchange.imp_of_mem_imp ?_⟩
    -- All records of a piece are of the group of its last, and of that of its first.
    rintro run next hrun hnext ⟨hne, hne', hdiffer⟩ a ha b hb
    rw [hgroup run hrun a ha _ (List.getLast_mem hne),
      hgroup next hnext b hb _ (List.head_mem hne')]
    exact beq_eq_false_iff_ne.mp hdiffer

theorem isCut_runs (records : List StepRecord) : IsCut records (runs records) :=
  isCut_iff.mpr rfl

theorem IsCut.unique {cut' : List (List StepRecord)} (h : IsCut records cut)
    (h' : IsCut records cut') : cut = cut' :=
  (isCut_iff.mp h).symm.trans (isCut_iff.mp h')

/-- What follows the first piece is cut into the other pieces. -/
theorem IsCut.tail (h : IsCut records (run :: cut)) : IsCut cut.flatten cut where
  flatten_eq := rfl
  ne_nil next hnext := h.ne_nil next (List.mem_cons_of_mem _ hnext)
  group_eq next hnext := h.group_eq next (List.mem_cons_of_mem _ hnext)
  group_ne := h.group_ne.tail

/-- The group changes behind the first piece. -/
theorem IsCut.head_ne (h : IsCut records (run :: cut)) {a b : StepRecord} (ha : a ∈ run)
    (hb : b ∈ cut.flatten.head?) : b.group ≠ a.group := by
  cases cut with
  | nil => cases hb
  | cons next cut =>
    obtain ⟨c, next, rfl⟩ := List.exists_cons_of_ne_nil (h.ne_nil next (by simp))
    obtain rfl := Option.some.inj hb
    exact Ne.symm ((List.isChain_cons_cons.mp h.group_ne).1 a ha c List.mem_cons_self)

/-! ## The section of the steps -/

/-- Steps of the group of the open card are added to it. -/
theorem stepsAfter_append {group : String} (h : ∀ record ∈ run, record.group = group) :
    stepsAfter (some group) (run ++ records) =
      run.flatMap stepFragments ++ stepsAfter (some group) records := by
  induction run with
  | nil => rfl
  | cons record run ih =>
    rw [List.forall_mem_cons] at h
    obtain ⟨rfl, hrun⟩ := h
    rw [List.cons_append, stepsAfter, if_pos rfl, ih hrun, List.flatMap_cons, List.nil_append,
      List.append_assoc]

/-- A step of another group ends the open card, and so does the end of the records. -/
theorem stepsAfter_of_ne {group : String} (h : ∀ record ∈ records.head?, record.group ≠ group) :
    stepsAfter (some group) records = cardEnd (some group) ++ stepSection records := by
  cases records with
  | nil => simp [stepSection, stepsAfter, cardEnd]
  | cons record records =>
    have hne : ¬ some group = some record.group := fun heq =>
      h record rfl (Option.some.inj heq).symm
    simp only [stepSection, stepsAfter, if_neg hne, reduceCtorEq, if_false, cardEnd,
      List.nil_append, List.append_assoc]

/-- The steps of one group become a card, if a step of another group follows or none. -/
theorem stepSection_append (hne : run ≠ []) (hgroup : ∀ a ∈ run, ∀ b ∈ run, a.group = b.group)
    (hnext : ∀ a ∈ run, ∀ b ∈ records.head?, b.group ≠ a.group) :
    stepSection (run ++ records) = card run ++ stepSection records := by
  obtain ⟨first, rest, rfl⟩ := List.exists_cons_of_ne_nil hne
  have hrest : ∀ record ∈ rest, record.group = first.group := fun record hrecord =>
    hgroup record (List.mem_cons_of_mem _ hrecord) first List.mem_cons_self
  have hstart : stepSection (first :: rest ++ records) = cardStart first.group ++
      stepFragments first ++ stepsAfter (some first.group) (rest ++ records) := rfl
  rw [hstart, stepsAfter_append hrest, stepsAfter_of_ne (hnext first List.mem_cons_self)]
  simp only [card, cardStart, cardEnd, List.flatMap_cons, List.append_assoc]

/-- The section consists of the cards of the pieces into which the records are cut. -/
theorem IsCut.stepSection_eq (h : IsCut records cut) : stepSection records = cut.flatMap card := by
  induction cut generalizing records with
  | nil =>
    obtain rfl := h.flatten_eq
    rfl
  | cons run cut ih =>
    have hrun : run ∈ run :: cut := List.mem_cons_self
    rw [← h.flatten_eq, List.flatten_cons, stepSection_append (h.ne_nil run hrun)
      (h.group_eq run hrun) fun a ha b hb => h.head_ne ha hb, ih h.tail, List.flatMap_cons]

/-- The section consists of the cards of the runs. -/
theorem stepSection_eq (records : List StepRecord) :
    stepSection records = (runs records).flatMap card :=
  (isCut_runs records).stepSection_eq

end BrowserFlow.Report
