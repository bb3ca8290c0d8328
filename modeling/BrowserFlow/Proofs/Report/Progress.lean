import BrowserFlow.Proofs.Number.Rounding
import BrowserFlow.Proofs.Report.Cards

/-!
# Progress bars

The bar of a report is filled to the share of the steps that passed, in whole percents. The share is
a quotient, rounded to the binary format, multiplied by a hundred there, which rounds once more, and
cut to a whole number. The two roundings together are less than what lies between two shares of
32-bit counts, so they can only take a percent away, and only where the share is a whole one
(`percent_mul_le`, `le_percent_succ_mul`); the full share is exact.

All of this is about the total that the share is taken of, and the total is a number of 32 bits. The
counts of a report need not add up in these. `progress_told` says, for the program built with and
without a check of that, which reports have a page, that the width of the bar is a percentage that
is fit for the counts exactly if they add up, and how wide the bar is otherwise.
-/

namespace BrowserFlow

open Number Text JsonText

namespace Report

/-! ## Percents -/

/-- The share of `a` in `b` in whole percents, as the binary format has it. -/
def percent (a b : ℕ) : ℕ :=
  ((Binary64.ofRatio a b).mul (.ofNat 100)).floor

section

variable {a b : ℕ}

/-- The share in percents, before it is cut, is off by two parts in `2 ^ 53` and a little more. -/
theorem percent_close (hb : 0 < b) (hsmall : b < 2 ^ 32) :
    |((Binary64.ofRatio a b).mul (.ofNat 100)).value - 100 * (a / b)| ≤ 100 * (a / b) / 2 ^ 51 := by
  set x := Binary64.ofRatio a b
  have hhundred : (Binary64.ofNat 100).value = 100 := by
    rw [show Binary64.ofNat 100 = ⟨100 * 2 ^ 46, -46⟩ by decide, Binary64.value_eq]
    norm_num
  have hden : x.den * (Binary64.ofNat 100).den < 2 ^ 200 :=
    calc x.den * (Binary64.ofNat 100).den ≤ b * 2 ^ 53 * 2 ^ 46 :=
          Nat.mul_le_mul (Binary64.den_ofRatio_le a hb) (by decide)
      _ < 2 ^ 200 := by omega
  have hfirst : |x.value - a / b| ≤ a / b / 2 ^ 53 := Binary64.ofRatio_close a hb (by omega)
  have hsecond := Binary64.mul_close x (.ofNat 100) hden
  rw [hhundred] at hsecond
  have hnonneg : (0 : ℚ) ≤ a / b := by positivity
  generalize (a / b : ℚ) = q at *
  -- Two roundings, each off by one part in two to the 53rd, are off by less than four of them.
  rw [abs_le] at hfirst hsecond ⊢
  constructor <;> linarith

/-- The share is not rounded up to the next percent: two shares are too far apart for that. -/
theorem percent_mul_le (ha : a < 2 ^ 32) (hb : 0 < b) (hsmall : b < 2 ^ 32) :
    percent a b * b ≤ 100 * a := by
  have hb' : (0 : ℚ) < b := by exact_mod_cast hb
  have hclose := (abs_le.mp (percent_close (a := a) hb hsmall)).2
  have hfloor := (Binary64.floor_le_value ((Binary64.ofRatio a b).mul (.ofNat 100))).1
  have ha' : (a : ℚ) < 2 ^ 32 := by exact_mod_cast ha
  have hless : (percent a b * b : ℚ) < 100 * a + 1 :=
    calc (percent a b * b : ℚ) ≤ (100 * (a / b) + 100 * (a / b) / 2 ^ 51) * b := by
          gcongr
          exact hfloor.trans (by linarith)
      _ = 100 * a + 100 * a / 2 ^ 51 := by field_simp
      _ < 100 * a + 1 := by linarith
  have hless : percent a b * b < 100 * a + 1 := by exact_mod_cast hless
  omega

/-- At most one percent is lost. -/
theorem le_percent_succ_mul (ha : a < 2 ^ 32) (hb : 0 < b) (hsmall : b < 2 ^ 32) :
    100 * a ≤ (percent a b + 1) * b := by
  have hb' : (0 : ℚ) < b := by exact_mod_cast hb
  have hclose := (abs_le.mp (percent_close (a := a) hb hsmall)).1
  have hfloor := (Binary64.floor_le_value ((Binary64.ofRatio a b).mul (.ofNat 100))).2
  have ha' : (a : ℚ) < 2 ^ 32 := by exact_mod_cast ha
  -- The error is less than one in all, so nothing is lost when the inequality returns to whole
  -- numbers.
  have hless : (100 * a - 1 : ℚ) < (percent a b + 1) * b :=
    calc (100 * a - 1 : ℚ) < 100 * a - 100 * a / 2 ^ 51 := by linarith
      _ = (100 * (a / b) - 100 * (a / b) / 2 ^ 51) * b := by field_simp
      _ ≤ (percent a b + 1) * b := by
          gcongr
          exact le_trans (by linarith) hfloor.le
  have hless : 100 * a < (percent a b + 1) * b + 1 := by
    have : (100 * a : ℚ) < (percent a b + 1) * b + 1 := by linarith
    exact_mod_cast this
  omega

/-- The whole is a hundred percents. -/
theorem percent_self (ha : 0 < a) : percent a a = 100 := by
  rw [percent, Binary64.ofRatio_self ha]
  decide

end

/-! ## Widths -/

/-- A width is fit for the counts: it is a percentage, which is zero for no steps at all, and full
exactly if steps passed and none failed. -/
structure Fits (successes failures width : ℕ) : Prop where
  /-- It is at most a hundred. -/
  le : width ≤ 100
  /-- Without steps it is zero. -/
  eq_zero : successes = 0 → failures = 0 → width = 0
  /-- It is a hundred exactly if there are steps and all of them passed. -/
  eq_hundred_iff : width = 100 ↔ failures = 0 ∧ 0 < successes

/-- The counts add up to a number of 32 bits. -/
def AddsUp (successes failures : UInt32) : Prop :=
  (successes + failures).toNat = successes.toNat + failures.toNat

instance (successes failures : UInt32) : Decidable (AddsUp successes failures) :=
  inferInstanceAs (Decidable ((successes + failures).toNat = _))

theorem addsUp_iff (successes failures : UInt32) :
    AddsUp successes failures ↔ successes.toNat + failures.toNat < 2 ^ 32 := by
  unfold AddsUp
  rw [UInt32.toNat_add]
  omega

/-- The counts have a sum where sums wrap around, and otherwise if they add up. -/
theorem Overflow.sum_eq_some_iff {overflow : Overflow} {a b total : UInt32} :
    overflow.sum a b = some total ↔ total = a + b ∧ (overflow = .wrapping ∨ AddsUp a b) := by
  cases overflow with
  | wrapping => simp [Overflow.sum, eq_comm]
  | checked =>
    have hsum : Overflow.checked.sum a b = if AddsUp a b then some (a + b) else none :=
      if_congr (addsUp_iff a b).symm rfl rfl
    rw [hsum]
    split_ifs with hadds <;> simp [hadds, eq_comm]

/-- The percentage is the share in whole percents, cut at the greatest number of 32 bits. -/
theorem percentage_eq (successes total : UInt32) : percentage successes total =
    if total.toNat = 0 then 0 else min (percent successes.toNat total.toNat) (2 ^ 32 - 1) := by
  have hzero : (total == 0) = decide (total.toNat = 0) := by
    rw [Bool.eq_iff_iff, beq_iff_eq, decide_eq_true_eq, ← UInt32.toNat_inj]
    rfl
  unfold percentage
  simp only [hzero, decide_eq_true_eq]
  rfl

section

variable {successes failures : UInt32}

/-- The width is the share in whole percents, where the counts add up. -/
theorem percentage_bounds (h : successes.toNat + failures.toNat < 2 ^ 32) :
    percentage successes (successes + failures) * (successes.toNat + failures.toNat) ≤
        100 * successes.toNat ∧
      100 * successes.toNat ≤
        (percentage successes (successes + failures) + 1) * (successes.toNat + failures.toNat) := by
  have htotal := (addsUp_iff successes failures).mpr h
  unfold AddsUp at htotal
  rw [percentage_eq, htotal]
  split_ifs with hzero
  · omega
  have hsuccesses : successes.toNat < 2 ^ 32 := by omega
  have hlow := percent_mul_le hsuccesses (Nat.pos_of_ne_zero hzero) h
  have hhigh := le_percent_succ_mul hsuccesses (Nat.pos_of_ne_zero hzero) h
  have hle : percent successes.toNat (successes.toNat + failures.toNat) ≤ 100 := by
    have : 100 * successes.toNat ≤ 100 * (successes.toNat + failures.toNat) := by omega
    exact Nat.le_of_mul_le_mul_right (hlow.trans this) (Nat.pos_of_ne_zero hzero)
  -- The rate is cut at a hundred, which it never passes here.
  rw [min_eq_left (by omega)]
  exact ⟨hlow, hhigh⟩

/-- The width is fit for the counts, where they add up. -/
theorem fits_percentage (h : successes.toNat + failures.toNat < 2 ^ 32) :
    Fits successes.toNat failures.toNat (percentage successes (successes + failures)) := by
  have hlow := (percentage_bounds h).1
  have hnone : successes.toNat = 0 → failures.toNat = 0 →
      percentage successes (successes + failures) = 0 := by
    intro hs hf
    obtain rfl : successes = 0 := UInt32.toNat_inj.mp hs
    obtain rfl : failures = 0 := UInt32.toNat_inj.mp hf
    decide
  refine ⟨?_, hnone, fun hfull => ?_, ?_⟩
  · -- More than a hundred percent is more than all there are, unless there are none.
    by_contra hmore
    have : 101 * (successes.toNat + failures.toNat) ≤
        percentage successes (successes + failures) * (successes.toNat + failures.toNat) :=
      Nat.mul_le_mul_right _ (by omega)
    have hs : successes.toNat = 0 := by omega
    have hf : failures.toNat = 0 := by omega
    exact hmore (by rw [hnone hs hf]; omega)
  · rw [hfull] at hlow
    refine ⟨by omega, Nat.pos_of_ne_zero fun hs => ?_⟩
    have : percentage successes (successes + failures) = 0 := hnone hs (by omega)
    omega
  · rintro ⟨hf, hs⟩
    have htotal := (addsUp_iff successes failures).mpr h
    unfold AddsUp at htotal
    rw [percentage_eq, htotal, hf, Nat.add_zero, if_neg hs.ne', percent_self hs]
    decide

/-- Counts that add up to nothing in 32 bits leave the bar empty. -/
theorem percentage_of_eq (h : successes.toNat + failures.toNat = 2 ^ 32) :
    percentage successes (successes + failures) = 0 := by
  rw [percentage_eq, if_pos]
  rw [UInt32.toNat_add, h, Nat.mod_self]

/-- Counts that add up to more than 32 bits hold overfill the bar, whatever failed. -/
theorem le_percentage_of_lt (h : 2 ^ 32 < successes.toNat + failures.toNat) :
    100 ≤ percentage successes (successes + failures) := by
  have hsuccesses := successes.toNat_lt
  have hfailures := failures.toNat_lt
  -- The total is what the counts exceed 32 bits by, which is less than either of them.
  have htotal : (successes + failures).toNat = successes.toNat + failures.toNat - 2 ^ 32 := by
    rw [UInt32.toNat_add]
    omega
  have hpos : 0 < (successes + failures).toNat := by omega
  have hshare := le_percent_succ_mul hsuccesses hpos (by omega)
  have hlt : (successes + failures).toNat < successes.toNat := by omega
  rw [percentage_eq, if_neg hpos.ne']
  refine le_min ?_ (by decide)
  by_contra hless
  have : (percent successes.toNat (successes + failures).toNat + 1) * (successes + failures).toNat ≤
      100 * (successes + failures).toNat := Nat.mul_le_mul_right _ (by omega)
  omega

end

/-! ## Bars of pages -/

open Fragments

/-- How the filled part of a bar begins. -/
def barStart : String :=
  "<div class=\"progress-fill\" style=\"width: "

/-- The filled part of a bar of a width. -/
def bar (width : ℕ) : String :=
  barStart ++ decimal width ++ "%\"></div>"

/-- Whether a fragment is the filled part of a bar. -/
def Fragment.isBar : Fragment → Bool
  | .markup text => barStart.toList.isPrefixOf text.toList
  | .shown _ => false

/-- The filled parts of bars in a piece of a page. -/
def bars (fragments : Fragments) : Fragments :=
  fragments.filter Fragment.isBar

/-- A bar has one width. -/
theorem bar_injective : Function.Injective bar := by
  intro width width' h
  have h := congrArg String.toList h
  simp only [bar, decimal, String.toList_append, String.toList_ofList, List.append_assoc] at h
  exact (toDigits_append_inj (by decide) (by decide) (List.append_cancel_left h)).1

theorem toList_barStart : barStart.toList =
    ['<', 'd', 'i', 'v', ' ', 'c', 'l', 'a', 's', 's', '=', '"', 'p', 'r', 'o', 'g', 'r', 'e', 's',
      's', '-', 'f', 'i', 'l', 'l', '"', ' ', 's', 't', 'y', 'l', 'e', '=', '"', 'w', 'i', 'd', 't',
      'h', ':', ' '] := by
  decide

theorem isBar_eq_false {text : String} (h : ¬ barStart.toList <+: text.toList) :
    (Fragment.markup text).isBar = false := by
  rwa [Fragment.isBar, Bool.eq_false_iff, ne_eq, List.isPrefixOf_iff_prefix]

theorem bars_nil : bars [] = [] := rfl

theorem bars_append (a b : Fragments) : bars (a ++ b) = bars a ++ bars b :=
  List.filter_append a b

theorem bars_shown (text : String) (rest : Fragments) :
    bars (.shown text :: rest) = bars rest := rfl

theorem bars_markup {text : String} (h : ¬ barStart.toList <+: text.toList) (rest : Fragments) :
    bars (.markup text :: rest) = bars rest :=
  List.filter_cons_of_neg (by simp [isBar_eq_false h])

theorem bars_line (depth : ℕ) (content : Fragments) : bars (line depth content) = bars content := by
  have hindent : ¬ barStart.toList <+: (indent depth).toList := fun hstarts => by
    have hblank := isBlank_of_mem_indent (hstarts.subset (show '<' ∈ _ by simp [toList_barStart]))
    exact absurd hblank (by decide)
  have hline : line depth content = .markup (indent depth) :: (content ++ [.markup "\n"]) := rfl
  rw [hline, bars_markup hindent, bars_append]
  exact List.append_nil _

theorem bars_markupLine (depth : ℕ) (text : String) :
    bars (markupLine depth text) = bars [.markup text] :=
  bars_line depth _

theorem bars_flatMap {α : Type} {f : α → Fragments} (h : ∀ a, bars (f a) = []) (items : List α) :
    bars (items.flatMap f) = [] := by
  rw [bars, List.filter_flatMap]
  exact List.flatMap_eq_nil_iff.mpr fun a _ => h a

/-- The style sheet begins with an indented selector. -/
theorem exists_styleSheet_eq : ∃ rest, styleSheet = "        " ++ rest := by
  unfold styleSheet styleBlocks
  rw [List.map_cons, List.map_cons, String.intercalate_cons_cons, StyleBlock.render]
  simp only [String.append_assoc]
  exact ⟨_, rfl⟩

theorem bars_pageHead (report : ReportDocument) : bars (pageHead report) = [] := by
  obtain ⟨rest, hrest⟩ := exists_styleSheet_eq
  simp (disch := simp [toList_barStart]) only [pageHead, hrest, bars_append, bars_markupLine,
    bars_line, bars_markup, bars_shown, bars_nil, List.append_nil]

theorem bars_stepFragments (record : StepRecord) : bars (stepFragments record) = [] := by
  have herror : bars (record.error.elim [] fun error =>
      [.markup "<div class=\"error-message\">", .shown error, .markup "</div>"]) = [] := by
    cases record.error <;> rfl
  rw [stepFragments_eq]
  simp (disch := simp [toList_barStart]) only [herror, emptyLine, bars_append, bars_markupLine,
    bars_line, bars_markup, bars_shown, bars_nil, List.append_nil]

theorem bars_stepSection (records : List StepRecord) : bars (stepSection records) = [] := by
  rw [stepSection_eq]
  refine bars_flatMap (fun records => ?_) _
  cases records with
  | nil => rfl
  | cons record records =>
    simp (disch := simp [toList_barStart]) only [card, bars_flatMap bars_stepFragments, bars_append,
      bars_markup, bars_shown, bars_nil, List.append_nil]

theorem bars_listing {α : Type} {f : α → Fragments} (h : ∀ a, bars (f a) = [])
    (heading style : String) (items : List α) :
    bars (listing heading style (items.map f)) = [] := by
  unfold listing
  split_ifs
  · rfl
  · rw [← List.flatMap_def]
    simp (disch := simp [toList_barStart]) only [bars_flatMap h, bars_append, bars_markup, bars_nil,
      List.append_nil]

theorem bars_entry {after : String} (h : ¬ barStart.toList <+: (after ++ "</span>").toList)
    (before label text : String) : bars (entry before label after text) = [] := by
  unfold entry
  simp (disch := simp [toList_barStart]) only [bars_markup h, bars_markup, bars_shown, bars_nil]

/-- The sections below the numbers have no bar. -/
theorem bars_sections (report : ReportDocument) : bars (sections report) = [] := by
  have hshots : bars (screenshotSection report.screenshots) = [] :=
    bars_listing (fun _ => rfl) _ _ _
  have hextractions : bars (extractionSection report.extractions) = [] :=
    bars_listing (fun _ => bars_entry (by simp [toList_barStart]) _ _ _) _ _ _
  have hlogs : bars (logSection report.logs) = [] :=
    bars_listing (fun _ => bars_entry (by simp [toList_barStart]) _ _ _) _ _ _
  simp (disch := simp [toList_barStart]) only [sections, hshots, hextractions, hlogs,
    bars_stepSection, bars_append, bars_markupLine, bars_line, bars_markup, bars_nil,
    List.append_nil]

theorem bars_statistic (style : String) {value : Fragment} (h : value.isBar = false)
    (label : String) : bars (statistic style value label) = [] := by
  have hvalue : bars [value, .markup "</div>"] = bars [.markup "</div>"] :=
    List.filter_cons_of_neg (by simp [h])
  unfold statistic
  simp (disch := simp [toList_barStart]) only [hvalue, bars_append, bars_markupLine, bars_line,
    bars_markup, bars_nil, List.append_nil]

/-- The numbers are shown with one bar, which is as wide as the share of passed steps. -/
theorem bars_statistics (report : ReportDocument) (rate : ℕ) :
    bars (statistics report rate) = [.markup (bar rate)] := by
  -- Neither numbers nor shown texts are bars, so that only the fill of the bar is left.
  have hnumber (n : ℕ) : (Fragment.markup (decimal n)).isBar = false := by
    refine isBar_eq_false fun hstarts => ?_
    have hdigit := hstarts.subset (show '<' ∈ _ by simp [toList_barStart])
    rw [decimal, String.toList_ofList] at hdigit
    exact absurd (isAsciiDigit_of_mem_toDigits hdigit) (by decide)
  have hshown (text : String) : (Fragment.shown text).isBar = false := rfl
  have hbar (width : ℕ) : bars (markupLine 3 (bar width)) = [.markup (bar width)] := by
    have his : (Fragment.markup (bar width)).isBar = true := by
      rw [Fragment.isBar, List.isPrefixOf_iff_prefix, bar, String.append_assoc,
        String.toList_append]
      exact List.prefix_append _ _
    rw [bars_markupLine]
    exact List.filter_cons_of_pos his
  have hline : markupLine 3
      ("<div class=\"progress-fill\" style=\"width: " ++ decimal rate ++ "%\"></div>") =
      markupLine 3 (bar rate) := rfl
  unfold statistics
  rw [hline]
  simp (disch := simp [toList_barStart]) only [hbar, bars_statistic _ (hnumber _),
    bars_statistic _ (hshown _), emptyLine, bars_append, bars_markupLine, bars_markup, bars_nil,
    List.append_nil, List.nil_append]

/-- The page has one bar, which is as wide as the share of passed steps. -/
theorem bars_page (report : ReportDocument) (rate : ℕ) :
    bars (page report rate) = [.markup (bar rate)] := by
  have hoverview : bars (overview report) = [] := by
    unfold overview
    simp (disch := simp [toList_barStart]) only [emptyLine, bars_append, bars_markupLine, bars_line,
      bars_markup, bars_shown, bars_nil, List.append_nil]
  have hclosing : bars (closing report) = [] := by
    unfold closing
    simp (disch := simp [toList_barStart]) only [emptyLine, bars_append, bars_markupLine, bars_line,
      bars_markup, bars_shown, bars_nil, List.append_nil]
  simp (disch := simp [toList_barStart]) only [page, pageBody, bars_pageHead, hoverview,
    bars_statistics, bars_sections, hclosing, emptyLine, bars_append, bars_markupLine, bars_markup,
    bars_nil, List.append_nil, List.nil_append]

/-! ## What the bar tells -/

/-- A report has the page with the percentage of the sum of its counts, if they have one. -/
theorem page?_eq_map (overflow : Overflow) (report : ReportDocument) : page? overflow report =
    (overflow.sum report.successCount report.failureCount).map
      fun total => page report (percentage report.successCount total) := by
  rw [page?, passRate, Option.map_map]
  rfl

/-- A report has a page, with a bar of a width and no other bar. -/
def Draws (overflow : Overflow) (report : ReportDocument) (width : ℕ) : Prop :=
  ∃ fragments, page? overflow report = some fragments ∧ bars fragments = [.markup (bar width)]

theorem draws_iff {overflow : Overflow} {report : ReportDocument} {width : ℕ} :
    Draws overflow report width ↔
      width = report.rate ∧
        (overflow = .wrapping ∨ AddsUp report.successCount report.failureCount) := by
  have hbars (rate : ℕ) : bars (page report rate) = [.markup (bar width)] ↔ width = rate := by
    rw [bars_page, List.cons.injEq, Fragment.markup.injEq, bar_injective.eq_iff]
    exact ⟨fun h => h.1.symm, fun h => ⟨h.symm, rfl⟩⟩
  rw [Draws, page?_eq_map]
  constructor
  · rintro ⟨fragments, hpage, hbar⟩
    obtain ⟨total, hsum, rfl⟩ := Option.map_eq_some_iff.mp hpage
    obtain ⟨rfl, hadds⟩ := Overflow.sum_eq_some_iff.mp hsum
    exact ⟨(hbars _).mp hbar, hadds⟩
  · rintro ⟨hwidth, hadds⟩
    rw [Overflow.sum_eq_some_iff.mpr ⟨rfl, hadds⟩]
    exact ⟨_, rfl, (hbars _).mpr hwidth⟩

/-- What the bar of a report tells of its counts. -/
structure TellsProgress (report : ReportDocument) (width : ℕ) : Prop where
  /-- The counts add up and the width is fit for them exactly if they do not exceed 32 bits. -/
  fits_iff : AddsUp report.successCount report.failureCount ∧
      Fits report.successCount.toNat report.failureCount.toNat width ↔
    report.successCount.toNat + report.failureCount.toNat < 2 ^ 32
  /-- The width is then the share in whole percents, or one less where the share is a whole one. -/
  share : report.successCount.toNat + report.failureCount.toNat < 2 ^ 32 →
    width * (report.successCount.toNat + report.failureCount.toNat) ≤
        100 * report.successCount.toNat ∧
      100 * report.successCount.toNat ≤
        (width + 1) * (report.successCount.toNat + report.failureCount.toNat)
  /-- Counts that exceed 32 bits by one leave the bar empty. -/
  empty : report.successCount.toNat + report.failureCount.toNat = 2 ^ 32 → width = 0
  /-- Counts that exceed them by more overfill it. -/
  overfull : 2 ^ 32 < report.successCount.toNat + report.failureCount.toNat → 100 ≤ width

/-- However the program is built, what the bar of a page tells of the counts of its report is right
exactly if they add up in 32 bits, and every page has one bar. Where sums wrap around every report
has a page, and where they are checked only a report whose counts add up. -/
theorem progress_told (overflow : Overflow) (report : ReportDocument) :
    ((∃ fragments, page? overflow report = some fragments) ↔
      overflow = .wrapping ∨ report.successCount.toNat + report.failureCount.toNat < 2 ^ 32) ∧
    (∀ fragments, page? overflow report = some fragments → ∃ width, Draws overflow report width) ∧
    ∀ width, Draws overflow report width → TellsProgress report width := by
  have hdrawn {fragments : Fragments} (hpage : page? overflow report = some fragments) :
      ∃ width, Draws overflow report width := by
    obtain ⟨rate, -, rfl⟩ := Option.map_eq_some_iff.mp hpage
    exact ⟨rate, _, hpage, bars_page report rate⟩
  refine ⟨?_, fun fragments => hdrawn, fun width hwidth => ?_⟩
  · rw [← addsUp_iff]
    constructor
    · rintro ⟨fragments, hpage⟩
      obtain ⟨width, hwidth⟩ := hdrawn hpage
      exact (draws_iff.mp hwidth).2
    · intro hadds
      obtain ⟨fragments, hpage, -⟩ := draws_iff.mpr ⟨rfl, hadds⟩
      exact ⟨fragments, hpage⟩
  · obtain ⟨rfl, -⟩ := draws_iff.mp hwidth
    exact
      { fits_iff :=
          ⟨fun h => (addsUp_iff _ _).mp h.1, fun h => ⟨(addsUp_iff _ _).mpr h, fits_percentage h⟩⟩
        share := percentage_bounds
        empty := percentage_of_eq
        overfull := le_percentage_of_lt }

/-- Beside the greatest count of successes, two failures leave the report without a page, or make
the bar wider than the page. -/
theorem passRate_overflowing : passRate .checked 4294967295 2 = none ∧
    passRate .wrapping 4294967295 2 = some 4294967295 := by
  decide +kernel

end Report

namespace ReportDocument

open Report

/-- Where a report has a text, it is that of the program whose counts wrap around; only a page can be
missing, and only where sums are checked and the counts do not add up. -/
theorem render?_eq_some_iff {overflow : Overflow} {report : ReportDocument} {format : ReportFormat}
    {text : String} : report.render? overflow format = some text ↔ text = report.render format ∧
      (format = .html → overflow = .wrapping ∨ AddsUp report.successCount report.failureCount) := by
  cases format with
  | json => simp [render?, render, eq_comm]
  | html =>
    rw [render?, page?_eq_map, Option.map_map, Option.map_eq_some_iff, render, rate]
    simp only [Function.comp_apply, forall_const]
    constructor
    · rintro ⟨total, hsum, htext⟩
      obtain ⟨rfl, hadds⟩ := Overflow.sum_eq_some_iff.mp hsum
      exact ⟨htext.symm, hadds⟩
    · rintro ⟨htext, hadds⟩
      exact ⟨_, Overflow.sum_eq_some_iff.mpr ⟨rfl, hadds⟩, htext.symm⟩

end ReportDocument

end BrowserFlow
