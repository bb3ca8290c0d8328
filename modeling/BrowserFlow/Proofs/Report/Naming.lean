import BrowserFlow.Report.Store
import Mathlib.Tactic.IntervalCases

/-!
# The names of reports

A report is named for its format and for the second in which it is written. The second can be read
off the name: the parts of a point in time have widths that do not depend on it, apart from the
year, which stands first, and a day is known by its year, month and day. So two reports have one
name exactly if they have one format and are written in one second.
-/

namespace BrowserFlow

namespace Text

/-! ## Padded digits -/

@[simp] theorem length_paddedDigits (width n : Nat) : (paddedDigits width n).length = width := by
  induction width generalizing n with
  | zero => rfl
  | succ width ih => simp [paddedDigits, ih]

/-- Padded digits are digits. -/
theorem isDigit_of_mem_paddedDigits {width n : Nat} {c : Char} (h : c ∈ paddedDigits width n) :
    c.isDigit = true := by
  induction width generalizing n with
  | zero => simp [paddedDigits] at h
  | succ width ih =>
    rcases List.mem_append.mp h with h | h
    · exact ih h
    · have hlt : n % 10 < 10 := Nat.mod_lt _ (by decide)
      rw [List.mem_singleton.mp h]
      interval_cases n % 10 <;> rfl

/-- The value of the digit of a number below ten. -/
theorem digitValue_ofNat {n : Nat} (h : n < 10) : digitValue (Char.ofNat (0x30 + n)) = n := by
  interval_cases n <;> rfl

/-- A number that fits is read back from its digits. -/
theorem numberOf_paddedDigits {width n : Nat} (h : n < 10 ^ width) :
    numberOf (paddedDigits width n) = n := by
  induction width generalizing n with
  | zero => exact (Nat.lt_one_iff.mp h).symm
  | succ width ih =>
    have hrest : n / 10 < 10 ^ width := by rw [Nat.pow_succ] at h; omega
    have hdigit : digitValue (Char.ofNat (0x30 + n % 10)) = n % 10 :=
      digitValue_ofNat (Nat.mod_lt _ (by decide))
    have hfront := ih hrest
    simp only [numberOf] at hfront
    simp only [numberOf, paddedDigits, List.foldl_append, List.foldl_cons, List.foldl_nil, hfront,
      hdigit]
    omega

/-- Numbers that fit are told apart by their digits. -/
theorem paddedDigits_inj {width m n : Nat} (hm : m < 10 ^ width) (hn : n < 10 ^ width)
    (h : paddedDigits width m = paddedDigits width n) : m = n := by
  rw [← numberOf_paddedDigits hm, h, numberOf_paddedDigits hn]

end Text

open Text

namespace Timestamp

/-! ## Days -/

/-- A day of a cycle of four hundred years lies in the year that is computed for it. -/
theorem yearStart_le {doe yoe : Nat} (h : doe < 146097)
    (hyoe : (doe - doe / 1460 + doe / 36524 - doe / 146096) / 365 = yoe) :
    yoe < 400 ∧ 365 * yoe + yoe / 4 - yoe / 100 ≤ doe ∧
      doe ≤ 365 * yoe + yoe / 4 - yoe / 100 + 366 := by
  have hyear : yoe < 400 := by omega
  have hcentury : yoe / 100 < 4 := by omega
  refine ⟨hyear, ?_⟩
  -- The rounding is linear once the century is known.
  generalize hc : yoe / 100 = c at *
  interval_cases c <;> omega

/-- A day of a year that begins in March is known by its month and its day. -/
theorem dayOfYear_eq {doy doy' : Nat}
    (hmonth : (5 * doy + 2) / 153 = (5 * doy' + 2) / 153)
    (hday : doy - (153 * ((5 * doy + 2) / 153) + 2) / 5 + 1 =
      doy' - (153 * ((5 * doy' + 2) / 153) + 2) / 5 + 1) : doy = doy' := by
  omega

/-- A month is known by its place in the year that begins in March. -/
theorem month_eq {mp mp' : Nat} (h : mp < 12) (h' : mp' < 12)
    (heq : (if mp < 10 then mp + 3 else mp - 9) = if mp' < 10 then mp' + 3 else mp' - 9) :
    mp = mp' := by
  split at heq <;> split at heq <;> omega

/-- A day is known by its year, month and day. -/
theorem civil_injective : Function.Injective civil := by
  intro a b h
  simp only [civil, Prod.mk.injEq] at h
  obtain ⟨hy, hm, hd⟩ := h
  -- The steps of the conversion get names, so that each can be inverted on its own: month, day,
  -- year of the cycle, cycle.
  generalize ha : (a + 719468) % 146097 = doe at *
  generalize hb : (b + 719468) % 146097 = doe' at *
  generalize hyoe : (doe - doe / 1460 + doe / 36524 - doe / 146096) / 365 = yoe at *
  generalize hyoe' : (doe' - doe' / 1460 + doe' / 36524 - doe' / 146096) / 365 = yoe' at *
  obtain ⟨hlt, hle, hge⟩ := yearStart_le (by omega) hyoe
  obtain ⟨hlt', hle', hge'⟩ := yearStart_le (by omega) hyoe'
  generalize hdoy : doe - (365 * yoe + yoe / 4 - yoe / 100) = doy at *
  generalize hdoy' : doe' - (365 * yoe' + yoe' / 4 - yoe' / 100) = doy' at *
  have hmp : (5 * doy + 2) / 153 = (5 * doy' + 2) / 153 := month_eq (by omega) (by omega) hm
  have hday : doy = doy' := dayOfYear_eq hmp hd
  have hyear : (a + 719468) / 146097 * 400 + yoe = (b + 719468) / 146097 * 400 + yoe' := by
    rw [hm] at hy
    exact Nat.add_right_cancel hy
  have hcycle : (a + 719468) / 146097 = (b + 719468) / 146097 := by omega
  have hyoes : yoe = yoe' := by omega
  subst hyoes
  omega

/-- A month and a day have at most two digits. -/
theorem civil_lt (day : Nat) : (civil day).2.1 < 10 ^ 2 ∧ (civil day).2.2 < 10 ^ 2 := by
  simp only [civil]
  generalize ha : (day + 719468) % 146097 = doe at *
  generalize hyoe : (doe - doe / 1460 + doe / 36524 - doe / 146096) / 365 = yoe at *
  obtain ⟨-, -, hge⟩ := yearStart_le (by omega) hyoe
  generalize hdoy : doe - (365 * yoe + yoe / 4 - yoe / 100) = doy at *
  have hdoy : doy ≤ 366 := by omega
  constructor
  · split <;> omega
  · omega

/-! ## Points in time -/

/-- Years are told apart by their texts: a sign or a fifth digit shows that there are more than
four. -/
theorem yearText_injective : Function.Injective yearText := by
  have hshort (m n : Nat) (hm : m < 10000) (h : yearText m = yearText n) : m = n := by
    by_cases hn : n < 10000
    · simp only [yearText, hm, hn, if_true] at h
      exact paddedDigits_inj hm hn (String.ofList_injective h)
    · simp only [yearText, hm, hn, if_true, if_false] at h
      -- A longer year has a sign, which is no digit.
      have hsign : paddedDigits 4 m = '+' :: Nat.toDigits 10 n := by
        simpa [padded, decimal] using congrArg String.toList h
      have hdigit : '+'.isDigit = true := isDigit_of_mem_paddedDigits (hsign ▸ List.mem_cons_self)
      exact absurd hdigit (by decide)
  intro m n h
  by_cases hm : m < 10000
  · exact hshort m n hm h
  by_cases hn : n < 10000
  · exact (hshort n m hn h.symm).symm
  simp only [yearText, hm, hn, if_false] at h
  have hdigits : Nat.toDigits 10 m = Nat.toDigits 10 n := by
    simpa [decimal] using congrArg String.toList h
  rw [← Nat.ofDigitChars_ten_toDigits (n := m), hdigits, Nat.ofDigitChars_ten_toDigits]

/-- Days are told apart by their texts. -/
theorem date_inj {t u : Timestamp} (h : t.date = u.date) : t.ms / 86400000 = u.ms / 86400000 := by
  have hlist : (yearText (civil (t.ms / 86400000)).1).toList ++
        '-' :: (paddedDigits 2 (civil (t.ms / 86400000)).2.1 ++
          '-' :: paddedDigits 2 (civil (t.ms / 86400000)).2.2) =
      (yearText (civil (u.ms / 86400000)).1).toList ++
        '-' :: (paddedDigits 2 (civil (u.ms / 86400000)).2.1 ++
          '-' :: paddedDigits 2 (civil (u.ms / 86400000)).2.2) := by
    simpa [date, padded] using congrArg String.toList h
  obtain ⟨hyear, hrest⟩ := List.append_inj' hlist (by simp)
  obtain ⟨hmonth, hday⟩ := List.append_inj (List.tail_eq_of_cons_eq hrest) (by simp)
  refine civil_injective (Prod.ext (yearText_injective (String.toList_injective hyear))
    (Prod.ext ?_ ?_))
  · exact paddedDigits_inj (civil_lt _).1 (civil_lt _).1 hmonth
  · exact paddedDigits_inj (civil_lt _).2 (civil_lt _).2 (List.tail_eq_of_cons_eq hday)

/-- Times of day are told apart by their texts. -/
theorem time_inj {t u : Timestamp} (h : t.time "-" = u.time "-") :
    t.ms / 1000 % 86400 = u.ms / 1000 % 86400 := by
  have hlist : paddedDigits 2 (t.ms / 1000 % 86400 / 3600) ++
        '-' :: (paddedDigits 2 (t.ms / 1000 % 86400 / 60 % 60) ++
          '-' :: paddedDigits 2 (t.ms / 1000 % 86400 % 60)) =
      paddedDigits 2 (u.ms / 1000 % 86400 / 3600) ++
        '-' :: (paddedDigits 2 (u.ms / 1000 % 86400 / 60 % 60) ++
          '-' :: paddedDigits 2 (u.ms / 1000 % 86400 % 60)) := by
    simpa [time, padded] using congrArg String.toList h
  obtain ⟨hhour, hrest⟩ := List.append_inj hlist (by simp)
  obtain ⟨hminute, hsecond⟩ := List.append_inj (List.tail_eq_of_cons_eq hrest) (by simp)
  have hhours := paddedDigits_inj (by omega) (by omega) hhour
  have hminutes := paddedDigits_inj (by omega) (by omega) hminute
  have hseconds := paddedDigits_inj (by omega) (by omega) (List.tail_eq_of_cons_eq hsecond)
  omega

@[simp] theorem length_time (t : Timestamp) : (t.time "-").toList.length = 8 := by
  simp [time, padded]

/-- Two points in time have one name exactly if they lie in one second. -/
theorem forFileName_eq_iff (t u : Timestamp) :
    t.forFileName = u.forFileName ↔ t.ms / 1000 = u.ms / 1000 := by
  have hdays (t : Timestamp) : t.ms / 86400000 = t.ms / 1000 / 86400 := by omega
  constructor
  · intro h
    have hlist : t.date.toList ++ 'T' :: (t.time "-").toList =
        u.date.toList ++ 'T' :: (u.time "-").toList := by
      simpa [forFileName] using congrArg String.toList h
    obtain ⟨hdate, htime⟩ := List.append_inj' hlist (by
      rw [List.length_cons, List.length_cons, length_time, length_time])
    have hday := date_inj (String.toList_injective hdate)
    have hsecond := time_inj (String.toList_injective (List.tail_eq_of_cons_eq htime))
    omega
  · intro h
    simp only [forFileName, date, time, hdays, h]

/-- The name of a point in time can stand between slashes. -/
theorem slash_not_mem_forFileName (t : Timestamp) : '/' ∉ t.forFileName.toList := by
  have hpadded (width n : Nat) : '/' ∉ paddedDigits width n := fun h =>
    absurd (isDigit_of_mem_paddedDigits h) (by decide)
  have hdecimal (n : Nat) : '/' ∉ Nat.toDigits 10 n := fun h =>
    absurd (Nat.isDigit_of_mem_toDigits (by decide) (by decide) h) (by decide)
  have hyear (year : Nat) : '/' ∉ (yearText year).toList := by
    unfold yearText
    split
    · simp [padded, hpadded]
    · simp [decimal, hdecimal]
  simp [forFileName, date, time, padded, hpadded, hyear]

end Timestamp

namespace Report

/-! ## Names of files -/

/-- Formats are told apart by their extensions. -/
theorem extension_injective : Function.Injective ReportFormat.extension := by
  intro format format' h
  cases format <;> cases format' <;> first | rfl | exact absurd h (by decide)

@[simp] theorem length_extension (format : ReportFormat) : format.extension.toList.length = 4 := by
  cases format <;> decide

/-- Two reports have one name exactly if they have one format and are written in one second. -/
theorem fileName_eq_iff (format format' : ReportFormat) (t u : Timestamp) :
    fileName format t = fileName format' u ↔ format = format' ∧ t.ms / 1000 = u.ms / 1000 := by
  rw [← Timestamp.forFileName_eq_iff]
  constructor
  · intro h
    have hlist := congrArg String.toList h
    simp only [fileName, String.toList_append, List.append_assoc] at hlist
    obtain ⟨hname, hrest⟩ := List.append_inj' (List.append_cancel_left hlist) (by
      rw [List.length_append, List.length_append, length_extension, length_extension])
    exact ⟨extension_injective (String.toList_injective (List.append_cancel_left hrest)),
      String.toList_injective hname⟩
  · rintro ⟨rfl, h⟩
    rw [fileName, fileName, h]

/-- The name of a report can stand between slashes. -/
theorem slash_not_mem_fileName (format : ReportFormat) (t : Timestamp) :
    '/' ∉ (fileName format t).toList := by
  have hextension : '/' ∉ format.extension.toList := by cases format <;> decide
  have hstart : '/' ∉ "relatorio-".toList := by decide
  have hpoint : '/' ∉ ".".toList := by decide
  simp only [fileName, String.toList_append, List.mem_append, not_or]
  exact ⟨⟨⟨hstart, t.slash_not_mem_forFileName⟩, hpoint⟩, hextension⟩

end Report

end BrowserFlow
