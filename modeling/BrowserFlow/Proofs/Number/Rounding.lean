import BrowserFlow.Number.Binary64
import Mathlib.Algebra.Order.Field.Power
import Mathlib.Data.Rat.Cast.Order
import Mathlib.Tactic.FieldSimp
import Mathlib.Tactic.GCongr
import Mathlib.Tactic.Linarith
import Mathlib.Tactic.Positivity
import Mathlib.Tactic.Ring

/-!
# How far rounding goes

A quotient is rounded twice on its way to the reader: to a number of the binary format, and to a
number of decimal places. The first rounding changes it by at most one part in `2 ^ 53`
(`Binary64.ofRatio_close`), the second by at most half a unit (`Binary64.scaled_close`). For
quotients of everyday size the first cannot be seen behind the second: what comes out is as near to
the exact quotient as a number with these places can be (`Binary64.scaled_ofRatio_close`).
-/

namespace BrowserFlow.Number

variable {a b : ℕ}

/-- A rounded quotient is at most one half away from the exact one. -/
theorem roundDiv_close (hb : 0 < b) (a : ℕ) : |(roundDiv a b : ℚ) - a / b| ≤ 1 / 2 := by
  have hdiv := Nat.div_add_mod a b
  have hmod := Nat.mod_lt a hb
  -- In whole numbers, with the fraction cleared.
  have hwhole : 2 * a ≤ 2 * (b * roundDiv a b) + b ∧ 2 * (b * roundDiv a b) ≤ 2 * a + b := by
    simp only [roundDiv, Bool.or_eq_true, Bool.and_eq_true, decide_eq_true_eq, beq_iff_eq]
    split_ifs with hup
    · rw [Nat.mul_succ]
      omega
    · omega
  have hb' : (0 : ℚ) < b := by exact_mod_cast hb
  have hlow : (2 * a : ℚ) ≤ 2 * (b * roundDiv a b) + b := by exact_mod_cast hwhole.1
  have hhigh : (2 * (b * roundDiv a b) : ℚ) ≤ 2 * a + b := by exact_mod_cast hwhole.2
  have hclear : (roundDiv a b : ℚ) - a / b = (b * roundDiv a b - a) / b := by field_simp
  rw [hclear, abs_div, abs_of_pos hb', div_le_iff₀ hb', abs_le]
  constructor <;> linarith

/-- A power of two as a quotient of natural numbers. -/
theorem two_zpow_eq_div (e : ℤ) : (2 : ℚ) ^ e = 2 ^ e.toNat / 2 ^ (-e).toNat := by
  obtain ⟨n, rfl | rfl⟩ := e.eq_nat_or_neg
  · simp
  · simp

/-- A quotient divided by a power of two, as one quotient of natural numbers. -/
theorem cast_div_two_zpow (a b : ℕ) (e : ℤ) :
    ((a * Nat.pow 2 (-e).toNat : ℕ) : ℚ) / (b * Nat.pow 2 e.toNat : ℕ) = a / b / 2 ^ e := by
  rw [two_zpow_eq_div]
  push_cast [Nat.pow_eq]
  field_simp

/-- A natural number lies between two powers of two. -/
theorem two_zpow_log2_le (ha : 0 < a) :
    (2 : ℚ) ^ (a.log2 : ℤ) ≤ a ∧ (a : ℚ) < 2 ^ (a.log2 + 1 : ℤ) := by
  constructor
  · rw [zpow_natCast]
    exact_mod_cast Nat.log2_self_le ha.ne'
  · have hlog : a < 2 ^ (a.log2 + 1) := Nat.lt_log2_self
    exact_mod_cast hlog

namespace Binary64

/-- The number that is meant. -/
def value (x : Binary64) : ℚ :=
  x.num / x.den

/-- The number is its mantissa times its power of two. -/
theorem value_eq (x : Binary64) : x.value = x.mantissa * 2 ^ x.exponent := by
  rw [value, num, den, two_zpow_eq_div]
  push_cast [Nat.pow_eq]
  ring

/-- At its exponent a quotient has 53 significant bits, unless it is very small. -/
theorem exponentOf_bounds (ha : 0 < a) (hb : 0 < b) (hsmall : b < 2 ^ 200) :
    (2 : ℚ) ^ 52 * 2 ^ exponentOf a b ≤ a / b ∧ (a / b : ℚ) < 2 ^ 53 * 2 ^ exponentOf a b := by
  obtain ⟨halow, hahigh⟩ := two_zpow_log2_le ha
  obtain ⟨hblow, hbhigh⟩ := two_zpow_log2_le hb
  have hlog : b.log2 < 200 := (Nat.log2_lt hb.ne').mpr hsmall
  have hb' : (0 : ℚ) < b := by exact_mod_cast hb
  -- The first guess makes the quotient one bit too long at most.
  set e : ℤ := (a.log2 : ℤ) - b.log2 - 53 with he
  have hpos : (0 : ℚ) < 2 ^ e := by positivity
  have hlow : (2 : ℚ) ^ 52 * 2 ^ e ≤ a / b := by
    rw [le_div_iff₀ hb']
    calc (2 : ℚ) ^ 52 * 2 ^ e * b ≤ 2 ^ 52 * 2 ^ e * 2 ^ (b.log2 + 1 : ℤ) := by gcongr
      _ = 2 ^ (a.log2 : ℤ) := by
        rw [← zpow_natCast, ← zpow_add₀ two_ne_zero, ← zpow_add₀ two_ne_zero]
        congr 1
        push_cast
        omega
      _ ≤ a := halow
  have hhigh : (a / b : ℚ) < 2 ^ 54 * 2 ^ e := by
    rw [div_lt_iff₀ hb']
    calc (a : ℚ) < 2 ^ (a.log2 + 1 : ℤ) := hahigh
      _ = 2 ^ 54 * 2 ^ e * 2 ^ (b.log2 : ℤ) := by
        rw [← zpow_natCast, ← zpow_add₀ two_ne_zero, ← zpow_add₀ two_ne_zero]
        congr 1
        push_cast
        omega
      _ ≤ 2 ^ 54 * 2 ^ e * b := by gcongr
  have hlong : Nat.pow 2 53 ≤ a * Nat.pow 2 (-e).toNat / (b * Nat.pow 2 e.toNat) ↔
      (2 : ℚ) ^ 53 * 2 ^ e ≤ a / b := by
    have hden : 0 < b * Nat.pow 2 e.toNat := Nat.mul_pos hb (Nat.pow_pos two_pos)
    rw [← le_div_iff₀ hpos, ← cast_div_two_zpow, Nat.le_div_iff_mul_le hden,
      le_div_iff₀ (by exact_mod_cast hden)]
    exact_mod_cast Iff.rfl
  unfold exponentOf
  simp only [← he, hlong]
  split_ifs with hlonger
  · rw [max_eq_left (by omega), zpow_add_one₀ two_ne_zero]
    constructor <;> linarith
  · rw [max_eq_left (by omega)]
    exact ⟨hlow, not_le.mp hlonger⟩

/-- A quotient is changed by at most one part in `2 ^ 53` when it is rounded to the format. -/
theorem ofRatio_close (a : ℕ) (hb : 0 < b) (hsmall : b < 2 ^ 200) :
    |(ofRatio a b).value - a / b| ≤ a / b / 2 ^ 53 := by
  rcases Nat.eq_zero_or_pos a with rfl | ha
  · simp [ofRatio, value_eq, zero]
  set e := exponentOf a b with he
  obtain ⟨hlow, -⟩ := exponentOf_bounds ha hb hsmall
  have hpos : (0 : ℚ) < 2 ^ e := by positivity
  set m := roundDiv (a * Nat.pow 2 (-e).toNat) (b * Nat.pow 2 e.toNat) with hm
  -- A mantissa that is rounded up to one more bit is the same number one exponent further.
  have hvalue : (ofRatio a b).value = m * 2 ^ e := by
    rw [ofRatio, if_neg (by simpa using ha.ne'), value_eq]
    simp only [← he, ← hm]
    split_ifs with hcarry
    · have hcarry : m = 2 ^ 53 := by simpa [Nat.pow_eq] using hcarry
      rw [hcarry, zpow_add_one₀ two_ne_zero]
      push_cast [Nat.pow_eq]
      ring
    · rfl
  have hround : |(m : ℚ) - a / b / 2 ^ e| ≤ 1 / 2 := by
    rw [← cast_div_two_zpow]
    exact roundDiv_close (Nat.mul_pos hb (Nat.pow_pos two_pos)) _
  calc |(ofRatio a b).value - a / b| = |(m : ℚ) - a / b / 2 ^ e| * 2 ^ e := by
        rw [hvalue, ← abs_of_pos hpos, ← abs_mul, abs_of_pos hpos]
        congr 1
        field_simp
    _ ≤ 1 / 2 * 2 ^ e := by gcongr
    _ ≤ a / b / 2 ^ 53 := by
        rw [le_div_iff₀ (by positivity)]
        linarith

/-- A product is changed by at most one part in `2 ^ 53` when it is rounded to the format. -/
theorem mul_close (x y : Binary64) (hsmall : x.den * y.den < 2 ^ 200) :
    |(x.mul y).value - x.value * y.value| ≤ x.value * y.value / 2 ^ 53 := by
  have hden : 0 < x.den * y.den := Nat.mul_pos (Nat.pow_pos two_pos) (Nat.pow_pos two_pos)
  have hvalue : ((x.num * y.num : ℕ) : ℚ) / (x.den * y.den : ℕ) = x.value * y.value := by
    push_cast
    exact (div_mul_div_comm _ _ _ _).symm
  rw [← hvalue]
  exact ofRatio_close (x.num * y.num) hden hsmall

/-- The denominator of a rounded quotient has at most 53 bits more than that of the quotient. -/
theorem den_ofRatio_le (a : ℕ) (hb : 0 < b) : (ofRatio a b).den ≤ b * 2 ^ 53 := by
  have hlog : 2 ^ (b.log2 + 53) ≤ b * 2 ^ 53 := by
    rw [pow_add]
    exact Nat.mul_le_mul_right _ (Nat.log2_self_le hb.ne')
  -- The exponent is no less than the first guess, which is lowest for a numerator of one bit.
  have hexponent : (-exponentOf a b).toNat ≤ b.log2 + 53 := by
    unfold exponentOf
    dsimp only
    split_ifs <;> omega
  have hden (e : ℤ) (m : ℕ) (he : exponentOf a b ≤ e) : (⟨m, e⟩ : Binary64).den ≤ b * 2 ^ 53 :=
    calc (⟨m, e⟩ : Binary64).den = 2 ^ (-e).toNat := rfl
      _ ≤ 2 ^ (b.log2 + 53) := Nat.pow_le_pow_right two_pos (by omega)
      _ ≤ b * 2 ^ 53 := hlog
  unfold ofRatio
  dsimp only
  split_ifs
  · exact Nat.mul_pos hb (Nat.pow_pos two_pos)
  · exact hden _ _ (by omega)
  · exact hden _ _ le_rfl

/-- A number divided by itself is one. -/
theorem ofRatio_self (ha : 0 < a) : ofRatio a a = ⟨2 ^ 52, -52⟩ := by
  have hexponent : exponentOf a a = -52 := by
    simp [exponentOf, Nat.mul_div_cancel_left _ ha]
  have hround : roundDiv (a * Nat.pow 2 52) (a * Nat.pow 2 0) = 2 ^ 52 := by
    simp [roundDiv, Nat.mul_div_cancel_left _ ha]
  have hup : (-(-52 : ℤ)).toNat = 52 := rfl
  have hdown : (-52 : ℤ).toNat = 0 := rfl
  simp only [ofRatio, hexponent, hup, hdown, hround]
  simp [ha.ne']

/-- The whole part of a number is the greatest natural number that is not above it. -/
theorem floor_le_value (x : Binary64) : (x.floor : ℚ) ≤ x.value ∧ x.value < x.floor + 1 := by
  have hden : 0 < x.den := Nat.pow_pos two_pos
  have hden' : (0 : ℚ) < x.den := by exact_mod_cast hden
  rw [value, le_div_iff₀ hden', div_lt_iff₀ hden']
  constructor
  · exact_mod_cast Nat.div_mul_le_self x.num x.den
  · have hlt : x.num < (x.floor + 1) * x.den := Nat.lt_mul_of_div_lt (Nat.lt_succ_self _) hden
    exact_mod_cast hlt

/-- A number is changed by at most half a unit of its last place when it is rounded to places. -/
theorem scaled_close (places : ℕ) (x : Binary64) :
    |(x.scaled places : ℚ) - x.value * 10 ^ places| ≤ 1 / 2 := by
  have hround := roundDiv_close (b := x.den) (Nat.pow_pos two_pos) (x.num * Nat.pow 10 places)
  have hvalue : x.value * 10 ^ places = (x.num * Nat.pow 10 places : ℕ) / x.den := by
    rw [value]
    push_cast [Nat.pow_eq]
    ring
  rw [hvalue]
  exact hround

/-- A quotient of everyday size that is rounded twice is as near to the exact one as a number with
these places can be. -/
theorem scaled_ofRatio_close (hb : 0 < b) (hsmall : b < 2 ^ 200) (places : ℕ)
    (hsize : a * 10 ^ places < 2 ^ 52) :
    2 * |((ofRatio a b).scaled places : ℤ) * b - a * 10 ^ places| ≤ b := by
  have hb' : (0 : ℚ) < b := by exact_mod_cast hb
  set s := (ofRatio a b).scaled places
  have hsecond : |(s : ℚ) - (ofRatio a b).value * 10 ^ places| ≤ 1 / 2 := scaled_close places _
  have hfirst := ofRatio_close a hb hsmall
  -- The two errors together, in units of the last place.
  have hboth : |(s : ℚ) - a / b * 10 ^ places| ≤ 1 / 2 + a / b / 2 ^ 53 * 10 ^ places := by
    have hstep : |(ofRatio a b).value * 10 ^ places - a / b * 10 ^ places| ≤
        a / b / 2 ^ 53 * 10 ^ places := by
      rw [← sub_mul, abs_mul, abs_of_pos (by positivity : (0 : ℚ) < 10 ^ places)]
      gcongr
    exact (abs_sub_le _ _ _).trans (add_le_add hsecond hstep)
  -- In whole numbers the first error is less than one.
  have hsize' : (a * 10 ^ places : ℚ) < 2 ^ 52 := by exact_mod_cast hsize
  have hless : ((2 * |(s : ℤ) * b - a * 10 ^ places| : ℤ) : ℚ) < (b + 1 : ℤ) := by
    push_cast
    calc 2 * |(s : ℚ) * b - a * 10 ^ places|
        = 2 * |(s : ℚ) - a / b * 10 ^ places| * b := by
          rw [mul_assoc, ← abs_of_pos hb', ← abs_mul, abs_of_pos hb']
          congr 2
          field_simp
      _ ≤ 2 * (1 / 2 + a / b / 2 ^ 53 * 10 ^ places) * b := by gcongr
      _ = b + a * 10 ^ places / 2 ^ 52 := by
          field_simp
      _ < b + 1 := by
          gcongr
          rwa [div_lt_one (by positivity)]
  have hless : 2 * |(s : ℤ) * b - a * 10 ^ places| < b + 1 := by exact_mod_cast hless
  omega

end Binary64

end BrowserFlow.Number
