import Mathlib.Algebra.Order.Floor.Ring
import Mathlib.Data.Int.Log
import Mathlib.Data.Rat.Floor
import Mathlib.Tactic.FieldSimp
import Mathlib.Tactic.Linarith
import Mathlib.Tactic.NormNum
import Mathlib.Tactic.Positivity

/-!
# Rounding to a number of significant bits

The results of binary floating-point operations are the exact rational results rounded to the
nearest number with so many significant bits, ties to the even one. Exponents are not bounded,
so nothing overflows and no number is subnormal.
-/

namespace TradeBot.Library

/-- The integer nearest to a rational, the even one of two that are as near. -/
def nearestEven (x : ℚ) : ℤ :=
  if x - ⌊x⌋ < 1 / 2 then ⌊x⌋
  else if 1 / 2 < x - ⌊x⌋ then ⌊x⌋ + 1
  else if ⌊x⌋ % 2 = 0 then ⌊x⌋
  else ⌊x⌋ + 1

/-- The distance between the neighbours of a number with `precision` significant bits. -/
def ulp (precision : ℕ) (x : ℚ) : ℚ := 2 ^ (Int.log 2 |x| - (precision - 1 : ℤ))

/-- A rational rounded to `precision` significant bits. -/
def roundTo (precision : ℕ) (x : ℚ) : ℚ :=
  if x = 0 then 0 else nearestEven (x / ulp precision x) * ulp precision x

/-! ### The nearest integer -/

/-- The nearest integer is at most one half away. -/
theorem abs_nearestEven_sub_le (x : ℚ) : |(nearestEven x : ℚ) - x| ≤ 1 / 2 := by
  have hfloor := Int.floor_le x
  have hlt := Int.lt_floor_add_one x
  unfold nearestEven
  split_ifs with hlow hhigh heven
  · rw [abs_le]
    constructor <;> linarith
  · push_cast
    rw [abs_le]
    constructor <;> linarith
  · rw [abs_le]
    constructor <;> linarith
  · push_cast
    rw [abs_le]
    constructor <;> linarith

/-- Integers are their own nearest integers. -/
@[simp] theorem nearestEven_intCast (n : ℤ) : nearestEven (n : ℚ) = n := by
  unfold nearestEven
  rw [Int.floor_intCast, sub_self, if_pos (by norm_num)]

/-- Rounding to the nearest integer keeps the order. -/
theorem nearestEven_mono {x y : ℚ} (hle : x ≤ y) : nearestEven x ≤ nearestEven y := by
  have hx := abs_le.mp (abs_nearestEven_sub_le x)
  have hy := abs_le.mp (abs_nearestEven_sub_le y)
  by_contra hlt
  have hstep : nearestEven y + 1 ≤ nearestEven x := Int.lt_iff_add_one_le.mp (not_le.mp hlt)
  have hcast : (nearestEven y : ℚ) + 1 ≤ nearestEven x := by exact_mod_cast hstep
  -- Both are halfway between the two integers, so they are equal.
  have heq : x = y := by linarith
  exact hlt (heq ▸ le_refl _)

/-- Up to an integer below a number, rounding does not go. -/
theorem le_nearestEven {n : ℤ} {x : ℚ} (h : (n : ℚ) ≤ x) : n ≤ nearestEven x := by
  have hmono := nearestEven_mono h
  rwa [nearestEven_intCast] at hmono

/-- It never passes an integer. -/
theorem nearestEven_le {n : ℤ} {x : ℚ} (h : x ≤ n) : nearestEven x ≤ n := by
  have hmono := nearestEven_mono h
  rwa [nearestEven_intCast] at hmono

/-- Rounding is the same on both sides of zero. -/
theorem nearestEven_neg (x : ℚ) : nearestEven (-x) = -nearestEven x := by
  have hfloor := Int.floor_le x
  have hlt := Int.lt_floor_add_one x
  obtain hint | hint := hfloor.eq_or_lt
  · have hcast : -x = ((-⌊x⌋ : ℤ) : ℚ) := by rw [Int.cast_neg, hint]
    rw [hcast, nearestEven_intCast]
    conv_rhs => rw [← hint, nearestEven_intCast]
  · have hneg : ⌊-x⌋ = -⌊x⌋ - 1 := by
      rw [Int.floor_eq_iff]
      push_cast
      constructor <;> linarith
    unfold nearestEven
    rw [hneg]
    push_cast
    split_ifs <;> first | omega | (exfalso; linarith)

/-! ### Significant bits -/

variable {precision : ℕ} {x : ℚ}

/-- The last place of a number is a positive power of two. -/
theorem ulp_pos (precision : ℕ) (x : ℚ) : 0 < ulp precision x := zpow_pos (by norm_num) _

/-- Zero is kept at every precision. -/
@[simp] theorem roundTo_zero (precision : ℕ) : roundTo precision 0 = 0 := if_pos rfl

/-- Rounding is off by half of the distance between neighbours at most. -/
theorem abs_roundTo_sub_le (precision : ℕ) (x : ℚ) :
    |roundTo precision x - x| ≤ ulp precision x / 2 := by
  have hulp := ulp_pos precision x
  unfold roundTo
  split_ifs with hzero
  · rw [zero_sub, abs_neg, hzero, abs_zero]
    rw [hzero] at hulp
    exact (half_pos hulp).le
  · have hnear := abs_nearestEven_sub_le (x / ulp precision x)
    have hfactor : (nearestEven (x / ulp precision x) : ℚ) * ulp precision x - x =
        ((nearestEven (x / ulp precision x) : ℚ) - x / ulp precision x) * ulp precision x := by
      rw [sub_mul, div_mul_cancel₀ x hulp.ne']
    rw [hfactor, abs_mul, abs_of_pos hulp]
    calc _ ≤ 1 / 2 * ulp precision x := mul_le_mul_of_nonneg_right hnear hulp.le
      _ = ulp precision x / 2 := by ring

/-- Below a power of two the neighbours are near. -/
theorem ulp_le (precision : ℕ) (hx : x ≠ 0) {k : ℤ} (hlt : |x| < 2 ^ (k + 1)) :
    ulp precision x ≤ 2 ^ (k - (precision - 1 : ℤ)) := by
  have hlog : Int.log 2 |x| < k + 1 :=
    (Int.lt_zpow_iff_log_lt (by norm_num) (abs_pos.mpr hx)).mp (by exact_mod_cast hlt)
  unfold ulp
  exact zpow_le_zpow_right₀ (by norm_num) (by omega)

/-- The absolute error of rounding. -/
theorem abs_roundTo_sub_le_of_lt {k : ℤ} (hlt : |x| < 2 ^ (k + 1)) :
    |roundTo precision x - x| ≤ 2 ^ (k - precision) := by
  obtain rfl | hx := eq_or_ne x 0
  · rw [roundTo_zero, sub_self, abs_zero]
    exact (zpow_pos (by norm_num) _).le
  · have hulp := ulp_le precision hx hlt
    have hhalf : (2 : ℚ) ^ (k - (precision - 1 : ℤ)) = 2 ^ (k - precision) * 2 := by
      rw [← zpow_add_one₀ (by norm_num)]
      congr 1
      ring
    rw [hhalf] at hulp
    have herror := abs_roundTo_sub_le precision x
    linarith

/-- The relative error of rounding. -/
theorem abs_roundTo_sub_le_mul (precision : ℕ) (x : ℚ) :
    |roundTo precision x - x| ≤ |x| * 2 ^ (-precision : ℤ) := by
  obtain rfl | hx := eq_or_ne x 0
  · rw [roundTo_zero, sub_self, abs_zero, zero_mul]
  · have hlog : (2 : ℚ) ^ Int.log 2 |x| ≤ |x| := by
      exact_mod_cast Int.zpow_log_le_self (b := 2) (by norm_num) (abs_pos.mpr hx)
    have hulp : ulp precision x = 2 ^ Int.log 2 |x| * (2 ^ (-precision : ℤ) * 2) := by
      rw [ulp, ← zpow_add_one₀ (by norm_num), ← zpow_add₀ (by norm_num)]
      congr 1
      ring
    have hpos : (0 : ℚ) < 2 ^ (-precision : ℤ) := zpow_pos (by norm_num) _
    have hbound : 2 ^ Int.log 2 |x| * (2 : ℚ) ^ (-precision : ℤ) ≤ |x| * 2 ^ (-precision : ℤ) :=
      mul_le_mul_of_nonneg_right hlog hpos.le
    have herror := abs_roundTo_sub_le precision x
    rw [hulp] at herror
    linarith

/-- An integer of at most so many bits is not rounded. -/
theorem roundTo_intCast {n : ℤ} (hn : |n| < 2 ^ precision) :
    roundTo precision (n : ℚ) = n := by
  obtain rfl | hzero := eq_or_ne n 0
  · rw [Int.cast_zero, roundTo_zero]
  · have hx : (n : ℚ) ≠ 0 := Int.cast_ne_zero.mpr hzero
    have hpow : |(n : ℚ)| < ((2 : ℕ) : ℚ) ^ (precision : ℤ) := by
      rw [zpow_natCast]
      exact_mod_cast hn
    have hlog : Int.log 2 |(n : ℚ)| < precision :=
      (Int.lt_zpow_iff_log_lt (by norm_num) (abs_pos.mpr hx)).mp hpow
    obtain ⟨shift, hshift⟩ : ∃ shift : ℕ,
        Int.log 2 |(n : ℚ)| - (precision - 1 : ℤ) = -shift :=
      ⟨((precision - 1 : ℤ) - Int.log 2 |(n : ℚ)|).toNat, by omega⟩
    have hquotient : (n : ℚ) / ulp precision (n : ℚ) = ((n * 2 ^ shift : ℤ) : ℚ) := by
      rw [ulp, hshift, zpow_neg, div_inv_eq_mul, zpow_natCast]
      push_cast
      rfl
    rw [roundTo, if_neg hx, hquotient, nearestEven_intCast, ← hquotient,
      div_mul_cancel₀ _ (ulp_pos _ _).ne']

/-! ### Order -/

/-- Rounding keeps a positive number positive. -/
theorem roundTo_pos (hprecision : 0 < precision) (h : 0 < x) : 0 < roundTo precision x := by
  have herror := abs_roundTo_sub_le_mul precision x
  have hpow : (2 : ℚ) ^ (-precision : ℤ) ≤ 2 ^ (-1 : ℤ) :=
    zpow_le_zpow_right₀ (by norm_num) (by omega)
  have hhalf : |x| * 2 ^ (-precision : ℤ) ≤ x * (1 / 2) := by
    rw [abs_of_pos h]
    refine mul_le_mul_of_nonneg_left (hpow.trans ?_) h.le
    norm_num
  have hlow := (abs_le.mp (herror.trans hhalf)).1
  linarith

/-- And a negative one negative. -/
theorem roundTo_neg_of_neg (hprecision : 0 < precision) (h : x < 0) : roundTo precision x < 0 := by
  have herror := abs_roundTo_sub_le_mul precision x
  have hpow : (2 : ℚ) ^ (-precision : ℤ) ≤ 2 ^ (-1 : ℤ) :=
    zpow_le_zpow_right₀ (by norm_num) (by omega)
  have hhalf : |x| * 2 ^ (-precision : ℤ) ≤ -x * (1 / 2) := by
    rw [abs_of_neg h]
    refine mul_le_mul_of_nonneg_left (hpow.trans ?_) (by linarith)
    norm_num
  have hhigh := (abs_le.mp (herror.trans hhalf)).2
  linarith

/-- The last place does not depend on the sign. -/
theorem ulp_neg (precision : ℕ) (x : ℚ) : ulp precision (-x) = ulp precision x := by
  rw [ulp, ulp, abs_neg]

/-- Rounding commutes with negation, since ties go to the even integer on both sides. -/
theorem roundTo_neg (precision : ℕ) (x : ℚ) : roundTo precision (-x) = -roundTo precision x := by
  obtain rfl | hx := eq_or_ne x 0
  · rw [neg_zero, roundTo_zero, neg_zero]
  · rw [roundTo, roundTo, if_neg (neg_ne_zero.mpr hx), if_neg hx, ulp_neg, neg_div,
      nearestEven_neg, Int.cast_neg, neg_mul]

/-- A positive number is rounded to no less than the power of two below it. -/
theorem zpow_log_le_roundTo (hprecision : 0 < precision) (h : 0 < x) :
    (2 : ℚ) ^ Int.log 2 x ≤ roundTo precision x := by
  have hulp := ulp_pos precision x
  have hlog : (2 : ℚ) ^ Int.log 2 x ≤ x := by
    exact_mod_cast Int.zpow_log_le_self (b := 2) (by norm_num) h
  have hfactor : (2 : ℚ) ^ Int.log 2 x = ((2 ^ (precision - 1) : ℤ) : ℚ) * ulp precision x := by
    rw [ulp, abs_of_pos h]
    push_cast
    rw [← zpow_natCast, ← zpow_add₀ (by norm_num)]
    congr 1
    omega
  have hle : ((2 ^ (precision - 1) : ℤ) : ℚ) ≤ x / ulp precision x := by
    rw [le_div_iff₀ hulp, ← hfactor]
    exact hlog
  have hnear : ((2 ^ (precision - 1) : ℤ) : ℚ) ≤ nearestEven (x / ulp precision x) := by
    exact_mod_cast le_nearestEven hle
  rw [roundTo, if_neg h.ne', hfactor]
  exact mul_le_mul_of_nonneg_right hnear hulp.le

/-- A positive number is rounded to no more than the power of two above it. -/
theorem roundTo_le_zpow_log (h : 0 < x) : roundTo precision x ≤ 2 ^ (Int.log 2 x + 1) := by
  have hulp := ulp_pos precision x
  have hlog : x < (2 : ℚ) ^ (Int.log 2 x + 1) := by
    exact_mod_cast Int.lt_zpow_succ_log_self (b := 2) (by norm_num) x
  have hfactor : (2 : ℚ) ^ (Int.log 2 x + 1) = ((2 ^ precision : ℤ) : ℚ) * ulp precision x := by
    rw [ulp, abs_of_pos h]
    push_cast
    rw [← zpow_natCast, ← zpow_add₀ (by norm_num)]
    congr 1
    ring
  have hle : x / ulp precision x ≤ ((2 ^ precision : ℤ) : ℚ) := by
    rw [div_le_iff₀ hulp, ← hfactor]
    exact hlog.le
  have hnear : (nearestEven (x / ulp precision x) : ℚ) ≤ ((2 ^ precision : ℤ) : ℚ) := by
    exact_mod_cast nearestEven_le hle
  rw [roundTo, if_neg h.ne', hfactor]
  exact mul_le_mul_of_nonneg_right hnear hulp.le

/-- Positive numbers are rounded in their order. -/
theorem roundTo_le_roundTo_of_pos (hprecision : 0 < precision) {y : ℚ} (hx : 0 < x)
    (hle : x ≤ y) : roundTo precision x ≤ roundTo precision y := by
  have hy := hx.trans_le hle
  obtain hlog | hlog := (Int.log_mono_right (b := 2) hx hle).eq_or_lt
  · have hulp : ulp precision y = ulp precision x := by
      rw [ulp, ulp, abs_of_pos hx, abs_of_pos hy, hlog]
    rw [roundTo, roundTo, if_neg hx.ne', if_neg hy.ne', hulp]
    refine mul_le_mul_of_nonneg_right ?_ (ulp_pos precision x).le
    have hquotient := div_le_div_of_nonneg_right hle (ulp_pos precision x).le
    exact_mod_cast nearestEven_mono hquotient
  · calc roundTo precision x ≤ 2 ^ (Int.log 2 x + 1) := roundTo_le_zpow_log hx
      _ ≤ 2 ^ Int.log 2 y := zpow_le_zpow_right₀ (by norm_num) (by omega)
      _ ≤ roundTo precision y := zpow_log_le_roundTo hprecision hy

/-- **Rounding keeps the order.** -/
theorem roundTo_mono (hprecision : 0 < precision) {x y : ℚ} (hle : x ≤ y) :
    roundTo precision x ≤ roundTo precision y := by
  obtain hx | rfl | hx := lt_trichotomy x 0
  · obtain hy | rfl | hy := lt_trichotomy y 0
    · have hneg := roundTo_le_roundTo_of_pos hprecision (neg_pos.mpr hy) (neg_le_neg hle)
      rw [roundTo_neg, roundTo_neg] at hneg
      exact neg_le_neg_iff.mp hneg
    · rw [roundTo_zero]
      exact (roundTo_neg_of_neg hprecision hx).le
    · exact ((roundTo_neg_of_neg hprecision hx).trans (roundTo_pos hprecision hy)).le
  · obtain hy | hy := hle.eq_or_lt
    · rw [hy]
    · rw [roundTo_zero]
      exact (roundTo_pos hprecision hy).le
  · exact roundTo_le_roundTo_of_pos hprecision hx hle

end TradeBot.Library
