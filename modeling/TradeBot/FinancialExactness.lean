import TradeBot.FinancialMath
import TradeBot.Library.LongDivision
import Mathlib.Data.Nat.Bitwise
import Mathlib.Tactic.FieldSimp

/-!
# Exactness of the fixed-point arithmetic

The checked sums are exact or absent, the 128-bit product is the exact product,
and the bitwise division yields the exact quotient and remainder whenever the
quotient fits a word. Together they give each product and quotient of units as
the correctly rounded exact value, or `none` when that value does not fit.
-/

namespace TradeBot.Financial

open Library

/-! ### Signed words -/

/-- A sum that stays in 64 bits does not wrap. -/
theorem toInt_add_of_fits {a b : Int64} (hl : -2 ^ 63 ≤ a.toInt + b.toInt)
    (hu : a.toInt + b.toInt < 2 ^ 63) : (a + b).toInt = a.toInt + b.toInt := by
  rw [Int64.toInt_add]
  exact Int.bmod_eq_of_le (by omega) (by omega)

/-- A difference that stays in 64 bits does not wrap. -/
theorem toInt_sub_of_fits {a b : Int64} (hl : -2 ^ 63 ≤ a.toInt - b.toInt)
    (hu : a.toInt - b.toInt < 2 ^ 63) : (a - b).toInt = a.toInt - b.toInt := by
  rw [Int64.toInt_sub]
  exact Int.bmod_eq_of_le (by omega) (by omega)

/-- The signed word of an integer, when it fits. -/
def fit (z : ℤ) : Option Int64 :=
  if -2 ^ 63 ≤ z ∧ z < 2 ^ 63 then some (Int64.ofInt z) else none

/-- An integer of 64 bits is kept by the conversion to 64 bits. -/
theorem toInt_ofInt_of_fits {z : ℤ} (hl : -2 ^ 63 ≤ z) (hu : z < 2 ^ 63) :
    (Int64.ofInt z).toInt = z := by
  rw [Int64.toInt_ofInt]
  exact Int.bmod_eq_of_le (by simp only [Int64.size]; omega) (by simp only [Int64.size]; omega)

/-- An integer fits 64 bits exactly when it is the value of a 64-bit integer. -/
theorem fit_eq_some_iff {z : ℤ} {c : Int64} : fit z = some c ↔ c.toInt = z := by
  unfold fit
  constructor
  · intro h
    split at h
    · next hz =>
      rw [← Option.some.inj h]
      exact toInt_ofInt_of_fits hz.1 hz.2
    · cases h
  · rintro rfl
    rw [if_pos ⟨Int64.le_toInt c, Int64.toInt_lt c⟩, Int64.ofInt_toInt]

/-- The value of a 64-bit integer fits. -/
@[simp] theorem fit_toInt (c : Int64) : fit c.toInt = some c := fit_eq_some_iff.mpr rfl

/-- `checkedAdd` is the exact sum, or absent when the sum does not fit. -/
theorem checkedAdd_eq (a b : Int64) : checkedAdd a b = fit (a.toInt + b.toInt) := by
  have ha := Int64.le_toInt a
  have ha' := Int64.toInt_lt a
  have hb := Int64.le_toInt b
  have hb' := Int64.toInt_lt b
  have hzero : (0 : Int64).toInt = 0 := rfl
  unfold checkedAdd fit
  simp only [Int64.lt_iff_toInt_lt, hzero]
  by_cases hpos : 0 < b.toInt
  · have hsub : (Int64.maxValue - b).toInt = 2 ^ 63 - 1 - b.toInt := by
      rw [toInt_sub_of_fits] <;> rw [Int64.toInt_maxValue] <;> omega
    rw [hsub]
    by_cases hfit : -2 ^ 63 ≤ a.toInt + b.toInt ∧ a.toInt + b.toInt < 2 ^ 63
    · rw [if_pos hfit, if_neg (by omega), ← toInt_add_of_fits hfit.1 hfit.2, Int64.ofInt_toInt]
    · rw [if_neg hfit, if_pos (by omega)]
  · by_cases hfit : -2 ^ 63 ≤ a.toInt + b.toInt ∧ a.toInt + b.toInt < 2 ^ 63
    · have hsub : b.toInt < 0 → (Int64.minValue - b).toInt = -2 ^ 63 - b.toInt := by
        intro hneg
        rw [toInt_sub_of_fits] <;> rw [Int64.toInt_minValue] <;> omega
      have hcond : ¬(0 < b.toInt ∧ (Int64.maxValue - b).toInt < a.toInt ∨
          b.toInt < 0 ∧ a.toInt < (Int64.minValue - b).toInt) := by
        rintro (⟨h, -⟩ | ⟨hneg, h⟩)
        · exact hpos h
        · rw [hsub hneg] at h
          omega
      rw [if_pos hfit, if_neg hcond, ← toInt_add_of_fits hfit.1 hfit.2, Int64.ofInt_toInt]
    · have hneg : b.toInt < 0 := by omega
      have hsub : (Int64.minValue - b).toInt = -2 ^ 63 - b.toInt := by
        rw [toInt_sub_of_fits] <;> rw [Int64.toInt_minValue] <;> omega
      rw [if_neg hfit, hsub, if_pos (by omega)]

/-- `checkedSubtract` is the exact difference, or absent when it does not fit. -/
theorem checkedSubtract_eq (a b : Int64) : checkedSubtract a b = fit (a.toInt - b.toInt) := by
  have ha := Int64.le_toInt a
  have ha' := Int64.toInt_lt a
  have hb := Int64.le_toInt b
  have hb' := Int64.toInt_lt b
  have hzero : (0 : Int64).toInt = 0 := rfl
  unfold checkedSubtract fit
  simp only [Int64.lt_iff_toInt_lt, hzero]
  by_cases hpos : 0 < b.toInt
  · have hadd : (Int64.minValue + b).toInt = -2 ^ 63 + b.toInt := by
      rw [toInt_add_of_fits] <;> rw [Int64.toInt_minValue] <;> omega
    rw [hadd]
    by_cases hfit : -2 ^ 63 ≤ a.toInt - b.toInt ∧ a.toInt - b.toInt < 2 ^ 63
    · rw [if_pos hfit, if_neg (by omega), ← toInt_sub_of_fits hfit.1 hfit.2, Int64.ofInt_toInt]
    · rw [if_neg hfit, if_pos (by omega)]
  · by_cases hfit : -2 ^ 63 ≤ a.toInt - b.toInt ∧ a.toInt - b.toInt < 2 ^ 63
    · have hadd : b.toInt < 0 → (Int64.maxValue + b).toInt = 2 ^ 63 - 1 + b.toInt := by
        intro hneg
        rw [toInt_add_of_fits] <;> rw [Int64.toInt_maxValue] <;> omega
      have hcond : ¬(0 < b.toInt ∧ a.toInt < (Int64.minValue + b).toInt ∨
          b.toInt < 0 ∧ (Int64.maxValue + b).toInt < a.toInt) := by
        rintro (⟨h, -⟩ | ⟨hneg, h⟩)
        · exact hpos h
        · rw [hadd hneg] at h
          omega
      rw [if_pos hfit, if_neg hcond, ← toInt_sub_of_fits hfit.1 hfit.2, Int64.ofInt_toInt]
    · have hneg : b.toInt < 0 := by omega
      have hadd : (Int64.maxValue + b).toInt = 2 ^ 63 - 1 + b.toInt := by
        rw [toInt_add_of_fits] <;> rw [Int64.toInt_maxValue] <;> omega
      rw [if_neg hfit, hadd, if_pos (by omega)]

section Sums

variable {tag : Tag} {a b c : Value tag}

/-- A typed sum that is present is exact. -/
theorem add_eq_some_iff : add a b = some c ↔ c.units.toInt = a.units.toInt + b.units.toInt := by
  rw [add, checkedAdd_eq, Option.map_eq_some_iff]
  constructor
  · rintro ⟨u, hu, rfl⟩
    exact fit_eq_some_iff.mp hu
  · intro h
    exact ⟨c.units, fit_eq_some_iff.mpr h, rfl⟩

/-- A typed difference that is present is exact. -/
theorem subtract_eq_some_iff :
    subtract a b = some c ↔ c.units.toInt = a.units.toInt - b.units.toInt := by
  rw [subtract, checkedSubtract_eq, Option.map_eq_some_iff]
  constructor
  · rintro ⟨u, hu, rfl⟩
    exact fit_eq_some_iff.mp hu
  · intro h
    exact ⟨c.units, fit_eq_some_iff.mpr h, rfl⟩

end Sums

/-! ### The 128-bit intermediate -/

/-- The number that two words hold. -/
def UInt128.toNat (value : UInt128) : ℕ := value.high.toNat * 2 ^ 64 + value.low.toNat

/-- `magnitude` is the absolute value, also of the smallest word. -/
theorem toNat_magnitude (value : Int64) : (magnitude value).toNat = value.toInt.natAbs := by
  have hl := Int64.le_toInt value
  have hu := Int64.toInt_lt value
  have hnonneg {x : Int64} (hx : 0 ≤ x.toInt) : (x.toUInt64.toNat : ℤ) = x.toInt := by
    have hle : (0 : Int64) ≤ x := by rwa [Int64.le_iff_toInt_le]
    rw [Int64.toNat_toUInt64_of_le hle]
    exact Int.toNat_of_nonneg hx
  unfold magnitude
  by_cases hv : 0 ≤ value.toInt
  · have hle : (0 : Int64) ≤ value := by rwa [Int64.le_iff_toInt_le]
    have h := hnonneg hv
    rw [if_pos hle]
    omega
  · have hle : ¬(0 : Int64) ≤ value := by rwa [Int64.le_iff_toInt_le]
    have hone : (1 : Int64).toInt = 1 := rfl
    have hadd : (value + 1).toInt = value.toInt + 1 := by
      rw [toInt_add_of_fits] <;> rw [hone] <;> omega
    have hneg : (-(value + 1)).toInt = -(value.toInt + 1) := by
      rw [Int64.toInt_neg, hadd]
      exact Int.bmod_eq_of_le (by omega) (by omega)
    have h := hnonneg (x := -(value + 1)) (by omega)
    rw [if_neg hle, UInt64.toNat_add, UInt64.toNat_one]
    omega

/-- Masking keeps the lower half of a word. -/
private theorem toNat_and_mask (x : UInt64) : (x &&& 0xffffffff).toNat = x.toNat % 2 ^ 32 := by
  rw [UInt64.toNat_and]
  exact Nat.and_two_pow_sub_one_eq_mod x.toNat 32

/-- Shifting right by 32 keeps the upper half of a word. -/
private theorem toNat_shiftRight_half (x : UInt64) : (x >>> 32).toNat = x.toNat / 2 ^ 32 := by
  rw [UInt64.toNat_shiftRight]
  exact Nat.shiftRight_eq_div_pow x.toNat 32

/-- Shifting left by 32 moves the lower half of a word up and drops the upper one. -/
private theorem toNat_shiftLeft_half (x : UInt64) :
    (x <<< 32).toNat = x.toNat * 2 ^ 32 % 2 ^ 64 := by
  rw [UInt64.toNat_shiftLeft]
  exact congrArg (· % 2 ^ 64) (Nat.shiftLeft_eq x.toNat 32)

/-- `multiplyWide` is the exact product of two words. -/
theorem toNat_multiplyWide (lhs rhs : UInt64) :
    (multiplyWide lhs rhs).toNat = lhs.toNat * rhs.toNat := by
  have hl : lhs.toNat = lhs.toNat / 2 ^ 32 * 2 ^ 32 + lhs.toNat % 2 ^ 32 := by omega
  have hr : rhs.toNat = rhs.toNat / 2 ^ 32 * 2 ^ 32 + rhs.toNat % 2 ^ 32 := by omega
  have hlHigh : lhs.toNat / 2 ^ 32 < 2 ^ 32 := by have := lhs.toNat_lt; omega
  have hrHigh : rhs.toNat / 2 ^ 32 < 2 ^ 32 := by have := rhs.toNat_lt; omega
  have hlLow : lhs.toNat % 2 ^ 32 < 2 ^ 32 := Nat.mod_lt _ (by omega)
  have hrLow : rhs.toNat % 2 ^ 32 < 2 ^ 32 := Nat.mod_lt _ (by omega)
  generalize hlh : lhs.toNat / 2 ^ 32 = lh at *
  generalize hll : lhs.toNat % 2 ^ 32 = ll at *
  generalize hrh : rhs.toNat / 2 ^ 32 = rh at *
  generalize hrl : rhs.toNat % 2 ^ 32 = rl at *
  -- each limb product fits a word
  have hbound {a b : ℕ} (ha : a < 2 ^ 32) (hb : b < 2 ^ 32) :
      a * b ≤ (2 ^ 32 - 1) * (2 ^ 32 - 1) := Nat.mul_le_mul (by omega) (by omega)
  have hLL := hbound hlLow hrLow
  have hLH := hbound hlLow hrHigh
  have hHL := hbound hlHigh hrLow
  have hHH := hbound hlHigh hrHigh
  have hproduct : lhs.toNat * rhs.toNat =
      lh * rh * 2 ^ 64 + (ll * rh + lh * rl) * 2 ^ 32 + ll * rl := by
    rw [hl, hr]
    ring
  have hor (m l : UInt64) : ((m <<< 32) ||| (l &&& 0xffffffff)).toNat =
      m.toNat * 2 ^ 32 % 2 ^ 64 + l.toNat % 2 ^ 32 := by
    rw [UInt64.toNat_or, toNat_shiftLeft_half, toNat_and_mask]
    have hmul : m.toNat * 2 ^ 32 % 2 ^ 64 = (m.toNat % 2 ^ 32) <<< 32 := by
      rw [Nat.shiftLeft_eq]
      omega
    rw [hmul, Nat.shiftLeft_add_eq_or_of_lt (by omega)]
  simp only [UInt128.toNat, multiplyWide, hor, UInt64.toNat_add, UInt64.toNat_mul, toNat_and_mask,
    toNat_shiftRight_half, hlh, hll, hrh, hrl]
  rw [hproduct]
  generalize ll * rl = LL at *
  generalize ll * rh = LH at *
  generalize lh * rl = HL at *
  generalize lh * rh = HH at *
  omega

/-- `bitAt` reads the bits of the number that two words hold. -/
theorem bitAt_eq (value : UInt128) {index : ℕ} (hindex : index < 128) :
    bitAt value index = decide (value.toNat / 2 ^ index % 2 = 1) := by
  have hlow := value.low.toNat_lt
  have hand (x : UInt64) : (x &&& 1 != 0) = decide (x.toNat % 2 = 1) := by
    have hx : (x &&& 1).toNat = x.toNat % 2 := by
      rw [UInt64.toNat_and]
      exact Nat.and_two_pow_sub_one_eq_mod x.toNat 1
    have hiff : x &&& 1 = 0 ↔ x.toNat % 2 = 0 := by
      rw [← UInt64.toNat_inj, hx]
      rfl
    rw [Bool.eq_iff_iff, bne_iff_ne, decide_eq_true_iff, ne_eq, hiff]
    omega
  have hshift (x : UInt64) {k : ℕ} (hk : k < 64) :
      (x >>> UInt64.ofNat k).toNat = x.toNat / 2 ^ k := by
    rw [UInt64.toNat_shiftRight, Nat.shiftRight_eq_div_pow, UInt64.toNat_ofNat']
    congr 2
    omega
  unfold bitAt
  split
  · next h =>
    rw [hand, hshift _ (by omega)]
    have hsplit : 2 ^ index = 2 ^ 64 * 2 ^ (index - 64) := by rw [← pow_add]; congr 1; omega
    have hdiv : value.toNat / 2 ^ 64 = value.high.toNat := by unfold UInt128.toNat; omega
    rw [hsplit, ← Nat.div_div_eq_div_mul, hdiv]
  · next h =>
    rw [hand, hshift _ (by omega)]
    have hsplit : 2 ^ 64 = 2 ^ index * (2 * 2 ^ (63 - index)) := by
      rw [← pow_succ', ← pow_add]
      congr 1
      omega
    have hdiv : value.toNat / 2 ^ index =
        value.low.toNat / 2 ^ index + 2 * (value.high.toNat * 2 ^ (63 - index)) := by
      have hsum : value.toNat =
          value.low.toNat + 2 ^ index * (2 * (value.high.toNat * 2 ^ (63 - index))) := by
        rw [UInt128.toNat, hsplit]
        ring
      rw [hsum, Nat.add_mul_div_left _ _ (by positivity)]
    rw [hdiv, Nat.add_mul_mod_self_left]

/-! ### Bitwise division -/

/-- The state of the division loop before the bits below `bits` are read: the
remainder and the quotient of the prefix read so far, the quotient in place. -/
structure DivisionState (numerator : UInt128) (denominator : UInt64) (bits : ℕ)
    (quotient remainder : UInt64) : Prop where
  remainder_eq : remainder.toNat = numerator.toNat / 2 ^ bits % denominator.toNat
  quotient_eq : quotient.toNat = numerator.toNat / 2 ^ bits / denominator.toNat * 2 ^ bits

/-- Shifting a bit into a remainder doubles it, modulo the size of a word. -/
private theorem toNat_shifted (remainder : UInt64) (incoming : Bool) :
    ((remainder <<< 1) ||| (if incoming then 1 else 0)).toNat =
      (2 * remainder.toNat + incoming.toNat) % 2 ^ 64 := by
  have hlt := remainder.toNat_lt
  have hbit : (if incoming then (1 : UInt64) else 0).toNat = incoming.toNat := by
    cases incoming <;> rfl
  have hmul : (remainder <<< 1).toNat = (remainder.toNat % 2 ^ 63) <<< 1 := by
    rw [UInt64.toNat_shiftLeft, show (1 : UInt64).toNat % 64 = 1 from rfl, Nat.shiftLeft_eq,
      Nat.shiftLeft_eq]
    omega
  have hle : incoming.toNat < 2 ^ 1 := by have := incoming.toNat_le; omega
  rw [UInt64.toNat_or, hbit, hmul, ← Nat.shiftLeft_add_eq_or_of_lt hle, Nat.shiftLeft_eq]
  omega

/-- The top bit of a remainder says whether doubling it leaves the word. -/
private theorem carry_iff (remainder : UInt64) :
    (remainder >>> 63 != 0) = decide (2 ^ 63 ≤ remainder.toNat) := by
  have hlt := remainder.toNat_lt
  have hshift : (remainder >>> 63).toNat = remainder.toNat / 2 ^ 63 := by
    rw [UInt64.toNat_shiftRight, show (63 : UInt64).toNat % 64 = 63 from rfl,
      Nat.shiftRight_eq_div_pow]
  have hiff : remainder >>> 63 = 0 ↔ remainder.toNat / 2 ^ 63 = 0 := by
    rw [← UInt64.toNat_inj, hshift]
    rfl
  rw [Bool.eq_iff_iff, bne_iff_ne, decide_eq_true_iff, ne_eq, hiff]
  omega

/-- Setting the quotient bit below a quotient in place adds that power of two. -/
private theorem toNat_set_bit {quotient : UInt64} {p bit : ℕ} (hbit : bit < 64)
    (hq : quotient.toNat = p * 2 ^ (bit + 1)) :
    (quotient ||| (1 <<< UInt64.ofNat bit)).toNat = (2 * p + 1) * 2 ^ bit := by
  have hone : ((1 : UInt64) <<< UInt64.ofNat bit).toNat = 2 ^ bit := by
    rw [UInt64.toNat_shiftLeft, UInt64.toNat_ofNat', UInt64.toNat_one, Nat.one_shiftLeft]
    have hmod : bit % 2 ^ 64 % 64 = bit := by omega
    rw [hmod]
    exact Nat.mod_eq_of_lt (Nat.pow_lt_pow_right (by omega) hbit)
  rw [UInt64.toNat_or, hq, hone, ← Nat.shiftLeft_eq,
    ← Nat.shiftLeft_add_eq_or_of_lt (Nat.pow_lt_pow_right (by omega) (by omega)),
    Nat.shiftLeft_eq, pow_succ]
  ring

/-- The division loop yields the exact quotient and remainder, and reports a
quotient that does not fit a word. Induction on the bits still to be read. -/
theorem divideLoop_eq {numerator : UInt128} {denominator : UInt64} (hd : denominator ≠ 0)
    {bits : ℕ} (hbits : bits ≤ 128) {quotient remainder : UInt64}
    (hstate : DivisionState numerator denominator bits quotient remainder) :
    divideLoop numerator denominator bits quotient remainder =
      if numerator.toNat / denominator.toNat < 2 ^ 64 then
        some (UInt64.ofNat (numerator.toNat / denominator.toNat),
          UInt64.ofNat (numerator.toNat % denominator.toNat))
      else none := by
  have hdpos : 0 < denominator.toNat := by
    have h : denominator.toNat ≠ 0 := fun h => hd (UInt64.toNat_inj.mp h)
    omega
  have hdlt := denominator.toNat_lt
  induction bits generalizing quotient remainder with
  | zero =>
    obtain ⟨hr, hq⟩ := hstate
    simp only [pow_zero, Nat.div_one, Nat.mul_one] at hr hq
    have hfits : numerator.toNat / denominator.toNat < 2 ^ 64 := hq ▸ quotient.toNat_lt
    rw [divideLoop, if_pos hfits, ← hq, ← hr, UInt64.ofNat_toNat, UInt64.ofNat_toNat]
  | succ bit ih =>
    obtain ⟨hr, hq⟩ := hstate
    have hrlt : remainder.toNat < denominator.toNat := hr ▸ Nat.mod_lt _ hdpos
    have hread := div_two_pow_eq numerator.toNat bit
    have hincoming : (bitAt numerator bit).toNat = numerator.toNat / 2 ^ bit % 2 := by
      rw [bitAt_eq numerator (by omega)]
      rcases Nat.mod_two_eq_zero_or_one (numerator.toNat / 2 ^ bit) with h | h <;> rw [h] <;> rfl
    have hshifted := toNat_shifted remainder (bitAt numerator bit)
    rw [hincoming] at hshifted
    have hbitlt : numerator.toNat / 2 ^ bit % 2 < 2 := Nat.mod_lt _ (by omega)
    have hguard : (remainder >>> 63 != 0 || decide (denominator ≤
        (remainder <<< 1) ||| (if bitAt numerator bit then 1 else 0))) =
        decide (denominator.toNat ≤ 2 * remainder.toNat + numerator.toNat / 2 ^ bit % 2) := by
      rw [carry_iff, Bool.eq_iff_iff, Bool.or_eq_true, decide_eq_true_iff, decide_eq_true_iff,
        decide_eq_true_iff, UInt64.le_iff_toNat_le, hshifted]
      omega
    simp only [divideLoop, hguard, decide_eq_true_iff]
    by_cases hrestore : denominator.toNat ≤ 2 * remainder.toNat + numerator.toNat / 2 ^ bit % 2
    · rw [if_pos hrestore]
      rw [hr] at hrestore
      obtain ⟨hquot, hrem⟩ := append_one_bit hdpos hbitlt hrestore
      rw [← hread] at hquot hrem
      by_cases hhigh : 64 ≤ bit
      · -- a quotient bit at or above the word size: the quotient does not fit
        have hpow : 2 ^ 64 ≤ 2 ^ bit := Nat.pow_le_pow_right (by omega) hhigh
        have hone : 1 ≤ numerator.toNat / denominator.toNat / 2 ^ bit := by
          rw [Nat.div_div_eq_div_mul, Nat.mul_comm, ← Nat.div_div_eq_div_mul, hquot]
          omega
        have hle : 2 ^ bit ≤ numerator.toNat / denominator.toNat := by
          rwa [Nat.le_div_iff_mul_le (by positivity), one_mul] at hone
        rw [if_pos hhigh, if_neg (by omega)]
      · rw [if_neg hhigh]
        refine ih (by omega) ⟨?_, ?_⟩
        · rw [UInt64.toNat_sub, hshifted, hrem, ← hr]
          rw [← hr] at hrestore
          omega
        · rw [hquot]
          exact toNat_set_bit (by omega) hq
    · rw [if_neg hrestore]
      rw [hr, not_le] at hrestore
      obtain ⟨hquot, hrem⟩ := append_zero_bit hdpos hrestore
      rw [← hread] at hquot hrem
      refine ih (by omega) ⟨?_, ?_⟩
      · rw [hshifted, hrem, ← hr]
        rw [← hr] at hrestore
        exact Nat.mod_eq_of_lt (by omega)
      · rw [hquot, hq, pow_succ]
        ring

/-- `divideWide` is Euclidean division whenever the quotient fits a word. -/
theorem divideWide_eq {numerator : UInt128} {denominator : UInt64} (hd : denominator ≠ 0) :
    divideWide numerator denominator =
      if numerator.toNat / denominator.toNat < 2 ^ 64 then
        some (UInt64.ofNat (numerator.toNat / denominator.toNat),
          UInt64.ofNat (numerator.toNat % denominator.toNat))
      else none := by
  have hsmall : numerator.toNat / 2 ^ 128 = 0 := by
    have hhigh := numerator.high.toNat_lt
    have hlow := numerator.low.toNat_lt
    refine Nat.div_eq_of_lt ?_
    unfold UInt128.toNat
    omega
  rw [divideWide, if_neg hd]
  refine divideLoop_eq hd le_rfl ⟨?_, ?_⟩
  · rw [hsmall, Nat.zero_mod]
    rfl
  · rw [hsmall, Nat.zero_div, Nat.zero_mul]
    rfl

/-- The exact quotient of two magnitudes under a rounding mode. -/
def roundedQuotient (rounding : Rounding) (n d : ℕ) : Option ℕ :=
  match rounding with
  | .towardZero => some (n / d)
  | .rejectUnaligned => if n % d = 0 then some (n / d) else none
  | .nearestTiesAwayFromZero => some ((2 * n + d) / (2 * d))

/-- The signed value of a magnitude. -/
def signed (negative : Bool) (n : ℕ) : ℤ := if negative then -n else n

/-- A word below `2⁶³` is the same number as a signed word. -/
theorem toInt_toInt64_of_lt {x : UInt64} (h : x.toNat < 2 ^ 63) : x.toInt64.toInt = x.toNat := by
  have hbits : x.toInt64.toInt = x.toBitVec.toInt := rfl
  rw [hbits, BitVec.toInt_eq_toNat_of_lt (by change 2 * x.toNat < 2 ^ 64; omega)]
  rfl

/-- The signed word of a quotient word, as the last lines of `signedQuotient`
compute it. -/
private theorem signed_word_eq (quotient : UInt64) (negative : Bool) :
    (if (¬negative = true ∧ Int64.maxValue.toUInt64 < quotient) ∨
        (negative = true ∧ Int64.maxValue.toUInt64 + 1 < quotient) then none
      else if negative = true ∧ quotient = Int64.maxValue.toUInt64 + 1 then some Int64.minValue
      else some (if negative = true then -quotient.toInt64 else quotient.toInt64)) =
      fit (signed negative quotient.toNat) := by
  have hlt := quotient.toNat_lt
  have hmax : Int64.maxValue.toUInt64.toNat = 2 ^ 63 - 1 := rfl
  have hmax' : (Int64.maxValue.toUInt64 + 1).toNat = 2 ^ 63 := rfl
  simp only [UInt64.lt_iff_toNat_lt, ← UInt64.toNat_inj, hmax, hmax', signed]
  cases negative with
  | false =>
    by_cases h : quotient.toNat < 2 ^ 63
    · simp only [Bool.false_eq_true, not_false_eq_true, true_and, false_and, or_false, if_false]
      rw [if_neg (by omega), ← toInt_toInt64_of_lt h, fit_toInt]
    · simp only [Bool.false_eq_true, not_false_eq_true, true_and, false_and, or_false, if_false]
      rw [if_pos (by omega), fit, if_neg (by omega)]
  | true =>
    simp only [not_true_eq_false, true_and, false_and, false_or, if_true]
    rcases Nat.lt_trichotomy quotient.toNat (2 ^ 63) with h | h | h
    · have hneg : (-quotient.toInt64).toInt = -quotient.toNat := by
        rw [Int64.toInt_neg, toInt_toInt64_of_lt h]
        exact Int.bmod_eq_of_le (by omega) (by omega)
      rw [if_neg (by omega), if_neg (by omega), ← hneg, fit_toInt]
    · rw [if_neg (by omega), if_pos h, h]
      rfl
    · rw [if_pos h, fit, if_neg (by omega)]

/-- **Rounded quotient.** `signedQuotient` is the exact quotient under its rounding
mode with its sign, or `none` when that value does not fit. -/
theorem signedQuotient_eq {numerator : UInt128} {denominator : UInt64} (hd : denominator ≠ 0)
    (negative : Bool) (rounding : Rounding) :
    signedQuotient numerator denominator negative rounding =
      (roundedQuotient rounding numerator.toNat denominator.toNat).bind
        fun q => fit (signed negative q) := by
  have hdpos : 0 < denominator.toNat := by
    have h : denominator.toNat ≠ 0 := fun h => hd (UInt64.toNat_inj.mp h)
    omega
  have hdlt := denominator.toNat_lt
  have hmod := Nat.mod_lt numerator.toNat hdpos
  have hnear := nearest_quotient hdpos numerator.toNat
  have hlarge {q : ℕ} (hq : 2 ^ 64 ≤ q) : fit (signed negative q) = none := by
    unfold fit signed
    rw [if_neg]
    split <;> omega
  rw [signedQuotient, divideWide_eq hd]
  generalize hn : numerator.toNat = n at *
  generalize hdn : denominator.toNat = d at *
  by_cases hfits : n / d < 2 ^ 64
  · rw [if_pos hfits]
    have hquot : (UInt64.ofNat (n / d)).toNat = n / d := UInt64.toNat_ofNat_of_lt hfits
    have hrem : (UInt64.ofNat (n % d)).toNat = n % d :=
      UInt64.toNat_ofNat_of_lt (by change _ < 2 ^ 64; omega)
    have hremzero : UInt64.ofNat (n % d) = 0 ↔ n % d = 0 := by
      rw [← UInt64.toNat_inj, hrem]
      rfl
    have hhalf : denominator / 2 + denominator % 2 ≤ UInt64.ofNat (n % d) ↔ d ≤ 2 * (n % d) := by
      rw [UInt64.le_iff_toNat_le, hrem, UInt64.toNat_add, UInt64.toNat_div, UInt64.toNat_mod, hdn]
      change (d / 2 + d % 2) % 2 ^ 64 ≤ n % d ↔ _
      omega
    have hmaxq : UInt64.ofNat (n / d) = 0xffffffffffffffff ↔ n / d = 2 ^ 64 - 1 := by
      rw [← UInt64.toNat_inj, hquot]
      rfl
    cases rounding with
    | towardZero =>
      simp only [reduceCtorEq, false_and, decide_false, Bool.false_eq_true, if_false,
        roundedQuotient, Option.bind_some]
      rw [signed_word_eq, hquot]
    | rejectUnaligned =>
      simp only [true_and, ne_eq, hremzero, reduceCtorEq, false_and, decide_false,
        Bool.false_eq_true, if_false, roundedQuotient]
      by_cases hzero : n % d = 0
      · rw [if_neg (not_not.mpr hzero), if_pos hzero, signed_word_eq, hquot, Option.bind_some]
      · rw [if_pos hzero, if_neg hzero, Option.bind_none]
    | nearestTiesAwayFromZero =>
      simp only [reduceCtorEq, false_and, if_false, true_and, hhalf, decide_eq_true_iff, hmaxq,
        roundedQuotient, Option.bind_some, hnear]
      by_cases hup : d ≤ 2 * (n % d)
      · simp only [hup, true_and, if_true]
        by_cases hmax : n / d = 2 ^ 64 - 1
        · rw [if_pos hmax, hlarge (by omega)]
        · have hsucc : (UInt64.ofNat (n / d) + 1).toNat = n / d + 1 := by
            rw [UInt64.toNat_add, hquot, UInt64.toNat_one]
            omega
          rw [if_neg hmax, signed_word_eq, hsucc]
      · simp only [hup, false_and, if_false, Nat.add_zero]
        rw [signed_word_eq, hquot]
  · rw [if_neg hfits]
    rw [not_lt] at hfits
    cases rounding with
    | towardZero => exact (hlarge hfits).symm
    | rejectUnaligned =>
      simp only [roundedQuotient]
      split
      · exact (hlarge hfits).symm
      · rfl
    | nearestTiesAwayFromZero =>
      simp only [roundedQuotient, Option.bind_some, hnear]
      exact (hlarge (by omega)).symm

/-! ### Products, quotients and conversions of units -/

/-- The scale factor is a hundred million. -/
private theorem toUInt64_scaleFactor : scaleFactor.toUInt64.toNat = 10 ^ 8 := rfl

/-- The sign of a 64-bit integer is that of its value. -/
private theorem decide_neg_eq (a : Int64) : decide (a < 0) = decide (a.toInt < 0) := by
  rw [decide_eq_decide, Int64.lt_iff_toInt_lt]
  rfl

/-- `scaledProduct` is the rounded exact product over the scale factor. -/
theorem scaledProduct_eq (a b : Int64) (rounding : Rounding) :
    scaledProduct a b rounding =
      (roundedQuotient rounding (a.toInt.natAbs * b.toInt.natAbs) (10 ^ 8)).bind fun q =>
        fit (signed (decide (a.toInt < 0) != decide (b.toInt < 0)) q) := by
  rw [scaledProduct, signedQuotient_eq (by decide), toNat_multiplyWide, toNat_magnitude,
    toNat_magnitude, toUInt64_scaleFactor, decide_neg_eq, decide_neg_eq]

/-- The magnitude of a number that is not zero is not zero. -/
private theorem magnitude_ne_zero {a : Int64} (ha : a ≠ 0) : magnitude a ≠ 0 := by
  intro h
  apply ha
  rw [← Int64.toInt_inj]
  have habs := toNat_magnitude a
  rw [h] at habs
  exact Int.natAbs_eq_zero.mp habs.symm

/-- `scaledRatio` is the rounded exact quotient of the scaled numerator. -/
theorem scaledRatio_eq (a : Int64) {b : Int64} (hb : b ≠ 0) (rounding : Rounding) :
    scaledRatio a b rounding =
      (roundedQuotient rounding (a.toInt.natAbs * 10 ^ 8) b.toInt.natAbs).bind fun q =>
        fit (signed (decide (a.toInt < 0) != decide (b.toInt < 0)) q) := by
  rw [scaledRatio, if_neg hb, signedQuotient_eq (magnitude_ne_zero hb), toNat_multiplyWide,
    toNat_magnitude, toNat_magnitude, toUInt64_scaleFactor, decide_neg_eq, decide_neg_eq]

/-- `proportionalUnits` is the rounded exact share of a total. -/
theorem proportionalUnits_eq (total part : Int64) {whole : Int64} (hwhole : whole ≠ 0)
    (rounding : Rounding) :
    proportionalUnits total part whole rounding =
      (roundedQuotient rounding (total.toInt.natAbs * part.toInt.natAbs)
        whole.toInt.natAbs).bind fun q =>
          fit (signed ((decide (total.toInt < 0) != decide (part.toInt < 0)) !=
            decide (whole.toInt < 0)) q) := by
  rw [proportionalUnits, if_neg hwhole, signedQuotient_eq (magnitude_ne_zero hwhole),
    toNat_multiplyWide, toNat_magnitude, toNat_magnitude, toNat_magnitude, decide_neg_eq,
    decide_neg_eq, decide_neg_eq]

/-- A value is positive exactly when its units are. -/
theorem isPositive_iff {tag : Tag} (value : Value tag) :
    value.isPositive = true ↔ 0 < value.units.toInt := by
  rw [Value.isPositive, decide_eq_true_iff, Int64.lt_iff_toInt_lt]
  rfl

/-- A value is negative exactly when its units are. -/
theorem isNegative_iff {tag : Tag} (value : Value tag) :
    value.isNegative = true ↔ value.units.toInt < 0 := by
  rw [Value.isNegative, decide_eq_true_iff, Int64.lt_iff_toInt_lt]
  rfl

/-- A value is zero exactly when its units are. -/
theorem isZero_iff {tag : Tag} (value : Value tag) :
    value.isZero = true ↔ value.units.toInt = 0 := by
  rw [Value.isZero, decide_eq_true_iff, ← Int64.toInt_inj]
  rfl

/-- The whole carries the whole total: a final close leaves no rounding behind. -/
theorem proportional_self (total : Money) {whole : Quantity} (hwhole : whole.isPositive = true) :
    proportional total whole whole = some total := by
  have hpos := (isPositive_iff whole).mp hwhole
  have hnonneg : whole.isNegative = false := by
    rw [Bool.eq_false_iff, ne_eq, isNegative_iff]
    omega
  have hne : whole.units ≠ 0 := by
    rw [ne_eq, ← Int64.toInt_inj]
    change whole.units.toInt ≠ 0
    omega
  have habs : 0 < whole.units.toInt.natAbs := by omega
  have hquot : (2 * (total.units.toInt.natAbs * whole.units.toInt.natAbs) +
      whole.units.toInt.natAbs) / (2 * whole.units.toInt.natAbs) = total.units.toInt.natAbs := by
    rw [nearest_quotient habs, Nat.mul_mod_left, Nat.mul_div_cancel _ habs, if_neg (by omega),
      Nat.add_zero]
  have hsigned : signed ((decide (total.units.toInt < 0) != decide (whole.units.toInt < 0)) !=
      decide (whole.units.toInt < 0)) total.units.toInt.natAbs = total.units.toInt := by
    rw [decide_eq_false (by omega : ¬whole.units.toInt < 0), signed]
    by_cases h : total.units.toInt < 0
    · simp only [h, decide_true, Bool.bne_false, if_true]
      omega
    · simp only [h, decide_false, Bool.bne_false, Bool.false_eq_true, if_false]
      omega
  have hle : decide (whole.units < whole.units) = false := by
    rw [decide_eq_false_iff_not, Int64.lt_iff_toInt_lt]
    exact lt_irrefl _
  unfold proportional
  simp only [hnonneg, hwhole, hle, Bool.not_true, Bool.or_self, Bool.false_eq_true, if_false]
  rw [proportionalUnits_eq _ _ hne]
  simp only [roundedQuotient, Option.bind_some, hquot, hsigned, fit_toInt, Option.map_some]

/-- A value that is not negative has units that are not. -/
theorem isNegative_eq_false_iff {tag : Tag} (value : Value tag) :
    value.isNegative = false ↔ 0 ≤ value.units.toInt := by
  rw [Bool.eq_false_iff, ne_eq, isNegative_iff, not_lt]

/-- A share of a nonnegative total lies between zero and the total. -/
theorem proportional_bounds {total share : Money} {part whole : Quantity}
    (htotal : 0 ≤ total.units.toInt) (h : proportional total part whole = some share) :
    0 ≤ share.units.toInt ∧ share.units.toInt ≤ total.units.toInt := by
  unfold proportional at h
  split at h
  · cases h
  · next hguard =>
    simp only [Bool.or_eq_true, Bool.not_eq_true', decide_eq_true_eq, not_or, Bool.not_eq_true,
      Bool.not_eq_false, Int64.lt_iff_toInt_lt, isNegative_eq_false_iff] at hguard
    obtain ⟨⟨hpart, hwhole⟩, hle⟩ := hguard
    rw [isPositive_iff] at hwhole
    have hne : whole.units ≠ 0 := by
      rw [ne_eq, ← Int64.toInt_inj]
      change whole.units.toInt ≠ 0
      omega
    obtain ⟨units, hunits, rfl⟩ := Option.map_eq_some_iff.mp h
    rw [proportionalUnits_eq _ _ hne, decide_eq_false (by omega), decide_eq_false (by omega),
      decide_eq_false (by omega)] at hunits
    obtain ⟨q, hq, hfit⟩ := Option.bind_eq_some_iff.mp hunits
    have hvalue : units.toInt = q := fit_eq_some_iff.mp hfit
    have hquotient : q ≤ total.units.toInt.natAbs := by
      rw [roundedQuotient, Option.some.injEq] at hq
      have hproduct : total.units.toInt.natAbs * part.units.toInt.natAbs ≤
          total.units.toInt.natAbs * whole.units.toInt.natAbs := by
        apply Nat.mul_le_mul_left
        omega
      have hpos : 0 < whole.units.toInt.natAbs := by omega
      rw [← hq, ← Nat.lt_add_one_iff, Nat.div_lt_iff_lt_mul (by omega)]
      linarith
    change 0 ≤ units.toInt ∧ units.toInt ≤ total.units.toInt
    omega

/-- An average price is positive when the cost is at least half a unit of price for each
whole unit of quantity. -/
theorem averagePrice_pos_iff {cost : Money} {held : Quantity} {average : Price}
    (h : averagePrice cost held = some average) :
    0 < average.units.toInt ↔ held.units.toInt ≤ 2 * 10 ^ 8 * cost.units.toInt := by
  unfold averagePrice at h
  split at h
  · cases h
  · next hguard =>
    simp only [Bool.or_eq_true, Bool.not_eq_true', not_or, Bool.not_eq_true, Bool.not_eq_false,
      isNegative_eq_false_iff, isPositive_iff] at hguard
    obtain ⟨hcost, hheld⟩ := hguard
    have hne : held.units ≠ 0 := by
      rw [ne_eq, ← Int64.toInt_inj]
      change held.units.toInt ≠ 0
      omega
    obtain ⟨units, hunits, rfl⟩ := Option.map_eq_some_iff.mp h
    rw [scaledRatio_eq _ hne, decide_eq_false (by omega), decide_eq_false (by omega)] at hunits
    obtain ⟨q, hq, hfit⟩ := Option.bind_eq_some_iff.mp hunits
    have hvalue : units.toInt = q := fit_eq_some_iff.mp hfit
    rw [roundedQuotient, Option.some.injEq] at hq
    have hpos : 0 < q ↔ 2 * held.units.toInt.natAbs ≤
        2 * (cost.units.toInt.natAbs * 10 ^ 8) + held.units.toInt.natAbs := by
      rw [← hq, Nat.div_pos_iff]
      omega
    change 0 < units.toInt ↔ _
    omega

/-- Every integer in the range of signed words is the units of a value. -/
theorem exists_value (tag : Tag) {z : ℤ} (hl : -2 ^ 63 ≤ z) (hu : z < 2 ^ 63) :
    ∃ v : Value tag, v.units.toInt = z := ⟨⟨Int64.ofInt z⟩, toInt_ofInt_of_fits hl hu⟩

/-- The units of a value are in the range of 64 bits. -/
theorem units_bounds {tag : Tag} (v : Value tag) :
    -2 ^ 63 ≤ v.units.toInt ∧ v.units.toInt < 2 ^ 63 :=
  ⟨Int64.le_toInt v.units, Int64.toInt_lt v.units⟩

/-- A product of nonnegative units is nonnegative. -/
theorem scaledProduct_nonneg {a b c : Int64} {rounding : Rounding} (ha : 0 ≤ a.toInt)
    (hb : 0 ≤ b.toInt) (h : scaledProduct a b rounding = some c) : 0 ≤ c.toInt := by
  rw [scaledProduct_eq, decide_eq_false (by omega), decide_eq_false (by omega)] at h
  obtain ⟨q, -, hq⟩ := Option.bind_eq_some_iff.mp h
  rw [fit_eq_some_iff.mp hq]
  exact Int.natCast_nonneg q

/-! ### Conversions -/

section Conversions

variable [FloatFormat]

/-- The units that `normalize` checks, once they are rounded. -/
theorem normalize_finite {value : ℚ} {rounding : Rounding} {units : Int64}
    (hscaled : Double.round (FloatFormat.longDouble (value * scaleFactor.toInt)) = units.toInt)
    (htolerance : |FloatFormat.longDouble (value * scaleFactor.toInt) - units.toInt| ≤
      |FloatFormat.longDouble (value * scaleFactor.toInt)| * (1 / 2 ^ 52) * 2)
    (hrounding : rounding ≠ .towardZero) :
    normalize (.finite value) rounding = some units := by
  have hl := Int64.minValue_le_toInt units
  have hu := Int64.toInt_le units
  have hrange : ¬(units.toInt < Int64.minValue.toInt ∨ Int64.maxValue.toInt < units.toInt) := by
    omega
  have htol : ¬max (FloatFormat.longDouble (1 / 10 ^ 7))
      (|FloatFormat.longDouble (value * scaleFactor.toInt)| * (1 / 2 ^ 52) * 2) <
        |FloatFormat.longDouble (value * scaleFactor.toInt) - units.toInt| :=
    not_lt.mpr (htolerance.trans (le_max_right _ _))
  unfold normalize
  dsimp only
  rw [hscaled, if_neg htol]
  cases rounding with
  | towardZero => exact absurd rfl hrounding
  | rejectUnaligned =>
    dsimp only
    rw [if_neg hrange, Int64.ofInt_toInt]
  | nearestTiesAwayFromZero =>
    dsimp only
    rw [if_neg hrange, Int64.ofInt_toInt]

omit [FloatFormat] in
/-- The scale factor is a power of ten. -/
theorem scaleFactor_eq : (scaleFactor.toInt : ℚ) = 10 ^ scale := by
  rw [show scaleFactor.toInt = 100000000 from rfl, scale]
  norm_num

omit [FloatFormat] in
/-- So it is positive. -/
theorem scaleFactor_pos : (0 : ℚ) < scaleFactor.toInt := by
  rw [scaleFactor_eq]
  positivity

/-- Reading back the double of a value gives its units under every rounding, when nothing is
rounded on the way. -/
theorem normalize_toDouble [ExactFormat] {tag : Tag} (value : Value tag) (rounding : Rounding) :
    normalize value.toDouble rounding = some value.units := by
  have hl := Int64.minValue_le_toInt value.units
  have hu := Int64.toInt_le value.units
  have hscaled : (value.units.toInt : ℚ) / scaleFactor.toInt * (scaleFactor.toInt : ℚ) =
      (value.units.toInt : ℚ) := by
    have hne := scaleFactor_pos.ne'
    field_simp
  have htol : ¬max (1 / 10 ^ 7) (|(value.units.toInt : ℚ)| * (1 / 2 ^ 52) * 2) <
      |(value.units.toInt : ℚ) - value.units.toInt| := by
    rw [sub_self, abs_zero, not_lt]
    exact le_max_of_le_left (by norm_num)
  have hrange : ¬(value.units.toInt < Int64.minValue.toInt ∨
      Int64.maxValue.toInt < value.units.toInt) := by omega
  unfold normalize Value.toDouble
  dsimp only
  rw [ExactFormat.double_eq, ExactFormat.double_eq, ExactFormat.longDouble_eq,
    ExactFormat.longDouble_eq, hscaled, Double.trunc_intCast, Double.round_intCast, if_neg htol]
  cases rounding <;> dsimp only <;> rw [if_neg hrange, Int64.ofInt_toInt]

/-- With exact conversions a price comes back from its double. -/
@[simp] theorem price_toDouble [ExactFormat] (value : Price) (rounding : Rounding) :
    price value.toDouble rounding = some value := by
  rw [price, normalized, normalize_toDouble, Option.map_some]

/-- With exact conversions a quantity comes back from its double. -/
@[simp] theorem quantity_toDouble [ExactFormat] (value : Quantity) (rounding : Rounding) :
    quantity value.toDouble rounding = some value := by
  rw [quantity, normalized, normalize_toDouble, Option.map_some]

/-- With exact conversions money comes back from its double. -/
@[simp] theorem money_toDouble [ExactFormat] (value : Money) (rounding : Rounding) :
    money value.toDouble rounding = some value := by
  rw [money, normalized, normalize_toDouble, Option.map_some]

/-- With exact conversions a fraction comes back from its double. -/
@[simp] theorem fraction_toDouble [ExactFormat] (value : Fraction) (rounding : Rounding) :
    fraction value.toDouble rounding = some value := by
  rw [fraction, normalized, normalize_toDouble, Option.map_some]

omit [FloatFormat] in
/-- The bounds that `normalize` checks are those of a signed word. -/
private theorem checked_eq_fit (rounded : ℤ) :
    (if rounded < Int64.minValue.toInt ∨ Int64.maxValue.toInt < rounded then none
      else some (Int64.ofInt rounded)) = fit rounded := by
  have hmin : Int64.minValue.toInt = -2 ^ 63 := rfl
  have hmax : Int64.maxValue.toInt = 2 ^ 63 - 1 := rfl
  unfold fit
  by_cases hfits : -2 ^ 63 ≤ rounded ∧ rounded < 2 ^ 63
  · rw [if_pos hfits, if_neg (by omega)]
  · rw [if_neg hfits, if_pos (by omega)]

/-- Where ties go away from zero, the units are the rounded ones. -/
theorem normalize_ties_eq_some_iff {value : ℚ} {units : Int64} :
    normalize (.finite value) .nearestTiesAwayFromZero = some units ↔
      units.toInt = Double.round (FloatFormat.longDouble (value * scaleFactor.toInt)) := by
  unfold normalize
  dsimp only
  rw [checked_eq_fit, fit_eq_some_iff]

/-- Where unaligned values are rejected, the units are the rounded ones and within the tolerance
of the value. -/
theorem normalize_reject_eq_some_iff {value : ℚ} {units : Int64} :
    normalize (.finite value) .rejectUnaligned = some units ↔
      units.toInt = Double.round (FloatFormat.longDouble (value * scaleFactor.toInt)) ∧
        |FloatFormat.longDouble (value * scaleFactor.toInt) - units.toInt| ≤
          max (FloatFormat.longDouble (1 / 10 ^ 7))
            (|FloatFormat.longDouble (value * scaleFactor.toInt)| * (1 / 2 ^ 52) * 2) := by
  unfold normalize
  dsimp only
  constructor
  · intro h
    split at h
    · cases h
    · next rounded hrounded =>
      split at hrounded
      · cases hrounded
      · next htolerance =>
        cases hrounded
        rw [checked_eq_fit, fit_eq_some_iff] at h
        rw [h]
        exact ⟨rfl, not_lt.mp htolerance⟩
  · rintro ⟨hround, htolerance⟩
    rw [← hround, if_neg (not_lt.mpr htolerance)]
    dsimp only
    rw [checked_eq_fit, fit_toInt]

/-- A conversion that rejects unaligned values rounds as the one that accepts them. -/
theorem normalize_reject_eq_some {value : Double} {units : Int64}
    (h : normalize value .rejectUnaligned = some units) :
    normalize value .nearestTiesAwayFromZero = some units := by
  cases value with
  | finite v =>
    rw [normalize_reject_eq_some_iff] at h
    exact normalize_ties_eq_some_iff.mpr h.1
  | infinite negative => cases h
  | nan => cases h

/-- Zero is read as no units. -/
@[simp] theorem normalize_zero (rounding : Rounding) : normalize 0 rounding = some 0 := by
  have hscaled : FloatFormat.longDouble ((0 : ℚ) * scaleFactor.toInt) = 0 := by
    rw [zero_mul, FloatFormat.longDouble_zero]
  have hround : Double.round 0 = 0 := by
    have h := Double.round_intCast 0
    rwa [Int.cast_zero] at h
  have htrunc : Double.trunc 0 = 0 := by
    have h := Double.trunc_intCast 0
    rwa [Int.cast_zero] at h
  have htol : ¬max (FloatFormat.longDouble (1 / 10 ^ 7)) (|(0 : ℚ)| * (1 / 2 ^ 52) * 2) <
      |(0 : ℚ) - (0 : ℤ)| := by
    rw [Int.cast_zero, sub_self, abs_zero, zero_mul, zero_mul, not_lt]
    exact le_max_right _ _
  rw [Double.zero_eq]
  unfold normalize
  dsimp only
  rw [hscaled, hround, htrunc, if_neg htol]
  cases rounding <;> rfl

/-- The double of a value compares with zero as its units do. -/
theorem zero_lt_toDouble {tag : Tag} (value : Value tag) :
    0 < value.toDouble ↔ 0 < value.units.toInt := by
  rw [Double.zero_eq, Value.toDouble, Double.finite_lt_finite, FloatFormat.zero_lt_double,
    div_pos_iff_of_pos_right scaleFactor_pos, FloatFormat.zero_lt_double, Int.cast_pos]

/-- The double of a value is negative exactly when its units are. -/
theorem toDouble_lt_zero {tag : Tag} (value : Value tag) :
    value.toDouble < 0 ↔ value.units.toInt < 0 := by
  rw [Double.zero_eq, Value.toDouble, Double.finite_lt_finite, FloatFormat.double_lt_zero,
    div_lt_iff₀ scaleFactor_pos, zero_mul, FloatFormat.double_lt_zero, Int.cast_lt_zero]

/-- Doubles of values are in the order of the units. -/
theorem toDouble_mono {tag : Tag} {value other : Value tag}
    (h : value.units.toInt ≤ other.units.toInt) : value.toDouble ≤ other.toDouble := by
  rw [Value.toDouble, Value.toDouble, Double.finite_le_finite]
  apply FloatFormat.double_mono
  apply div_le_div_of_nonneg_right
  · exact FloatFormat.double_mono (by exact_mod_cast h)
  · exact scaleFactor_pos.le

/-- The double of zero units is zero. -/
@[simp] theorem toDouble_zero {tag : Tag} : (0 : Value tag).toDouble = 0 := by
  rw [Double.zero_eq, Value.toDouble]
  change Double.finite (FloatFormat.double (FloatFormat.double ((0 : Int64).toInt : ℚ) / _)) = _
  rw [show (0 : Int64).toInt = 0 from rfl, Int.cast_zero, FloatFormat.double_zero, zero_div,
    FloatFormat.double_zero]

end Conversions

end TradeBot.Financial
