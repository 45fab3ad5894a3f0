import Mathlib.Data.Int.Log
import Mathlib.Data.Rat.Floor
import Mathlib.Tactic.Linarith
import Mathlib.Tactic.NormNum
import Mathlib.Tactic.FieldSimp

/-!
# Magnitudes of the binary64 format

A finite binary64 number without its sign is a word below `2047 * 2 ^ 52`: eleven bits of
exponent over fifty-two bits of fraction. The word of zero exponent is subnormal; any other
exponent adds a leading one to the fraction. `magnitude` is the rational value of a word
and `magnitudeBits` finds the word of a value.
-/

namespace TradeBot.Library.Binary64

/-- The value of a word of exponent and fraction. -/
def magnitude (word : ℕ) : ℚ :=
  if word / 2 ^ 52 = 0 then (word % 2 ^ 52 : ℕ) * (2 : ℚ) ^ (-1074 : ℤ)
  else (2 ^ 52 + word % 2 ^ 52 : ℕ) * (2 : ℚ) ^ ((word / 2 ^ 52 : ℕ) - 1075 : ℤ)

/-- The word whose value is a nonnegative rational, when there is one. -/
def magnitudeBits (value : ℚ) : ℕ :=
  if value = 0 then 0
  else
    let exponent := Int.log 2 value
    if exponent < -1022 then ⌊value * (2 : ℚ) ^ (1074 : ℤ)⌋₊
    else (exponent + 1022).toNat * 2 ^ 52 + ⌊value * (2 : ℚ) ^ (52 - exponent)⌋₊

/-- Powers of two are positive. -/
private theorem two_zpow_pos (k : ℤ) : (0 : ℚ) < (2 : ℚ) ^ k := zpow_pos (by norm_num) k

/-- The magnitude of a word is not negative. -/
theorem magnitude_nonneg (word : ℕ) : 0 ≤ magnitude word := by
  unfold magnitude
  split
  · exact mul_nonneg (Nat.cast_nonneg _) (two_zpow_pos _).le
  · exact mul_nonneg (Nat.cast_nonneg _) (two_zpow_pos _).le

/-- It is zero for the zero word only. -/
theorem magnitude_eq_zero_iff (word : ℕ) : magnitude word = 0 ↔ word = 0 := by
  unfold magnitude
  split
  · next hexponent =>
    rw [mul_eq_zero, or_iff_left (two_zpow_pos _).ne', Nat.cast_eq_zero]
    omega
  · next hexponent =>
    rw [mul_eq_zero, or_iff_left (two_zpow_pos _).ne', Nat.cast_eq_zero]
    omega

/-- The binary logarithm of a natural number between two powers, scaled by a power. -/
private theorem log_mul_zpow {n : ℕ} {a b : ℤ} {k : ℤ} (hpos : 0 < n)
    (hlower : (2 : ℚ) ^ a ≤ n) (hupper : (n : ℚ) < (2 : ℚ) ^ b) :
    a + k ≤ Int.log 2 ((n : ℚ) * (2 : ℚ) ^ k) ∧ Int.log 2 ((n : ℚ) * (2 : ℚ) ^ k) < b + k := by
  have hn : (0 : ℚ) < n := Nat.cast_pos.mpr hpos
  have hvalue : (0 : ℚ) < (n : ℚ) * (2 : ℚ) ^ k := mul_pos hn (two_zpow_pos k)
  constructor
  · rw [← Int.zpow_le_iff_le_log (by norm_num) hvalue]
    push_cast
    rw [zpow_add₀ (by norm_num)]
    exact mul_le_mul_of_nonneg_right hlower (two_zpow_pos k).le
  · rw [← Int.lt_zpow_iff_log_lt (by norm_num) hvalue]
    push_cast
    rw [zpow_add₀ (by norm_num)]
    exact mul_lt_mul_of_pos_right hupper (two_zpow_pos k)

/-- Scaling down and up again gives the number back. -/
private theorem floor_mul_zpow (n : ℕ) {k l : ℤ} (hcancel : k + l = 0) :
    ⌊(n : ℚ) * (2 : ℚ) ^ k * (2 : ℚ) ^ l⌋₊ = n := by
  rw [mul_assoc, ← zpow_add₀ (by norm_num), hcancel, zpow_zero, mul_one, Nat.floor_natCast]

/-- **Words of values.** The word of the value of a finite word is that word. -/
theorem magnitudeBits_magnitude {word : ℕ} (hword : word < 2047 * 2 ^ 52) :
    magnitudeBits (magnitude word) = word := by
  by_cases hzero : word = 0
  · subst hzero
    rw [magnitudeBits, if_pos ((magnitude_eq_zero_iff 0).mpr rfl)]
  rw [magnitudeBits, if_neg (mt (magnitude_eq_zero_iff word).mp hzero)]
  dsimp only
  unfold magnitude
  split
  · next hexponent =>
    have hfraction : word % 2 ^ 52 = word := by omega
    rw [hfraction]
    have hlower : (2 : ℚ) ^ (0 : ℤ) ≤ word := by
      rw [zpow_zero, Nat.one_le_cast]
      omega
    have hupper : (word : ℚ) < (2 : ℚ) ^ (52 : ℤ) := by
      have hlt : word < 2 ^ 52 := by omega
      exact_mod_cast hlt
    obtain ⟨-, hlog⟩ := log_mul_zpow (k := -1074) (by omega) hlower hupper
    rw [if_pos (by omega), floor_mul_zpow word (by norm_num)]
  · next hexponent =>
    have hlower : (2 : ℚ) ^ (52 : ℤ) ≤ (2 ^ 52 + word % 2 ^ 52 : ℕ) := by
      have hle : 2 ^ 52 ≤ 2 ^ 52 + word % 2 ^ 52 := by omega
      exact_mod_cast hle
    have hupper : ((2 ^ 52 + word % 2 ^ 52 : ℕ) : ℚ) < (2 : ℚ) ^ (53 : ℤ) := by
      have hlt : 2 ^ 52 + word % 2 ^ 52 < 2 ^ 53 := by omega
      exact_mod_cast hlt
    obtain ⟨hge, hlt⟩ := log_mul_zpow (k := (word / 2 ^ 52 : ℕ) - 1075) (by omega) hlower hupper
    have hlog : Int.log 2 (((2 ^ 52 + word % 2 ^ 52 : ℕ) : ℚ) *
        (2 : ℚ) ^ ((word / 2 ^ 52 : ℕ) - 1075 : ℤ)) = (word / 2 ^ 52 : ℕ) - 1023 := by omega
    rw [hlog, if_neg (by omega), floor_mul_zpow _ (by ring)]
    omega

end TradeBot.Library.Binary64
