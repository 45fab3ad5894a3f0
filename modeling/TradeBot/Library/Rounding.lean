import Mathlib.Algebra.Order.Field.Basic
import Mathlib.Algebra.Order.Group.Abs
import Mathlib.Data.Int.Cast.Lemmas
import Mathlib.Tactic.Linarith
import Mathlib.Tactic.FieldSimp

/-!
# Rounding to integers

What it means for an integer to be a number rounded toward zero, or rounded to the nearest
integer with ties away from zero. Both determine the integer, both are odd in the number,
and on a quotient of naturals both are a quotient of naturals.
-/

namespace TradeBot.Library

section Definitions

variable {α : Type*} [Field α] [LinearOrder α]

/-- The integer is the number without its fractional part. -/
structure TruncatesTo (q : α) (z : ℤ) : Prop where
  sign : 0 ≤ q * z
  le : |(z : α)| ≤ |q|
  lt : |q| < |(z : α)| + 1

/-- No integer is nearer to the number, and none that is as near is further from zero. -/
structure RoundsTo (q : α) (z : ℤ) : Prop where
  nearest : ∀ m : ℤ, |q - z| ≤ |q - m|
  away : ∀ m : ℤ, |q - z| = |q - m| → |m| ≤ |z|

/-- Truncation commutes with negation. -/
theorem TruncatesTo.neg {q : α} {z : ℤ} (h : TruncatesTo q z) : TruncatesTo (-q) (-z) := by
  constructor
  · rw [Int.cast_neg, neg_mul_neg]
    exact h.sign
  · rw [Int.cast_neg, abs_neg, abs_neg]
    exact h.le
  · rw [Int.cast_neg, abs_neg, abs_neg]
    exact h.lt

/-- Rounding half away from zero commutes with negation. -/
theorem RoundsTo.neg {q : α} {z : ℤ} (h : RoundsTo q z) : RoundsTo (-q) (-z) := by
  have habs (m : ℤ) : |-q - (m : ℤ)| = |q - ((-m : ℤ) : α)| := by
    rw [Int.cast_neg, ← abs_neg, neg_sub, sub_neg_eq_add, sub_neg_eq_add, add_comm]
  constructor
  · intro m
    rw [habs, habs, neg_neg]
    exact h.nearest (-m)
  · intro m hm
    rw [habs, habs, neg_neg] at hm
    rw [abs_neg, ← abs_neg m]
    exact h.away (-m) hm

end Definitions

variable {α : Type*} [Field α] [LinearOrder α] [IsStrictOrderedRing α]

/-- A number has one truncation. -/
theorem TruncatesTo.unique {q : α} {a b : ℤ} (h : TruncatesTo q a) (h' : TruncatesTo q b) :
    a = b := by
  have hab : |a| = |b| := by
    have hle : (|a| : ℤ) < |b| + 1 := by
      have hlt := lt_of_le_of_lt h.le h'.lt
      exact_mod_cast hlt
    have hge : (|b| : ℤ) < |a| + 1 := by
      have hlt := lt_of_le_of_lt h'.le h.lt
      exact_mod_cast hlt
    omega
  rcases abs_eq_abs.mp hab with heq | hneg
  · exact heq
  · -- opposite signs leave zero only
    have hsign := h.sign
    rw [hneg, Int.cast_neg, mul_neg] at hsign
    have hzero : q * b = 0 := le_antisymm (by linarith) h'.sign
    rcases mul_eq_zero.mp hzero with hq | hb
    · have hle := h'.le
      rw [hq, abs_zero] at hle
      have hb : (b : α) = 0 := abs_nonpos_iff.mp hle
      have hb : b = 0 := by exact_mod_cast hb
      omega
    · have hb : b = 0 := by exact_mod_cast hb
      omega

/-- A number has one nearest integer with ties away from zero. -/
theorem RoundsTo.unique {q : α} {a b : ℤ} (h : RoundsTo q a) (h' : RoundsTo q b) : a = b := by
  have hsame : |q - a| = |q - b| := le_antisymm (h.nearest b) (h'.nearest a)
  have habs : |a| = |b| := le_antisymm (h'.away a hsame.symm) (h.away b hsame)
  rcases abs_eq_abs.mp habs with heq | hneg
  · exact heq
  · -- at equal distance from two opposite integers the number is zero
    have hnear := h.nearest 0
    have hcast : (a : α) = -b := by rw [hneg, Int.cast_neg]
    rw [hcast, sub_neg_eq_add] at hsame
    have hzero : q = 0 ∨ (b : α) = 0 := by
      rcases abs_eq_abs.mp hsame with hplus | hminus
      · right
        linarith
      · left
        linarith
    rcases hzero with hq | hb
    · rw [hq, Int.cast_zero, sub_zero, abs_zero, zero_sub, abs_neg] at hnear
      have ha : (a : α) = 0 := abs_nonpos_iff.mp hnear
      have ha : a = 0 := by exact_mod_cast ha
      omega
    · have hb : b = 0 := by exact_mod_cast hb
      omega

/-- A truncation of a nonnegative number does not exceed it. -/
theorem TruncatesTo.le_of_nonneg {q : α} {z : ℤ} (h : TruncatesTo q z) (hq : 0 ≤ q) :
    (z : α) ≤ q := by
  have hle := h.le
  rw [abs_of_nonneg hq] at hle
  exact (le_abs_self _).trans hle

/-- The next integer after a truncation of a nonnegative number exceeds it. -/
theorem TruncatesTo.lt_of_nonneg {q : α} {z : ℤ} (h : TruncatesTo q z) (hq : 0 ≤ q) :
    q < z + 1 := by
  have hlt := h.lt
  rw [abs_of_nonneg hq] at hlt
  have hz : (0 : α) ≤ z := by
    by_contra hneg
    have hneg : (z : α) < 0 := not_le.mp hneg
    have hzero : q = 0 := by
      by_contra hne
      have hmul := mul_neg_of_pos_of_neg (lt_of_le_of_ne hq (Ne.symm hne)) hneg
      exact absurd h.sign (not_le.mpr hmul)
    have hle := h.le
    rw [hzero, abs_zero, abs_nonpos_iff] at hle
    exact absurd hle hneg.ne
  rwa [abs_of_nonneg hz] at hlt

/-- An integer that bounds a number bounds its rounding. -/
theorem RoundsTo.le_of_le {q : α} {z m : ℤ} (h : RoundsTo q z) (hq : q ≤ m) : z ≤ m := by
  by_contra hlt
  have hlt : (m : α) < z := by exact_mod_cast not_le.mp hlt
  have hnear := h.nearest m
  rw [abs_of_neg (by linarith), abs_of_nonpos (by linarith)] at hnear
  linarith

/-- An integer within one half of the number is nearest to it, and it is the one away from zero
when it is further from zero than the number. -/
theorem roundsTo_of_half {q : α} {z : ℤ} (hle : |q - z| ≤ 1 / 2)
    (htie : |q - z| = 1 / 2 → |q| < |(z : α)|) : RoundsTo q z := by
  have hapart {m : ℤ} (hm : m ≠ z) : 1 ≤ |q - z| + |q - m| := by
    have hone : 1 ≤ |z - m| := Int.one_le_abs (sub_ne_zero.mpr hm.symm)
    have hone : (1 : α) ≤ |(z : α) - m| := by exact_mod_cast hone
    have htriangle := abs_sub_le (z : α) q m
    rw [abs_sub_comm (z : α) q] at htriangle
    linarith
  constructor
  · intro m
    by_cases hm : m = z
    · rw [hm]
    · have hsum := hapart hm
      linarith
  · intro m hsame
    by_cases hm : m = z
    · rw [hm]
    · have hsum := hapart hm
      have hhalf : |q - z| = 1 / 2 := by linarith
      have hlt := htie hhalf
      have htriangle := abs_sub_abs_le_abs_sub (m : α) q
      rw [abs_sub_comm (m : α) q] at htriangle
      have hclose : |(m : α)| < |(z : α)| + 1 := by linarith
      have hclose : |m| < |z| + 1 := by exact_mod_cast hclose
      omega

/-- An integer is its own rounding. -/
theorem roundsTo_intCast (z : ℤ) : RoundsTo (z : α) z := by
  apply roundsTo_of_half
  · rw [sub_self, abs_zero]
    norm_num
  · intro h
    rw [sub_self, abs_zero] at h
    norm_num at h

/-- Rounding is monotone. -/
theorem RoundsTo.mono {q q' : α} {z z' : ℤ} (h : RoundsTo q z) (h' : RoundsTo q' z')
    (hle : q ≤ q') : z ≤ z' := by
  by_contra hlt
  have hlt : (z' : α) < z := by exact_mod_cast not_le.mp hlt
  have hnear := h.nearest z'
  have hnear' := h'.nearest z
  -- each number is on its own side of the midpoint, so both are the midpoint
  have hmid : z + z' ≤ 2 * q := by
    by_contra hbelow
    have hbelow := not_le.mp hbelow
    rw [abs_of_neg (by linarith)] at hnear
    rcases abs_cases (q - z') with hcase | hcase <;> linarith
  have hmid' : 2 * q' ≤ z + z' := by
    by_contra habove
    have habove := not_le.mp habove
    rw [abs_of_pos (by linarith)] at hnear'
    rcases abs_cases (q' - z) with hcase | hcase <;> linarith
  have heq : q = q' := by linarith
  subst heq
  rw [h.unique h'] at hlt
  exact lt_irrefl _ hlt

/-- A rounding is positive from one half on. -/
theorem RoundsTo.pos_iff {q : α} {z : ℤ} (h : RoundsTo q z) : 0 < z ↔ 1 / 2 ≤ q := by
  constructor
  · intro hpos
    have hpos : (1 : α) ≤ z := by exact_mod_cast hpos
    have hnear := h.nearest 0
    rw [Int.cast_zero, sub_zero] at hnear
    rcases abs_cases q with hq | hq <;> rcases abs_cases (q - z) with hz | hz <;> linarith
  · intro hhalf
    by_contra hnonpos
    have hnonpos : (z : α) ≤ 0 := by exact_mod_cast not_lt.mp hnonpos
    have hnear := h.nearest 1
    rw [Int.cast_one] at hnear
    have htie : q = 1 / 2 ∧ (z : α) = 0 := by
      rcases abs_cases (q - 1) with hq | hq <;> rcases abs_cases (q - z) with hz | hz <;>
        constructor <;> linarith
    obtain ⟨hq, hz⟩ := htie
    have haway := h.away 1 (by rw [hq, hz, Int.cast_one]; norm_num [abs_of_neg])
    have hz : z = 0 := by exact_mod_cast hz
    rw [hz] at haway
    norm_num at haway

/-- The quotient of naturals is the truncation of their ratio. -/
theorem truncatesTo_div (n : ℕ) {d : ℕ} (hd : 0 < d) :
    TruncatesTo ((n : α) / d) ((n / d : ℕ) : ℤ) := by
  have hdpos : (0 : α) < d := by exact_mod_cast hd
  have hn : (0 : α) ≤ n := Nat.cast_nonneg n
  have hk : (0 : α) ≤ (n / d : ℕ) := Nat.cast_nonneg _
  have hlow : ((n / d : ℕ) : α) * d ≤ n := by exact_mod_cast Nat.div_mul_le_self n d
  have hhigh : (n : α) < ((n / d : ℕ) + 1) * d := by
    exact_mod_cast Nat.lt_mul_of_div_lt (Nat.lt_succ_self (n / d)) hd
  have hq : (0 : α) ≤ n / d := div_nonneg hn hdpos.le
  constructor
  · rw [Int.cast_natCast]
    exact mul_nonneg hq hk
  · rw [Int.cast_natCast, abs_of_nonneg hk, abs_of_nonneg hq, le_div_iff₀ hdpos]
    exact hlow
  · rw [Int.cast_natCast, abs_of_nonneg hk, abs_of_nonneg hq, div_lt_iff₀ hdpos]
    exact hhigh

/-- The quotient of naturals with half the divisor added is their rounded ratio. -/
theorem roundsTo_div (n : ℕ) {d : ℕ} (hd : 0 < d) :
    RoundsTo ((n : α) / d) (((2 * n + d) / (2 * d) : ℕ) : ℤ) := by
  have hdpos : (0 : α) < d := by exact_mod_cast hd
  generalize hk : (2 * n + d) / (2 * d) = k
  have hlow : k * (2 * d) ≤ 2 * n + d := hk ▸ Nat.div_mul_le_self _ _
  have hhigh : 2 * n + d < (k + 1) * (2 * d) :=
    hk ▸ Nat.lt_mul_of_div_lt (Nat.lt_succ_self _) (by omega)
  have hlow : (k : α) * (2 * d) ≤ 2 * n + d := by exact_mod_cast hlow
  have hhigh : (2 * n + d : α) < (k + 1) * (2 * d) := by exact_mod_cast hhigh
  have hbelow : -(1 / 2) ≤ (n : α) / d - k := by
    have hle : (k : α) - 1 / 2 ≤ n / d := by
      rw [le_div_iff₀ hdpos]
      linarith
    linarith
  have habove : (n : α) / d - k < 1 / 2 := by
    rw [sub_lt_iff_lt_add', div_lt_iff₀ hdpos]
    linarith
  have hq : (0 : α) ≤ n / d := div_nonneg (Nat.cast_nonneg n) hdpos.le
  apply roundsTo_of_half
  · rw [Int.cast_natCast]
    exact abs_le.mpr ⟨hbelow, habove.le⟩
  · intro hhalf
    rw [Int.cast_natCast] at hhalf ⊢
    rw [abs_of_nonneg hq, abs_of_nonneg (Nat.cast_nonneg k)]
    rcases abs_eq (by norm_num) |>.mp hhalf with hup | hdown
    · linarith
    · linarith

end TradeBot.Library
