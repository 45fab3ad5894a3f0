import TradeBot.FinancialExactness
import TradeBot.Library.Rounding
import Mathlib.Data.Nat.Cast.Field

/-!
# Correct rounding of products and quotients

What each rounding mode asks of an exact rational, in terms of the rational alone. Products,
ratios and shares of units meet it: they are the correctly rounded value of the exact one, and
absent exactly when that value does not fit a signed word or does not exist.
-/

namespace TradeBot.Financial

open Library

/-- The integer is the number rounded under the mode. -/
def Rounding.Rounds : Rounding → ℚ → ℤ → Prop
  | .towardZero, q, z => TruncatesTo q z
  | .rejectUnaligned, q, z => (z : ℚ) = q
  | .nearestTiesAwayFromZero, q, z => RoundsTo q z

/-- The word is the number rounded under the mode. There is none when the rounded number does
not fit, or when the mode rejects the number because it is no integer. -/
structure Rounding.Yields (rounding : Rounding) (q : ℚ) (result : Option Int64) : Prop where
  some_iff : ∀ c, result = some c ↔ rounding.Rounds q c.toInt
  none_iff : result = none ↔
    (∃ z, rounding.Rounds q z ∧ ¬(-2 ^ 63 ≤ z ∧ z < 2 ^ 63)) ∨
      (rounding = .rejectUnaligned ∧ ∀ z : ℤ, (z : ℚ) ≠ q)

variable {rounding : Rounding} {q : ℚ} {n d k : ℕ} {negative : Bool}

/-- A rounding has one result. -/
theorem Rounding.Rounds.unique {y z : ℤ} (h : rounding.Rounds q y) (h' : rounding.Rounds q z) :
    y = z := by
  cases rounding with
  | towardZero => exact TruncatesTo.unique h h'
  | rejectUnaligned => exact_mod_cast (h : (y : ℚ) = q).trans (h' : (z : ℚ) = q).symm
  | nearestTiesAwayFromZero => exact RoundsTo.unique h h'

/-- It commutes with negation. -/
theorem Rounding.Rounds.neg {z : ℤ} (h : rounding.Rounds q z) : rounding.Rounds (-q) (-z) := by
  cases rounding with
  | towardZero => exact TruncatesTo.neg h
  | rejectUnaligned =>
    change ((-z : ℤ) : ℚ) = -q
    rw [Int.cast_neg, (h : (z : ℚ) = q)]
  | nearestTiesAwayFromZero => exact RoundsTo.neg h

/-- The quotient that the code computes is the rounded ratio. -/
theorem rounds_of_roundedQuotient (hd : 0 < d) (h : roundedQuotient rounding n d = some k) :
    rounding.Rounds ((n : ℚ) / d) k := by
  cases rounding with
  | towardZero =>
    obtain rfl : n / d = k := Option.some.inj h
    exact truncatesTo_div n hd
  | rejectUnaligned =>
    simp only [roundedQuotient] at h
    split at h
    · next hzero =>
      obtain rfl : n / d = k := Option.some.inj h
      have hne : (d : ℚ) ≠ 0 := by
        have hne : d ≠ 0 := by omega
        exact_mod_cast hne
      change ((n / d : ℕ) : ℤ) = ((n : ℚ) / d)
      rw [Int.cast_natCast, Nat.cast_div (Nat.dvd_of_mod_eq_zero hzero) hne]
    · cases h
  | nearestTiesAwayFromZero =>
    obtain rfl : (2 * n + d) / (2 * d) = k := Option.some.inj h
    exact roundsTo_div n hd

/-- Only a ratio that is no integer has no quotient. -/
theorem of_roundedQuotient_eq_none (hd : 0 < d) (h : roundedQuotient rounding n d = none) :
    rounding = .rejectUnaligned ∧ ∀ z : ℤ, (z : ℚ) ≠ (n : ℚ) / d := by
  cases rounding with
  | towardZero => cases h
  | rejectUnaligned =>
    refine ⟨rfl, fun z hz => ?_⟩
    simp only [roundedQuotient] at h
    split at h
    · cases h
    · next hnonzero =>
      have hne : (d : ℚ) ≠ 0 := by
        have hne : d ≠ 0 := by omega
        exact_mod_cast hne
      rw [eq_div_iff hne] at hz
      have hz : z * d = n := by exact_mod_cast hz
      have hdvd : (d : ℤ) ∣ n := ⟨z, by rw [← hz, mul_comm]⟩
      exact hnonzero (Nat.mod_eq_zero_of_dvd (by exact_mod_cast hdvd))
  | nearestTiesAwayFromZero => cases h

/-- A signed word of the quotient is the rounded signed ratio. -/
theorem yields_signed (hd : 0 < d) : rounding.Yields ((signed negative n : ℚ) / d)
    ((roundedQuotient rounding n d).bind fun k => fit (signed negative k)) := by
  have hsigned : ((signed negative n : ℤ) : ℚ) / d =
      if negative then -((n : ℚ) / d) else (n : ℚ) / d := by
    unfold signed
    split
    · rw [Int.cast_neg, Int.cast_natCast, neg_div]
    · rw [Int.cast_natCast]
  rw [hsigned]
  cases hk : roundedQuotient rounding n d with
  | none =>
    obtain ⟨rfl, hnot⟩ := of_roundedQuotient_eq_none hd hk
    have hnot : ∀ z : ℤ, (z : ℚ) ≠ if negative then -((n : ℚ) / d) else (n : ℚ) / d := by
      intro z hz
      split at hz
      · exact hnot (-z) (by rw [Int.cast_neg, hz, neg_neg])
      · exact hnot z hz
    constructor
    · intro c
      exact ⟨fun h => (by cases h), fun h => absurd h (hnot c.toInt)⟩
    · exact ⟨fun _ => .inr ⟨rfl, hnot⟩, fun _ => rfl⟩
  | some k =>
    have hrounds : rounding.Rounds (if negative then -((n : ℚ) / d) else (n : ℚ) / d)
        (signed negative k) := by
      unfold signed
      split
      · exact (rounds_of_roundedQuotient hd hk).neg
      · exact rounds_of_roundedQuotient hd hk
    rw [Option.bind_some]
    constructor
    · intro c
      rw [fit_eq_some_iff]
      constructor
      · intro h
        rw [h]
        exact hrounds
      · intro h
        exact h.unique hrounds
    · constructor
      · intro h
        refine .inl ⟨_, hrounds, fun hfits => ?_⟩
        rw [fit, if_pos hfits] at h
        cases h
      · rintro (⟨z, hz, hlarge⟩ | ⟨rfl, hnot⟩)
        · rw [hz.unique hrounds] at hlarge
          rw [fit, if_neg hlarge]
        · exact absurd hrounds (hnot _)

/-- An integer is its sign and its absolute value. -/
theorem signed_natAbs (z : ℤ) : signed (decide (z < 0)) z.natAbs = z := by
  unfold signed
  split
  · next h =>
    rw [decide_eq_true_iff] at h
    omega
  · next h =>
    rw [decide_eq_true_iff] at h
    omega

/-- Signs and absolute values multiply separately. -/
theorem signed_mul (s t : Bool) (m n : ℕ) : signed (s != t) (m * n) = signed s m * signed t n := by
  cases s <;> cases t <;> simp [signed]

/-- The sign of a divisor goes to the quotient. -/
theorem signed_div (s : Bool) (m : ℕ) (z : ℤ) :
    (signed s m : ℚ) / z = (signed (s != decide (z < 0)) m : ℚ) / z.natAbs := by
  by_cases hz : z < 0
  · have habs : (z : ℚ) = -(z.natAbs : ℚ) := by
      have habs : z = -(z.natAbs : ℤ) := by omega
      rw [← Int.cast_natCast, ← Int.cast_neg, ← habs]
    rw [decide_eq_true hz, habs]
    cases s with
    | false =>
      rw [show signed (false != true) m = -signed false m from rfl, Int.cast_neg, div_neg, neg_div]
    | true =>
      rw [show signed true m = -signed (true != true) m from rfl, Int.cast_neg, neg_div_neg_eq]
  · have habs : (z : ℚ) = (z.natAbs : ℚ) := by
      have habs : z = (z.natAbs : ℤ) := by omega
      rw [← Int.cast_natCast, ← habs]
    rw [decide_eq_false hz, Bool.bne_false, ← habs]

/-- A nonzero word has a positive absolute value. -/
private theorem natAbs_pos_of_ne {z : Int64} (hz : z ≠ 0) : 0 < z.toInt.natAbs := by
  rw [Int.natAbs_pos]
  intro hzero
  exact hz (Int64.toInt_inj.mp hzero)

/-- The product of two scaled words is the rounded exact product, or an overflow. -/
theorem scaledProduct_yields (rounding : Rounding) (lhs rhs : Int64) :
    rounding.Yields (lhs.toInt * rhs.toInt / scaleFactor.toInt)
      (scaledProduct lhs rhs rounding) := by
  have hexact : (lhs.toInt * rhs.toInt / scaleFactor.toInt : ℚ) =
      (signed (decide (lhs.toInt < 0) != decide (rhs.toInt < 0))
        (lhs.toInt.natAbs * rhs.toInt.natAbs) : ℚ) / (10 ^ 8 : ℕ) := by
    rw [signed_mul, signed_natAbs, signed_natAbs, show scaleFactor.toInt = 10 ^ 8 from rfl]
    push_cast
    rfl
  rw [scaledProduct_eq, hexact]
  exact yields_signed (by norm_num)

/-- The ratio of two scaled words is the rounded exact ratio, or an overflow. -/
theorem scaledRatio_yields (rounding : Rounding) (numerator : Int64) {denominator : Int64}
    (hne : denominator ≠ 0) :
    rounding.Yields (numerator.toInt * scaleFactor.toInt / denominator.toInt)
      (scaledRatio numerator denominator rounding) := by
  have hscaled : signed (decide (numerator.toInt < 0)) (numerator.toInt.natAbs * 10 ^ 8) =
      numerator.toInt * scaleFactor.toInt := by
    have hmul := signed_mul (decide (numerator.toInt < 0)) false numerator.toInt.natAbs (10 ^ 8)
    rw [Bool.bne_false, signed_natAbs] at hmul
    exact hmul
  have hexact : (numerator.toInt * scaleFactor.toInt / denominator.toInt : ℚ) =
      (signed (decide (numerator.toInt < 0) != decide (denominator.toInt < 0))
        (numerator.toInt.natAbs * 10 ^ 8) : ℚ) / denominator.toInt.natAbs := by
    rw [← signed_div, hscaled, Int.cast_mul]
  rw [scaledRatio_eq _ hne, hexact]
  exact yields_signed (natAbs_pos_of_ne hne)

/-- A share of a total is the rounded exact share, or an overflow. -/
theorem proportionalUnits_yields (rounding : Rounding) (total part : Int64) {whole : Int64}
    (hne : whole ≠ 0) :
    rounding.Yields (total.toInt * part.toInt / whole.toInt)
      (proportionalUnits total part whole rounding) := by
  have hexact : (total.toInt * part.toInt / whole.toInt : ℚ) =
      (signed ((decide (total.toInt < 0) != decide (part.toInt < 0)) !=
        decide (whole.toInt < 0)) (total.toInt.natAbs * part.toInt.natAbs) : ℚ) /
          whole.toInt.natAbs := by
    rw [← signed_div, signed_mul, signed_natAbs, signed_natAbs, Int.cast_mul]
  rw [proportionalUnits_eq _ _ hne, hexact]
  exact yields_signed (natAbs_pos_of_ne hne)

/-- **Exact products and quotients.** Products, ratios and shares of units are the correctly
rounded exact values under every rounding mode, or absent when these do not fit or do not
exist. -/
theorem operations_yield (rounding : Rounding) :
    (∀ lhs rhs : Int64, rounding.Yields (lhs.toInt * rhs.toInt / scaleFactor.toInt)
      (scaledProduct lhs rhs rounding)) ∧
    (∀ numerator denominator : Int64, denominator ≠ 0 →
      rounding.Yields (numerator.toInt * scaleFactor.toInt / denominator.toInt)
        (scaledRatio numerator denominator rounding)) ∧
    (∀ total part whole : Int64, whole ≠ 0 →
      rounding.Yields (total.toInt * part.toInt / whole.toInt)
        (proportionalUnits total part whole rounding)) :=
  ⟨scaledProduct_yields rounding, fun numerator _ => scaledRatio_yields rounding numerator,
    fun total part _ => proportionalUnits_yields rounding total part⟩

end TradeBot.Financial
