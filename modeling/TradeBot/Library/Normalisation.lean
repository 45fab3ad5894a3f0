import Mathlib.Algebra.Order.BigOperators.Group.List
import Mathlib.Algebra.Order.Field.Basic
import Mathlib.Algebra.Order.Group.Abs

/-!
# Weights that are scaled down to a total of one

A list of weights whose absolute values add up to more than one is divided by their sum.
-/

namespace TradeBot.Library

variable {K : Type*} [Field K] [LinearOrder K]

/-- The sum of the absolute values of a list of weights. -/
def absSum (weights : List K) : K := (weights.map fun w => |w|).sum

/-- Weights divided by their absolute sum when this is more than one. -/
def normalise (weights : List K) : List K :=
  if 1 < absSum weights then weights.map (· / absSum weights) else weights

/-- The sum of the absolute values does not depend on their order. -/
theorem absSum_eq_of_perm {weights weights' : List K} (h : weights.Perm weights') :
    absSum weights = absSum weights' :=
  (h.map _).sum_eq

/-- Weights that sum to one at most are kept. -/
theorem normalise_of_le {weights : List K} (h : absSum weights ≤ 1) :
    normalise weights = weights :=
  if_neg (not_lt.mpr h)

variable [IsStrictOrderedRing K]

/-- Dividing all weights divides their sum. -/
theorem absSum_map_div (weights : List K) {divisor : K} (h : 0 < divisor) :
    absSum (weights.map (· / divisor)) = absSum weights / divisor := by
  induction weights with
  | nil => simp [absSum]
  | cons w weights ih =>
    have hw : |w / divisor| = |w| / divisor := by rw [abs_div, abs_of_pos h]
    simp only [absSum, List.map_cons, List.sum_cons] at ih ⊢
    rw [ih, hw, add_div]

/-- The absolute values of normalised weights add up to at most one. -/
theorem absSum_normalise_le (weights : List K) : absSum (normalise weights) ≤ 1 := by
  unfold normalise
  split
  · rename_i hlt
    have hpos : 0 < absSum weights := lt_trans one_pos hlt
    rw [absSum_map_div weights hpos, div_self hpos.ne']
  · rename_i hle
    exact not_lt.mp hle

/-- Weights are normalised once. -/
theorem normalise_normalise (weights : List K) :
    normalise (normalise weights) = normalise weights :=
  normalise_of_le (absSum_normalise_le weights)

end TradeBot.Library
