import Mathlib.Algebra.Order.Ring.Nat
import Mathlib.Tactic.Common

/-!
# Doubling up to a limit

The delays of an exponential backoff: each is twice the one before it, and none exceeds a limit.
-/

namespace TradeBot.Library

/-- The delay after `k` doublings. -/
def cappedDoubling (initial limit k : ℕ) : ℕ := min (initial * 2 ^ k) limit

variable {initial limit : ℕ}

/-- Without a doubling the initial value stands. -/
theorem cappedDoubling_zero (h : initial ≤ limit) : cappedDoubling initial limit 0 = initial := by
  simp [cappedDoubling, h]

/-- The limit is never passed. -/
theorem cappedDoubling_le_limit (initial limit k : ℕ) : cappedDoubling initial limit k ≤ limit :=
  Nat.min_le_right _ _

/-- Doubling a delay and cutting it at the limit again gives the next one. -/
theorem cappedDoubling_succ (initial limit k : ℕ) :
    min (cappedDoubling initial limit k * 2) limit = cappedDoubling initial limit (k + 1) := by
  unfold cappedDoubling
  rw [pow_succ, ← Nat.mul_assoc]
  omega

end TradeBot.Library
