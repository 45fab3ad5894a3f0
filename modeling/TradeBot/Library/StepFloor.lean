import Mathlib.Algebra.Order.Floor.Ring
import Mathlib.Algebra.Order.Field.Basic
import Mathlib.Order.Bounds.Basic
import Mathlib.Tactic.FieldSimp
import Mathlib.Tactic.Linarith
import Mathlib.Tactic.Ring

/-!
# Multiples of a step

The greatest multiple of a step that does not exceed a number. Going down to a fine step first
and to a multiple of it afterwards comes to the same as going down at once, and on numbers over
a common denominator it is the floor division of their numerators.
-/

namespace TradeBot.Library

variable {α : Type*} [Field α] [LinearOrder α]

/-- The number is the greatest multiple of the step that does not exceed the value. -/
def IsStepFloor (step value result : α) : Prop :=
  IsGreatest {x | (∃ k : ℤ, x = k * step) ∧ x ≤ value} result

namespace IsStepFloor

variable {step value result : α}

/-- The last step is not above the value. -/
theorem le (h : IsStepFloor step value result) : result ≤ value := h.1.2

/-- There is one last step. -/
theorem unique {other : α} (h : IsStepFloor step value result)
    (h' : IsStepFloor step value other) : result = other :=
  IsGreatest.unique h h'

/-- A multiple of the step that does not exceed the value does not exceed its floor. -/
theorem mul_le (h : IsStepFloor step value result) {k : ℤ} (hk : k * step ≤ value) :
    k * step ≤ result :=
  h.2 ⟨⟨k, rfl⟩, hk⟩

/-- **Two floors are one.** When the coarse step is a multiple of the fine one, the floor of a
fine floor is the floor. -/
theorem coarsen {fine mid : α} {n : ℤ} (hmid : IsStepFloor fine value mid)
    (h : IsStepFloor (n * fine) mid result) : IsStepFloor (n * fine) value result := by
  refine ⟨⟨h.1.1, h.le.trans hmid.le⟩, ?_⟩
  rintro x ⟨⟨k, rfl⟩, hk⟩
  apply h.mul_le
  have hfine : ((k * n : ℤ) : α) * fine = k * (n * fine) := by
    push_cast
    ring
  rw [← hfine] at hk ⊢
  exact hmid.mul_le hk

variable [IsStrictOrderedRing α]

/-- A multiple whose successor is above the value is the last one. -/
theorem of_lt {k : ℤ} (hstep : 0 < step) (hle : k * step ≤ value)
    (hlt : value < (k + 1) * step) : IsStepFloor step value (k * step) := by
  refine ⟨⟨⟨k, rfl⟩, hle⟩, ?_⟩
  rintro x ⟨⟨m, rfl⟩, hm⟩
  have hmk : (m : α) < k + 1 := lt_of_mul_lt_mul_right (lt_of_le_of_lt hm hlt) hstep.le
  have hmk : m < k + 1 := by exact_mod_cast hmk
  exact mul_le_mul_of_nonneg_right (by exact_mod_cast Int.lt_add_one_iff.mp hmk) hstep.le

/-- The next multiple exceeds the value. -/
theorem lt_add (h : IsStepFloor step value result) (hstep : 0 < step) : value < result + step := by
  by_contra hle
  obtain ⟨k, hk⟩ := h.1.1
  have hnext : result + step ≤ result := by
    apply h.2
    refine ⟨⟨k + 1, ?_⟩, not_lt.mp hle⟩
    rw [hk, Int.cast_add, Int.cast_one]
    ring
  linarith

/-- Over a common denominator the floor is a floor division. -/
theorem of_ediv {d : α} (hd : 0 < d) (v : ℤ) {s : ℤ} (hs : 0 < s) :
    IsStepFloor ((s : α) / d) (v / d) ((v / s * s : ℤ) / d) := by
  have hscast : (0 : α) < s := by exact_mod_cast hs
  have hresult : (((v / s * s : ℤ) : α) / d) = ((v / s : ℤ) : α) * (s / d) := by
    rw [Int.cast_mul, mul_div_assoc]
  rw [hresult]
  have hlow : ((v / s * s : ℤ) : α) ≤ v := by exact_mod_cast Int.ediv_mul_le v hs.ne'
  have hhigh : (v : α) < ((v / s + 1) * s : ℤ) := by
    exact_mod_cast Int.lt_ediv_add_one_mul_self v hs
  apply of_lt (div_pos hscast hd)
  · rw [← hresult]
    exact div_le_div_of_nonneg_right hlow hd.le
  · have hnext : (((v / s : ℤ) : α) + 1) * (s / d) = ((v / s + 1) * s : ℤ) / d := by
      push_cast
      ring
    rw [hnext]
    exact div_lt_div_of_pos_right hhigh hd

end IsStepFloor

end TradeBot.Library
