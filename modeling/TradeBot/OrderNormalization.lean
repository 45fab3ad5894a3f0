import TradeBot.BrokerGateway
import TradeBot.FinancialDoubles
import TradeBot.Library.StepFloor

/-!
# Order normalization

Rescaling a decimal is exact upwards and truncates downwards, so a normalized
quantity is never more than the requested one; and a decimal that is already a
multiple of the step stays as it is.
-/

namespace TradeBot

open Library Financial

namespace Financial

/-- A product that fits a word is computed exactly. -/
theorem toInt_mul_of_fits {a b : Int64} (hl : -2 ^ 63 ≤ a.toInt * b.toInt)
    (hu : a.toInt * b.toInt < 2 ^ 63) : (a * b).toInt = a.toInt * b.toInt := by
  rw [Int64.toInt_mul]
  exact Int.bmod_eq_of_le (by omega) (by omega)

/-- Division of a word that is not negative is floor division. -/
theorem toInt_div_of_nonneg {a b : Int64} (ha : 0 ≤ a.toInt) :
    (a / b).toInt = a.toInt / b.toInt := by
  rw [Int64.toInt_div_of_ne_left]
  · rw [Int.tdiv_eq_ediv_of_nonneg ha]
  · rintro rfl
    exact absurd ha (by decide)

end Financial

/-! ### Decimals and values -/

/-- `subtract` is the difference of the numbers. -/
theorem Financial.subtract_eq_some_iff_toRat {tag : Tag} {a b c : Value tag} :
    subtract a b = some c ↔ c.toRat = a.toRat - b.toRat := by
  rw [subtract_eq_some_iff, Value.toRat, Value.toRat, Value.toRat, ← sub_div,
    div_left_inj' scaleFactor_pos.ne', ← Int.cast_sub, Int.cast_inj]

/-- The zero value stands for zero. -/
@[simp] theorem Financial.Value.toRat_zero {tag : Tag} : (0 : Value tag).toRat = 0 := by
  change ((0 : Int64).toInt : ℚ) / _ = 0
  rw [show (0 : Int64).toInt = 0 from rfl, Int.cast_zero, zero_div]

/-- A value at the engine's scale is the same number as a broker decimal. -/
@[simp] theorem Decimal64.toRat_units {tag : Tag} (value : Value tag) :
    Decimal64.toRat ⟨value.units, Financial.scale⟩ = value.toRat := by
  rw [Decimal64.toRat, Value.toRat, Financial.scaleFactor_eq]

/-! ### Rescaling -/

/-- Ten is a word. -/
private theorem toInt_ten : (10 : Int64).toInt = 10 := rfl

/-- Scaling up is exact. -/
theorem rescaleUp_eq_some {units scaled : Int64} {steps : ℕ}
    (h : rescaleUp units steps = some scaled) : scaled.toInt = units.toInt * 10 ^ steps := by
  induction steps generalizing units with
  | zero =>
    rw [rescaleUp, Option.some.injEq] at h
    rw [h, pow_zero, mul_one]
  | succ steps ih =>
    rw [rescaleUp] at h
    split at h
    · cases h
    · next hfits =>
      simp only [not_or, Int64.lt_iff_toInt_lt, not_lt] at hfits
      obtain ⟨hmax, hmin⟩ := hfits
      have hmax' : (Int64.maxValue / 10).toInt = 922337203685477580 := by decide
      have hmin' : (Int64.minValue / 10).toInt = -922337203685477580 := by decide
      have hmul : (units * 10).toInt = units.toInt * 10 := by
        rw [toInt_mul_of_fits] <;> rw [toInt_ten] <;> omega
      rw [ih h, hmul, pow_succ]
      ring

/-- Scaling a word down that is not negative truncates it. -/
theorem toInt_rescaleDown {units : Int64} (hunits : 0 ≤ units.toInt) (steps : ℕ) :
    (rescaleDown units steps).toInt = units.toInt / 10 ^ steps := by
  induction steps generalizing units with
  | zero => rw [rescaleDown, pow_zero, Int.ediv_one]
  | succ steps ih =>
    have hdiv : (units / 10).toInt = units.toInt / 10 := by
      rw [toInt_div_of_nonneg hunits, toInt_ten]
    rw [rescaleDown, ih (by rw [hdiv]; omega), hdiv, Int.ediv_ediv_of_nonneg (by norm_num),
      pow_succ']

/-- Every word on the way up is a multiple of the first by a power of ten. -/
theorem rescaleUp_fits {units scaled : Int64} {steps : ℕ}
    (h : rescaleUp units steps = some scaled) {k : ℕ} (hk : k ≤ steps) :
    ∃ word : Int64, word.toInt = units.toInt * 10 ^ k := by
  induction k generalizing units steps with
  | zero => exact ⟨units, by rw [pow_zero, mul_one]⟩
  | succ k ih =>
    cases steps with
    | zero => omega
    | succ steps =>
      have hone : rescaleUp units 1 = some (units * 10) := by
        rw [rescaleUp] at h ⊢
        split at h
        · cases h
        · next hfits =>
          rw [if_neg hfits]
          rfl
      have hten := rescaleUp_eq_some hone
      rw [rescaleUp] at h
      split at h
      · cases h
      · obtain ⟨word, hword⟩ := ih h (by omega)
        refine ⟨word, ?_⟩
        rw [hword, hten, pow_one, pow_succ']
        ring

/-- A decimal that is not positive stays so. -/
theorem rescaleTowardZero_nonpos {value scaled : Decimal64} {targetScale : ℕ}
    (hvalue : value.units.toInt ≤ 0) (h : rescaleTowardZero value targetScale = some scaled) :
    scaled.units.toInt ≤ 0 := by
  have hdown {units : Int64} (hunits : units.toInt ≤ 0) (steps : ℕ) :
      (rescaleDown units steps).toInt ≤ 0 := by
    induction steps generalizing units with
    | zero => exact hunits
    | succ steps ih =>
      apply ih
      rw [Int64.toInt_div_of_ne_right units 10 (by decide)]
      have hneg := Int.tdiv_nonneg (a := -units.toInt) (b := 10) (by omega) (by norm_num)
      rw [Int.neg_tdiv] at hneg
      exact neg_nonneg.mp hneg
  unfold rescaleTowardZero at h
  split at h
  · cases h
  · obtain ⟨units, hup, rfl⟩ := Option.map_eq_some_iff.mp h
    apply hdown
    rw [rescaleUp_eq_some hup]
    exact mul_nonpos_of_nonpos_of_nonneg hvalue (by positivity)

/-- A rescaled decimal is the greatest one of the new scale that does not exceed the old one. -/
theorem rescaleTowardZero_floor {value scaled : Decimal64} {targetScale : ℕ}
    (hvalue : 0 ≤ value.units.toInt) (h : rescaleTowardZero value targetScale = some scaled) :
    scaled.scale = targetScale ∧ 0 ≤ scaled.units.toInt ∧
      IsStepFloor (1 / 10 ^ targetScale) value.toRat scaled.toRat := by
  unfold rescaleTowardZero at h
  split at h
  · cases h
  · obtain ⟨units, hup, rfl⟩ := Option.map_eq_some_iff.mp h
    have hup := rescaleUp_eq_some hup
    have hunits : 0 ≤ units.toInt := by
      rw [hup]
      positivity
    have hdown := toInt_rescaleDown hunits (value.scale - targetScale)
    refine ⟨rfl, ?_, ?_⟩
    · rw [hdown]
      positivity
    · have hscales : value.scale + (targetScale - value.scale) =
          targetScale + (value.scale - targetScale) := by omega
      -- the numbers over the common denominator of both scales
      have hfloor := @IsStepFloor.of_ediv ℚ _ _ _
        (10 ^ (value.scale + (targetScale - value.scale))) (by positivity) units.toInt
        (10 ^ (value.scale - targetScale)) (by positivity)
      rw [← hdown] at hfloor
      have hstep : (((10 ^ (value.scale - targetScale) : ℤ) : ℚ) /
          10 ^ (value.scale + (targetScale - value.scale))) = 1 / 10 ^ targetScale := by
        rw [hscales, pow_add]
        push_cast
        field_simp
      have hnumber : (units.toInt : ℚ) / 10 ^ (value.scale + (targetScale - value.scale)) =
          value.toRat := by
        rw [hup, Decimal64.toRat, pow_add]
        push_cast
        field_simp
      have hresult : (((rescaleDown units (value.scale - targetScale)).toInt *
          10 ^ (value.scale - targetScale) : ℤ) : ℚ) /
            10 ^ (value.scale + (targetScale - value.scale)) =
          Decimal64.toRat ⟨rescaleDown units (value.scale - targetScale), targetScale⟩ := by
        rw [hscales, Decimal64.toRat, pow_add]
        push_cast
        field_simp
      rwa [hstep, hnumber, hresult] at hfloor

/-- The test for a positive decimal looks at its units. -/
theorem Decimal64.isPositive_iff (d : Decimal64) : d.isPositive = true ↔ 0 < d.units.toInt := by
  rw [Decimal64.isPositive, decide_eq_true_eq, Int64.lt_iff_toInt_lt]
  exact Iff.rfl

/-- The quotient and the product that `normalizeToStep` forms, when it returns. -/
theorem normalizeToStep_eq_some {value step normalized : Decimal64}
    (h : normalizeToStep value step = some normalized) :
    0 < value.units.toInt ∧ 0 < step.units.toInt ∧ ∃ scaled,
      rescaleTowardZero value step.scale = some scaled ∧ normalized.scale = step.scale ∧
      normalized.units.toInt = scaled.units.toInt / step.units.toInt * step.units.toInt := by
  unfold normalizeToStep at h
  split at h
  · cases h
  · next hpositive =>
    rw [Bool.or_eq_true, Bool.not_eq_true', Bool.not_eq_true', not_or, Bool.not_eq_false,
      Bool.not_eq_false, Decimal64.isPositive_iff, Decimal64.isPositive_iff] at hpositive
    obtain ⟨hvalue, hstep⟩ := hpositive
    obtain ⟨scaled, hscaled, rfl⟩ := Option.map_eq_some_iff.mp h
    obtain ⟨hscale, hnonneg, -⟩ := rescaleTowardZero_floor hvalue.le hscaled
    refine ⟨hvalue, hstep, scaled, hscaled, rfl, ?_⟩
    have hdiv := toInt_div_of_nonneg (b := step.units) hnonneg
    have hfloor : scaled.units.toInt / step.units.toInt * step.units.toInt ≤
        scaled.units.toInt := Int.ediv_mul_le _ hstep.ne'
    have hquotient : 0 ≤ scaled.units.toInt / step.units.toInt * step.units.toInt := by
      positivity
    have hlt := Int64.toInt_lt scaled.units
    dsimp only
    rw [toInt_mul_of_fits] <;> rw [hdiv] <;> omega

/-- A normalized decimal is the greatest multiple of the step that does not exceed the given
one. -/
theorem normalizeToStep_floor {value step normalized : Decimal64}
    (h : normalizeToStep value step = some normalized) :
    normalized.scale = step.scale ∧ 0 ≤ normalized.units.toInt ∧
      IsStepFloor step.toRat value.toRat normalized.toRat := by
  obtain ⟨hvalue, hstep, scaled, hscaled, hscale, hunits⟩ := normalizeToStep_eq_some h
  obtain ⟨hscale', hnonneg, hfine⟩ := rescaleTowardZero_floor hvalue.le hscaled
  refine ⟨hscale, ?_, ?_⟩
  · rw [hunits]
    positivity
  · have hcoarse : step.toRat = (step.units.toInt : ℚ) * (1 / 10 ^ step.scale) := by
      rw [Decimal64.toRat, mul_one_div]
    have hfloor := @IsStepFloor.of_ediv ℚ _ _ _ (10 ^ step.scale) (by positivity)
      scaled.units.toInt step.units.toInt hstep
    have hnormalized : normalized.toRat =
        ((scaled.units.toInt / step.units.toInt * step.units.toInt : ℤ) : ℚ) /
          10 ^ step.scale := by
      rw [Decimal64.toRat, hunits, hscale]
    have hscaled' : scaled.toRat = (scaled.units.toInt : ℚ) / 10 ^ step.scale := by
      rw [Decimal64.toRat, hscale']
    rw [← hnormalized, ← hscaled', ← mul_one_div] at hfloor
    rw [hcoarse]
    exact hfine.coarsen hfloor

/-- A normalized decimal is not negative and at most the given one. -/
theorem normalizeToStep_le {value step normalized : Decimal64}
    (h : normalizeToStep value step = some normalized) :
    normalized.scale = step.scale ∧ 0 ≤ normalized.units.toInt ∧
      normalized.toRat ≤ value.toRat := by
  obtain ⟨hscale, hnonneg, hfloor⟩ := normalizeToStep_floor h
  exact ⟨hscale, hnonneg, hfloor.le⟩

/-- A positive decimal stays as it is under a step of one unit of its own scale. -/
theorem normalizeToStep_unit {value : Decimal64} (hvalue : value.isPositive = true)
    (hscale : value.scale ≤ Decimal64.maxScale) :
    normalizeToStep value ⟨1, value.scale⟩ = some value := by
  have hone : (Decimal64.isPositive ⟨1, value.scale⟩) = true := rfl
  have hrescale : rescaleTowardZero value value.scale = some value := by
    simp only [rescaleTowardZero, not_lt.mpr hscale, or_self, if_false, Nat.sub_self, rescaleUp,
      Option.map_some, rescaleDown]
  simp only [normalizeToStep, hvalue, hone, Bool.not_true, Bool.or_self, Bool.false_eq_true,
    if_false, hrescale, Option.map_some, Int64.div_one, Int64.mul_one]

namespace BrokerGateway

/-- The quantity of an accepted order is positive and at most the requested one. -/
theorem normalizeQuantity_spec {spec : InstrumentSpec} {quantity normalized : Decimal64}
    (h : normalizeQuantity spec quantity = .ok normalized) :
    normalized.isPositive = true ∧ normalized.toRat ≤ quantity.toRat := by
  unfold normalizeQuantity at h
  split at h
  · cases h
  · next candidate hcandidate =>
    split at h
    · cases h
    · next hpositive =>
      split at h
      · split at h
        · cases h
        · cases h
          rw [Bool.not_eq_true, Bool.not_eq_false'] at hpositive
          exact ⟨hpositive, (normalizeToStep_le hcandidate).2.2⟩
      · cases h

/-- A normalized order carries its request, and at most the requested quantity. -/
theorem normalizeOrder_spec {gateway : BrokerGateway} {request : OrderRequest}
    {order : NormalizedOrder} (h : gateway.normalizeOrder request = .ok order) :
    order.request = request ∧ order.normalizedQuantity.isPositive = true ∧
      order.normalizedQuantity.toRat ≤ request.quantity.toRat := by
  unfold normalizeOrder at h
  split at h
  · cases h
  · split at h
    · cases h
    · simp only at h
      split at h
      · cases h
      · split at h
        · cases h
        · next normalized hnormalized =>
          split at h
          · cases h
          · cases h
            exact ⟨rfl, normalizeQuantity_spec hnormalized⟩

end BrokerGateway

end TradeBot
