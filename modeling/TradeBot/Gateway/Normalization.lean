import Mathlib.Data.List.ReduceOption
import TradeBot.OrderNormalization

/-!
# What normalization makes of an order

Quantities and prices are rounded down to multiples of their steps, exactly and without
overflow. The bounds of the quantity are compared after they were cut to the scale of the step,
and a price that was rounded down is not checked again.
-/

namespace TradeBot

open Library Financial

/-- The integer is the value of a signed word. -/
def Fits (z : ℤ) : Prop := -2 ^ 63 ≤ z ∧ z < 2 ^ 63

/-- The value of a word fits a word. -/
theorem fits_toInt (word : Int64) : Fits word.toInt :=
  ⟨Int64.le_toInt word, Int64.toInt_lt word⟩

/-- The words on the way to another scale have the values that the multiplications by ten
would have without an overflow. -/
def RescalesExactly (value : Decimal64) (targetScale : ℕ) : Prop :=
  ∀ k ≤ targetScale - value.scale, Fits (value.units.toInt * 10 ^ k)

/-- A rescaled decimal is the one it should be. -/
theorem rescalesExactly_of_eq_some {value scaled : Decimal64} {targetScale : ℕ}
    (h : rescaleTowardZero value targetScale = some scaled) :
    RescalesExactly value targetScale := by
  intro k hk
  unfold rescaleTowardZero at h
  split at h
  · cases h
  · obtain ⟨units, hup, -⟩ := Option.map_eq_some_iff.mp h
    obtain ⟨word, hword⟩ := rescaleUp_fits hup hk
    rw [← hword]
    exact fits_toInt word

/-- A decimal was rounded down to a multiple of a step, and no word overflowed. -/
structure StepsExactly (step value normalized : Decimal64) : Prop where
  floor : IsStepFloor step.toRat value.toRat normalized.toRat
  rescaled : RescalesExactly value step.scale
  product : Fits (value.units.toInt * 10 ^ (step.scale - value.scale) /
    10 ^ (value.scale - step.scale) / step.units.toInt * step.units.toInt)

/-- A decimal that is moved to a step is on the last step below it. -/
theorem stepsExactly_of_eq_some {value step normalized : Decimal64}
    (h : normalizeToStep value step = some normalized) : StepsExactly step value normalized := by
  obtain ⟨-, -, hfloor⟩ := normalizeToStep_floor h
  obtain ⟨hvalue, -, scaled, hscaled, -, hunits⟩ := normalizeToStep_eq_some h
  refine ⟨hfloor, rescalesExactly_of_eq_some hscaled, ?_⟩
  unfold rescaleTowardZero at hscaled
  split at hscaled
  · cases hscaled
  · obtain ⟨units, hup, rfl⟩ := Option.map_eq_some_iff.mp hscaled
    have hup := rescaleUp_eq_some hup
    have hnonneg : 0 ≤ units.toInt := by
      rw [hup]
      positivity
    rw [← hup, ← toInt_rescaleDown hnonneg, ← hunits]
    exact fits_toInt normalized.units

namespace BrokerGateway

variable {gateway : BrokerGateway} {request : OrderRequest} {order : NormalizedOrder}
  {spec : InstrumentSpec} {quantity normalized : Decimal64}

/-- What an accepted quantity was checked for. -/
theorem normalizeQuantity_eq_ok (h : normalizeQuantity spec quantity = .ok normalized) :
    normalizeToStep quantity spec.quantityStep = some normalized ∧
      normalized.isPositive = true ∧ ∃ minimum maximum,
        rescaleTowardZero spec.minimumQuantity normalized.scale = some minimum ∧
        rescaleTowardZero spec.maximumQuantity normalized.scale = some maximum ∧
        minimum.units.toInt ≤ normalized.units.toInt ∧
        normalized.units.toInt ≤ maximum.units.toInt := by
  unfold normalizeQuantity at h
  split at h
  · cases h
  · next candidate hcandidate =>
    split at h
    · cases h
    · next hpositive =>
      rw [Bool.not_eq_true, Bool.not_eq_false'] at hpositive
      split at h
      · next minimum maximum hmin hmax =>
        split at h
        · cases h
        · next hbounds =>
          cases h
          rw [not_or, Int64.lt_iff_toInt_lt, Int64.lt_iff_toInt_lt, not_lt, not_lt] at hbounds
          exact ⟨hcandidate, hpositive, minimum, maximum, hmin, hmax, hbounds⟩
      · cases h

/-- The prices of a normalized order, each behind the price that was requested. -/
def pricePairs (order : NormalizedOrder) : List (Option Decimal64 × Option Decimal64) := [
  (order.request.limitPrice, order.normalizedLimitPrice),
  (order.request.stopPrice, order.normalizedStopPrice),
  (order.request.referencePrice, order.normalizedReferencePrice)]

/-- What an accepted order was checked for. -/
theorem normalizeOrder_eq_ok (h : gateway.normalizeOrder request = .ok order) :
    order.request = request ∧
      normalizeQuantity (gateway.instrumentOf request) request.quantity =
        .ok order.normalizedQuantity ∧
      ∀ pair ∈ pricePairs order,
        pair.2 = pair.1.bind (normalizeToStep · (gateway.instrumentOf request).tickSize) ∧
        (pair.1.isSome = true → pair.2.isSome = true) := by
  unfold normalizeOrder at h
  split at h
  · cases h
  · split at h
    · cases h
    · simp only at h
      split at h
      · cases h
      · split at h
        · cases h
        · next candidate hquantity =>
          split at h
          · cases h
          · next hprices =>
            cases h
            simp only [not_or, not_and, Bool.not_eq_true, Option.isNone_eq_false_iff] at hprices
            obtain ⟨hlimit, hstop, hreference⟩ := hprices
            refine ⟨rfl, hquantity, fun pair hpair => ?_⟩
            simp only [pricePairs, List.mem_cons, List.not_mem_nil, or_false] at hpair
            rcases hpair with rfl | rfl | rfl
            · exact ⟨rfl, hlimit⟩
            · exact ⟨rfl, hstop⟩
            · exact ⟨rfl, hreference⟩

/-- **Exact normalization.** An accepted order has a positive quantity; it and every price are
the greatest multiples of their steps that do not exceed what was requested, and no word
overflowed on the way, nor in the comparison with the bounds. -/
theorem normalizeOrder_exact (h : gateway.normalizeOrder request = .ok order) :
    let spec := gateway.instrumentOf request
    0 < order.normalizedQuantity.toRat ∧
      StepsExactly spec.quantityStep request.quantity order.normalizedQuantity ∧
      (∀ pair ∈ pricePairs order, ∀ normalized ∈ pair.2, ∃ price ∈ pair.1,
        StepsExactly spec.tickSize price normalized) ∧
      RescalesExactly spec.minimumQuantity order.normalizedQuantity.scale ∧
      RescalesExactly spec.maximumQuantity order.normalizedQuantity.scale := by
  obtain ⟨-, hquantity, hprices⟩ := normalizeOrder_eq_ok h
  obtain ⟨hstep, hpositive, minimum, maximum, hmin, hmax, -, -⟩ :=
    normalizeQuantity_eq_ok hquantity
  refine ⟨?_, stepsExactly_of_eq_some hstep, ?_, rescalesExactly_of_eq_some hmin,
    rescalesExactly_of_eq_some hmax⟩
  · exact Decimal64.toRat_pos_iff.mpr (of_decide_eq_true hpositive)
  · intro pair hpair normalized hnormalized
    rw [(hprices pair hpair).1] at hnormalized
    obtain ⟨price, hprice, hnormalized⟩ := Option.mem_bind_iff.mp hnormalized
    exact ⟨price, hprice, stepsExactly_of_eq_some hnormalized⟩

/-- An instrument traded in steps of 0.05 from 0.10 to 2.00, at prices of whole cents. -/
def synthetic : InstrumentSpec where
  version := 7
  canonicalSymbol := "SYNTH-USD"
  executionAlias := "SIM.SYNTHUSD"
  tickSize := ⟨1, 2⟩
  contractSize := ⟨1, 0⟩
  minimumQuantity := ⟨10, 2⟩
  maximumQuantity := ⟨200, 2⟩
  quantityStep := ⟨5, 2⟩
  complete := true

/-- A market order for a quantity at a reference price. -/
def marketRequest (quantity price : Decimal64) : OrderRequest where
  localOrderId := 10
  canonicalSymbol := "SYNTH-USD"
  quantity := quantity
  referencePrice := some price
  idempotencyKey := "synthetic"

/-- The order that normalization makes of such a request. -/
def marketOrder (quantity price normalizedQuantity normalizedPrice : Decimal64) :
    NormalizedOrder where
  request := marketRequest quantity price
  executionSymbol := "SIM.SYNTHUSD"
  normalizedQuantity := normalizedQuantity
  normalizedLimitPrice := none
  normalizedStopPrice := none
  normalizedReferencePrice := some normalizedPrice
  instrumentVersion := 7

/-- 1.239 at 100.123 becomes 1.20 at 100.12. -/
theorem normalizeOrder_exact_market :
    StepsExactly synthetic.quantityStep ⟨1239, 3⟩ ⟨120, 2⟩ ∧
      ∀ normalized ∈ some (Decimal64.mk 10012 2), ∃ price ∈ some (Decimal64.mk 100123 3),
        StepsExactly synthetic.tickSize price normalized := by
  have haccepted : (setInstrumentSpec {} synthetic).normalizeOrder
      (marketRequest ⟨1239, 3⟩ ⟨100123, 3⟩) =
        .ok (marketOrder ⟨1239, 3⟩ ⟨100123, 3⟩ ⟨120, 2⟩ ⟨10012, 2⟩) := by rfl
  obtain ⟨-, hquantity, hprices, -⟩ := normalizeOrder_exact haccepted
  exact ⟨hquantity, hprices (some ⟨100123, 3⟩, some ⟨10012, 2⟩) (by simp [pricePairs, marketOrder,
    marketRequest])⟩

/-- The minimum has digits beyond the scale of the quantity step, and the greatest multiple of
the step in the requested quantity lies within those digits below it. -/
def MinimumCut (spec : InstrumentSpec) (quantity : Decimal64) : Prop :=
  spec.quantityStep.scale < spec.minimumQuantity.scale ∧
    ∃ k : ℤ, k * spec.quantityStep.toRat ≤ quantity.toRat ∧
      quantity.toRat < (k + 1) * spec.quantityStep.toRat ∧
      k * spec.quantityStep.toRat < spec.minimumQuantity.toRat ∧
      spec.minimumQuantity.toRat <
        k * spec.quantityStep.toRat + 1 / 10 ^ spec.quantityStep.scale

/-- An order that normalization may accept: the quantity is within its bounds and no price is
zero. -/
def Legal (spec : InstrumentSpec) (order : NormalizedOrder) : Prop :=
  spec.minimumQuantity.toRat ≤ order.normalizedQuantity.toRat ∧
    order.normalizedQuantity.toRat ≤ spec.maximumQuantity.toRat ∧
    ∀ pair ∈ pricePairs order, ∀ normalized ∈ pair.2, 0 < normalized.toRat

/-- The prices of a request. -/
def requestedPrices (request : OrderRequest) : List Decimal64 :=
  [request.limitPrice, request.stopPrice, request.referencePrice].reduceOption

/-- An order that passed the comparison is at most the maximum, whatever their scales. -/
theorem maximum_ge {normalized maximum scaled : Decimal64} (hpositive : 0 < normalized.units.toInt)
    (hscaled : rescaleTowardZero maximum normalized.scale = some scaled)
    (hle : normalized.units.toInt ≤ scaled.units.toInt) : normalized.toRat ≤ maximum.toRat := by
  have hmaximum : 0 ≤ maximum.units.toInt := by
    by_contra hneg
    have hnonpos := rescaleTowardZero_nonpos (by omega) hscaled
    omega
  obtain ⟨hscale, -, hfloor⟩ := rescaleTowardZero_floor hmaximum hscaled
  refine le_trans ?_ hfloor.le
  rw [Decimal64.toRat, Decimal64.toRat, hscale]
  have hcast : (normalized.units.toInt : ℚ) ≤ scaled.units.toInt := by exact_mod_cast hle
  exact div_le_div_of_nonneg_right hcast (by positivity)

/-- The comparison with the minimum that was cut misses the minimum itself exactly when cutting
it has let the quantity through. -/
theorem minimum_le_iff {normalized minimum : Decimal64}
    (hstep : normalizeToStep quantity spec.quantityStep = some normalized)
    (hpositive : 0 < normalized.units.toInt)
    (hscaled : rescaleTowardZero spec.minimumQuantity normalized.scale = some minimum)
    (hle : minimum.units.toInt ≤ normalized.units.toInt) :
    spec.minimumQuantity.toRat ≤ normalized.toRat ↔ ¬MinimumCut spec quantity := by
  obtain ⟨hscale, -, hfloor⟩ := normalizeToStep_floor hstep
  obtain ⟨-, hpos, -⟩ := normalizeToStep_eq_some hstep
  have hpos : 0 < spec.quantityStep.toRat := by
    rw [Decimal64.toRat]
    have hcast : (0 : ℚ) < spec.quantityStep.units.toInt := by exact_mod_cast hpos
    positivity
  constructor
  · rintro hmin ⟨-, k, hlow, hhigh, hbelow, -⟩
    rw [hfloor.unique (.of_lt hpos hlow hhigh)] at hmin
    exact absurd hmin (not_le.mpr hbelow)
  · intro hcut
    by_contra hmin
    have hmin := not_le.mp hmin
    have hminimum : 0 ≤ spec.minimumQuantity.units.toInt := by
      by_contra hneg
      have hnonneg := Decimal64.toRat_nonneg hpositive.le
      have hnonpos : spec.minimumQuantity.toRat ≤ 0 := by
        rw [Decimal64.toRat]
        have hcast : (spec.minimumQuantity.units.toInt : ℚ) ≤ 0 := by
          exact_mod_cast (not_le.mp hneg).le
        exact div_nonpos_of_nonpos_of_nonneg hcast (by positivity)
      linarith
    obtain ⟨hscale', -, hfine⟩ := rescaleTowardZero_floor hminimum hscaled
    have hcutle : minimum.toRat ≤ normalized.toRat := by
      rw [Decimal64.toRat, Decimal64.toRat, hscale']
      have hcast : (minimum.units.toInt : ℚ) ≤ normalized.units.toInt := by exact_mod_cast hle
      exact div_le_div_of_nonneg_right hcast (by positivity)
    obtain ⟨k, hk⟩ := hfloor.1.1
    have hnext := hfloor.lt_add hpos
    have hdigits := hfine.lt_add (by positivity)
    rw [hscale] at hfine hdigits
    apply hcut
    refine ⟨?_, k, hk ▸ hfloor.le, ?_, hk ▸ hmin, ?_⟩
    · -- at a scale as fine as its own the minimum is not cut
      by_contra hscales
      have hwhole : spec.minimumQuantity.toRat =
          ((spec.minimumQuantity.units.toInt *
            10 ^ (spec.quantityStep.scale - spec.minimumQuantity.scale) : ℤ) : ℚ) *
              (1 / 10 ^ spec.quantityStep.scale) := by
        have hpow : (10 : ℚ) ^ spec.quantityStep.scale = 10 ^ spec.minimumQuantity.scale *
            10 ^ (spec.quantityStep.scale - spec.minimumQuantity.scale) := by
          rw [← pow_add, Nat.add_sub_cancel' (not_lt.mp hscales)]
        rw [Decimal64.toRat, hpow]
        push_cast
        field_simp
      have hexact := hfine.mul_le hwhole.symm.le
      rw [← hwhole] at hexact
      linarith
    · rw [hk] at hnext
      linarith
    · rw [← hk]
      linarith

/-- A price that was rounded down stays positive exactly when it is at least one tick. -/
theorem price_pos_iff {tick price normalized : Decimal64}
    (h : normalizeToStep price tick = some normalized) :
    0 < normalized.toRat ↔ tick.toRat ≤ price.toRat := by
  obtain ⟨-, -, hfloor⟩ := normalizeToStep_floor h
  obtain ⟨-, hpos, -⟩ := normalizeToStep_eq_some h
  have hpos : 0 < tick.toRat := by
    rw [Decimal64.toRat]
    have hcast : (0 : ℚ) < tick.units.toInt := by exact_mod_cast hpos
    positivity
  constructor
  · intro hnormalized
    obtain ⟨k, hk⟩ := hfloor.1.1
    rw [hk] at hnormalized
    have hk' : (0 : ℚ) < k := pos_of_mul_pos_left hnormalized hpos.le
    have hone : (1 : ℚ) ≤ k := by exact_mod_cast hk'
    have hle := hfloor.le
    rw [hk] at hle
    nlinarith
  · intro htick
    have hle := @IsStepFloor.mul_le ℚ _ _ _ _ _ hfloor 1
    rw [Int.cast_one, one_mul] at hle
    exact lt_of_lt_of_le hpos (hle htick)

/-- **Bounds and prices.** An accepted order is legal exactly when cutting the minimum to the
scale of the step has not let it through and every requested price is at least one tick. -/
theorem normalizeOrder_legal_iff (h : gateway.normalizeOrder request = .ok order) :
    let spec := gateway.instrumentOf request
    Legal spec order ↔ ¬MinimumCut spec request.quantity ∧
      ∀ price ∈ requestedPrices request, spec.tickSize.toRat ≤ price.toRat := by
  obtain ⟨hrequest, hquantity, hprices⟩ := normalizeOrder_eq_ok h
  obtain ⟨hstep, hpositive, minimum, maximum, hmin, hmax, hlow, hhigh⟩ :=
    normalizeQuantity_eq_ok hquantity
  rw [Decimal64.isPositive_iff] at hpositive
  have hminimum := minimum_le_iff hstep hpositive hmin hlow
  have hmaximum := maximum_ge hpositive hmax hhigh
  dsimp only
  unfold Legal
  rw [hminimum, and_iff_right hmaximum]
  refine and_congr_right fun _ => ?_
  have hrequested (price : Decimal64) : price ∈ requestedPrices request ↔
      ∃ pair ∈ pricePairs order, price ∈ pair.1 := by
    simp [requestedPrices, pricePairs, List.reduceOption, List.mem_filterMap, hrequest,
      @eq_comm _ (some price)]
  constructor
  · intro hlegal price hprice
    obtain ⟨pair, hpair, hprice⟩ := (hrequested price).mp hprice
    obtain ⟨hnormalized, hpresent⟩ := hprices pair hpair
    rw [Option.mem_def.mp hprice] at hnormalized hpresent
    obtain ⟨normalized, hsome⟩ := Option.isSome_iff_exists.mp (hpresent rfl)
    have hstep := hnormalized.symm.trans hsome
    exact (price_pos_iff hstep).mp (hlegal pair hpair normalized hsome)
  · intro hticks pair hpair normalized hnormalized
    rw [(hprices pair hpair).1] at hnormalized
    obtain ⟨price, hprice, hstep⟩ := Option.mem_bind_iff.mp hnormalized
    exact (price_pos_iff hstep).mpr (hticks price ((hrequested price).mpr ⟨pair, hpair, hprice⟩))

/-- The order of 1.20 at 100.12 is legal. -/
theorem normalizeOrder_legal_market :
    let order := marketOrder ⟨1239, 3⟩ ⟨100123, 3⟩ ⟨120, 2⟩ ⟨10012, 2⟩
    Legal synthetic order ↔ ¬MinimumCut synthetic ⟨1239, 3⟩ ∧
      ∀ price ∈ requestedPrices order.request, synthetic.tickSize.toRat ≤ price.toRat := by
  have haccepted : (setInstrumentSpec {} synthetic).normalizeOrder
      (marketRequest ⟨1239, 3⟩ ⟨100123, 3⟩) =
        .ok (marketOrder ⟨1239, 3⟩ ⟨100123, 3⟩ ⟨120, 2⟩ ⟨10012, 2⟩) := by rfl
  have hspec : (setInstrumentSpec {} synthetic).instrumentOf
      (marketRequest ⟨1239, 3⟩ ⟨100123, 3⟩) = synthetic := by rfl
  have hlegal := normalizeOrder_legal_iff haccepted
  rw [hspec] at hlegal
  exact hlegal

/-- The instrument with a minimum of 1.5 and a step of 1. -/
def coarse : InstrumentSpec :=
  { synthetic with quantityStep := ⟨1, 0⟩, minimumQuantity := ⟨15, 1⟩ }

/-- With a minimum of 1.5 and a step of 1 the quantity 1 is accepted, and the price 0.005
becomes zero. -/
theorem normalizeOrder_accepts_illegal :
    ∃ order,
      (setInstrumentSpec {} coarse).normalizeOrder (marketRequest ⟨1, 0⟩ ⟨5, 3⟩) = .ok order ∧
      order.normalizedQuantity.toRat < coarse.minimumQuantity.toRat ∧
      order.normalizedReferencePrice = some ⟨0, 2⟩ ∧ ¬Legal coarse order := by
  have haccepted : (setInstrumentSpec {} coarse).normalizeOrder
      (marketRequest ⟨1, 0⟩ ⟨5, 3⟩) = .ok (marketOrder ⟨1, 0⟩ ⟨5, 3⟩ ⟨1, 0⟩ ⟨0, 2⟩) := by rfl
  have hquantity : (Decimal64.mk 1 0).toRat < (Decimal64.mk 15 1).toRat := by decide +kernel
  refine ⟨_, haccepted, hquantity, rfl, ?_⟩
  rintro ⟨hminimum, -, -⟩
  exact absurd hminimum (not_le.mpr hquantity)

end BrokerGateway

end TradeBot
