import TradeBot.Trading.Decisions
import TradeBot.FinancialRounding

/-!
# Fee-inclusive sizing

The quantity that a budget net of the fee buys is paid by the budget, the fee on the rounded
cost included: the two truncations take at least as much away as the two roundings can add.
-/

namespace TradeBot

open Library Financial

namespace Financial

/-- What a budget buys at a price: its exact cost is within the budget, and that of one unit more
is not. -/
theorem quantityForNotional_bounds {budget : Money} {price : Price} {units : Quantity}
    (hunits : quantityForNotional budget price = some units) :
    (price.units.toInt * units.units.toInt / scaleFactor.toInt : ℚ) ≤ budget.units.toInt ∧
      budget.units.toInt * scaleFactor.toInt < price.units.toInt * (units.units.toInt + 1) := by
  unfold quantityForNotional at hunits
  split at hunits
  · cases hunits
  · next hguard =>
    rw [Bool.or_eq_true, not_or, Bool.not_eq_true, isNegative_eq_false_iff, Bool.not_eq_true,
      Bool.not_eq_false', isPositive_iff] at hguard
    obtain ⟨hbudget, hprice⟩ := hguard
    have hne : price.units ≠ 0 := by
      intro hzero
      rw [hzero] at hprice
      exact absurd hprice (by decide)
    obtain ⟨u, hu, rfl⟩ := Option.map_eq_some_iff.mp hunits
    have htruncates := ((scaledRatio_yields .towardZero budget.units hne).some_iff u).mp hu
    have hscale : (0 : ℚ) < (scaleFactor.toInt : ℚ) := by
      rw [show scaleFactor.toInt = 10 ^ 8 from rfl]
      norm_num
    have hprice : (0 : ℚ) < (price.units.toInt : ℚ) := by exact_mod_cast hprice
    have hbudget : (0 : ℚ) ≤ (budget.units.toInt : ℚ) := by exact_mod_cast hbudget
    have hratio : (0 : ℚ) ≤ budget.units.toInt * scaleFactor.toInt / price.units.toInt := by
      positivity
    constructor
    · rw [div_le_iff₀ hscale, mul_comm]
      exact (le_div_iff₀ hprice).mp (TruncatesTo.le_of_nonneg htruncates hratio)
    · have hlt := (div_lt_iff₀ hprice).mp (TruncatesTo.lt_of_nonneg htruncates hratio)
      rw [mul_comm price.units.toInt]
      exact_mod_cast hlt

/-- The cost of what a budget buys at a price does not exceed the budget. -/
theorem notional_le_of_quantityForNotional {budget cost : Money} {price : Price}
    {units : Quantity} (hunits : quantityForNotional budget price = some units)
    (hcost : notional price units = some cost) : cost.units.toInt ≤ budget.units.toInt := by
  obtain ⟨c, hc, rfl⟩ := Option.map_eq_some_iff.mp hcost
  have hrounds := ((scaledProduct_yields .nearestTiesAwayFromZero price.units
    units.units).some_iff c).mp hc
  exact RoundsTo.le_of_le hrounds (quantityForNotional_bounds hunits).1

/-- **The fee is in the budget.** The cost of the quantity that a budget buys net of the fee,
and the fee on that cost, are paid by the budget. -/
theorem cost_add_fee_le {budget notionalBudget cost executionFee : Money} {rate : Rate}
    {price : Price} {units : Quantity}
    (hnet : notionalBeforeFee budget rate.value = some notionalBudget)
    (hunits : quantityForNotional notionalBudget price = some units)
    (hcost : notional price units = some cost) (hfee : fee cost rate.value = some executionFee) :
    cost.units.toInt + executionFee.units.toInt ≤ budget.units.toInt := by
  have hle := notional_le_of_quantityForNotional hunits hcost
  unfold notionalBeforeFee at hnet
  split at hnet
  · cases hnet
  · next hguard =>
    rw [Bool.or_eq_true, not_or, Bool.not_eq_true, isNegative_eq_false_iff, Bool.not_eq_true,
      isNegative_eq_false_iff] at hguard
    obtain ⟨hbudget, hrate⟩ := hguard
    split at hnet
    · cases hnet
    · next denominator hdenominator =>
      split at hnet
      · cases hnet
      · next hpositive =>
        obtain ⟨n, hn, rfl⟩ := Option.map_eq_some_iff.mp hnet
        obtain ⟨f, hf, rfl⟩ := Option.map_eq_some_iff.mp hfee
        rw [checkedAdd_eq, fit_eq_some_iff] at hdenominator
        have hpositive : 0 < denominator.toInt := by
          have hnot : ¬denominator.toInt ≤ 0 := by rwa [Int64.le_iff_toInt_le] at hpositive
          omega
        have hne : denominator ≠ 0 := by
          rintro rfl
          exact absurd hpositive (by decide)
        have htruncates := ((scaledRatio_yields .towardZero budget.units hne).some_iff n).mp hn
        have hrounds := ((scaledProduct_yields .nearestTiesAwayFromZero cost.units
          rate.value.units).some_iff f).mp hf
        have hscale : (0 : ℚ) < (scaleFactor.toInt : ℚ) := by
          rw [show scaleFactor.toInt = 10 ^ 8 from rfl]
          norm_num
        have hbudget : (0 : ℚ) ≤ (budget.units.toInt : ℚ) := by exact_mod_cast hbudget
        have hrate : (0 : ℚ) ≤ (rate.value.units.toInt : ℚ) := by exact_mod_cast hrate
        have hdenominator : (denominator.toInt : ℚ) =
            scaleFactor.toInt + rate.value.units.toInt := by exact_mod_cast hdenominator
        have hpositive : (0 : ℚ) < (denominator.toInt : ℚ) := by exact_mod_cast hpositive
        -- the net budget and the exact fee on it are within the budget
        have hnetle : (n.toInt : ℚ) * (scaleFactor.toInt + rate.value.units.toInt) ≤
            budget.units.toInt * scaleFactor.toInt := by
          rw [← hdenominator]
          exact (le_div_iff₀ hpositive).mp
            (TruncatesTo.le_of_nonneg htruncates (div_nonneg (by positivity) hpositive.le))
        have hcostle : (cost.units.toInt : ℚ) * rate.value.units.toInt ≤
            n.toInt * rate.value.units.toInt := by
          have hcast : (cost.units.toInt : ℚ) ≤ n.toInt := by exact_mod_cast hle
          exact mul_le_mul_of_nonneg_right hcast hrate
        have hfeele : f.toInt ≤ budget.units.toInt - n.toInt := by
          apply RoundsTo.le_of_le hrounds
          rw [div_le_iff₀ hscale, Int.cast_sub]
          linarith
        change cost.units.toInt ≤ n.toInt at hle
        change cost.units.toInt + f.toInt ≤ budget.units.toInt
        omega

end Financial

namespace ExecutionEngine

/-- **Fee-inclusive sizing fits the budget.** The cost of the quantity that a nonnegative budget
buys net of the fee, and the fee on that cost, are within the budget. So is the debit of the
purchase that an engine computes anew, for a signal or for a resting order, when its first size
does not fit. -/
theorem sizing_fits :
    (∀ (budget : Money) (rate : Rate) (price : Price) (notionalBudget cost executionFee : Money)
      (units : Quantity), budget.isNegative = false → price.isPositive = true →
      notionalBeforeFee budget rate.value = some notionalBudget →
      quantityForNotional notionalBudget price = some units →
      notional price units = some cost → fee cost rate.value = some executionFee →
      cost.units.toInt + executionFee.units.toInt ≤ budget.units.toInt) ∧
    (∀ (engine : ExecutionEngine) (budget : Money) (fillPrice : Price) (plan : EntryPlan),
      (engine.affordable budget fillPrice).bind (engine.entryPlan fillPrice) = some plan →
      plan.debit.units.toInt ≤ budget.units.toInt) := by
  refine ⟨fun budget rate price notionalBudget cost executionFee units _ _ => cost_add_fee_le,
    fun engine budget fillPrice plan h => ?_⟩
  obtain ⟨units, hunits, hplan⟩ := Option.bind_eq_some_iff.mp h
  obtain ⟨notionalBudget, hnet, hunits⟩ := Option.bind_eq_some_iff.mp hunits
  obtain ⟨-, rfl, hcost, hfee, hdebit⟩ := entryPlan_eq_some hplan
  rw [add_eq_some_iff] at hdebit
  rw [hdebit]
  exact cost_add_fee_le hnet hunits hcost hfee

/-- A hundred at a price of three and a fee of 0.1 %: the plan, whose cost and fee are within the
budget by both parts. -/
theorem sizing_fits_main : ∃ plan,
    ((main "A").affordable ⟨10000000000⟩ ⟨300000000⟩).bind ((main "A").entryPlan ⟨300000000⟩) =
      some plan ∧
    plan.debit.units.toInt ≤ 10000000000 ∧
    plan.cost.units.toInt + plan.executionFee.units.toInt ≤ 10000000000 := by
  have hsome : (((main "A").affordable ⟨10000000000⟩ ⟨300000000⟩).bind
      ((main "A").entryPlan ⟨300000000⟩)).isSome = true := by
    decide +kernel
  obtain ⟨plan, hplan⟩ := Option.isSome_iff_exists.mp hsome
  refine ⟨plan, hplan, sizing_fits.2 (main "A") ⟨10000000000⟩ ⟨300000000⟩ plan hplan, ?_⟩
  obtain ⟨units, hunits, hentry⟩ := Option.bind_eq_some_iff.mp hplan
  obtain ⟨notionalBudget, hnet, hunits⟩ := Option.bind_eq_some_iff.mp hunits
  obtain ⟨-, rfl, hcost, hfee, -⟩ := entryPlan_eq_some hentry
  exact sizing_fits.1 ⟨10000000000⟩ (main "A").feeRate ⟨300000000⟩ notionalBudget plan.cost
    plan.executionFee plan.units (by decide) (by decide) hnet hunits hcost hfee

end ExecutionEngine

end TradeBot
