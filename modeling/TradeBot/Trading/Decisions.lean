import TradeBot.ExecutionEngine
import TradeBot.FinancialExactness

/-!
# The decisions of the execution engine

When `execute` decides to enter or to exit, and what its plans contain: an entry is
made without a position and fits its budget, an exit sells the whole position.
-/

namespace TradeBot

open Library Financial

variable [FloatFormat]

namespace ExecutionEngine

variable {engine : ExecutionEngine} {portfolio : PortfolioManager} {risk : RiskEngine}
  {connected : Bool} {signal : Signal} {marketPrice : Double} {atr : Option Double}

/-- `execute` enters on a BUY signal at a positive price, without a position, with a
plan. -/
theorem decideExecute_eq_enter {normalizedMarketPrice : Price} {plan : EntryPlan}
    (h : engine.decideExecute portfolio risk connected signal marketPrice atr =
      .enter normalizedMarketPrice plan) :
    signal = .buy ∧ price marketPrice = some normalizedMarketPrice ∧
      normalizedMarketPrice.isPositive = true ∧ (engine.bound = true → connected = true) ∧
      portfolio.hasPosition engine.symbol = false ∧
      engine.planEntry portfolio risk normalizedMarketPrice atr = some plan := by
  unfold decideExecute at h
  cases signal with
  | none => cases h
  | buy =>
    simp only [if_true] at h
    split at h
    · cases h
    · next normalized hprice =>
      obtain ⟨hprice, hpositive⟩ := Option.filter_eq_some_iff.mp hprice
      split at h
      · cases h
      · next hgate =>
        split at h
        · cases h
        · next hposition =>
          split at h
          · cases h
          · next plan hplan =>
            cases h
            refine ⟨rfl, hprice, hpositive, fun hbound => ?_, ?_, hplan⟩
            · by_contra hconnected
              exact hgate ⟨hbound, by simpa using hconnected⟩
            · simpa using hposition
  | sell =>
    simp only [reduceCtorEq, if_false] at h
    split at h
    · cases h
    · split at h
      · cases h
      · split at h
        · cases h
        · split at h <;> cases h

/-- `execute` exits on a SELL signal at a positive price, from a position, with a plan. -/
theorem decideExecute_eq_exit {normalizedMarketPrice : Price} {plan : ExitPlan}
    (h : engine.decideExecute portfolio risk connected signal marketPrice atr =
      .exit normalizedMarketPrice plan) :
    signal = .sell ∧ price marketPrice = some normalizedMarketPrice ∧
      normalizedMarketPrice.isPositive = true ∧ (engine.bound = true → connected = true) ∧
      portfolio.hasPosition engine.symbol = true ∧
      engine.planExit portfolio engine.symbol normalizedMarketPrice = some plan := by
  unfold decideExecute at h
  cases signal with
  | none => cases h
  | buy =>
    simp only [if_true] at h
    split at h
    · cases h
    · split at h
      · cases h
      · split at h
        · cases h
        · split at h <;> cases h
  | sell =>
    simp only [reduceCtorEq, if_false] at h
    split at h
    · cases h
    · next normalized hprice =>
      obtain ⟨hprice, hpositive⟩ := Option.filter_eq_some_iff.mp hprice
      split at h
      · cases h
      · next hgate =>
        split at h
        · cases h
        · next hposition =>
          split at h
          · cases h
          · next plan hplan =>
            cases h
            refine ⟨rfl, hprice, hpositive, fun hbound => ?_, ?_, hplan⟩
            · by_contra hconnected
              exact hgate ⟨hbound, by simpa using hconnected⟩
            · simpa using hposition

omit [FloatFormat] in
/-- An open position is found. -/
theorem lookup_of_hasPosition {symbol : String} (h : portfolio.hasPosition symbol = true) :
    ∃ p, portfolio.positions.lookup symbol = some p := by
  rw [PortfolioManager.hasPosition, decide_eq_true_iff, ← AList.lookup_isSome] at h
  exact Option.isSome_iff_exists.mp h

omit [FloatFormat] in
/-- Without a position there is nothing to look up. -/
theorem lookup_of_not_hasPosition {symbol : String} (h : portfolio.hasPosition symbol = false) :
    portfolio.positions.lookup symbol = none := by
  rw [PortfolioManager.hasPosition, decide_eq_false_iff_not] at h
  exact AList.lookup_eq_none.mpr h

/-- An exit sells the whole position as its double is read, at the slipped price and with the fee
on it. -/
theorem planExit_eq_some {symbol : String} {price : Price} {plan : ExitPlan} {p : PositionState}
    (hp : portfolio.positions.lookup symbol = some p)
    (h : engine.planExit portfolio symbol price = some plan) :
    quantity p.quantity.toDouble .rejectUnaligned = some plan.quantity ∧
      plan.quantity.isPositive = true ∧
      applySlippage price engine.slippage.value false = some plan.fillPrice ∧
      ∃ proceeds, notional plan.fillPrice plan.quantity = some proceeds ∧
        fee proceeds engine.feeRate.value = some plan.executionFee := by
  simp only [planExit, PortfolioManager.getPositionQuantity, hp, Option.bind_eq_some_iff] at h
  obtain ⟨fillPrice, hfill, held, hheld, proceeds, hproceeds, executionFee, hfee, hplan⟩ := h
  split at hplan
  · next hpositive =>
    cases hplan
    exact ⟨hheld, hpositive, hfill, proceeds, hproceeds, hfee⟩
  · cases hplan

omit [FloatFormat] in
/-- The cost, the fee and the debit of a purchase. -/
theorem entryPlan_eq_some {fillPrice : Price} {units : Quantity} {plan : EntryPlan}
    (h : engine.entryPlan fillPrice units = some plan) :
    plan.fillPrice = fillPrice ∧ plan.units = units ∧
      notional fillPrice units = some plan.cost ∧
      fee plan.cost engine.feeRate.value = some plan.executionFee ∧
      add plan.cost plan.executionFee = some plan.debit := by
  simp only [entryPlan, Option.bind_eq_some_iff, Option.map_eq_some_iff] at h
  obtain ⟨cost, hcost, executionFee, hfee, debit, hdebit, rfl⟩ := h
  exact ⟨rfl, rfl, hcost, hfee, hdebit⟩

omit [FloatFormat] in
/-- A purchase that fits a budget buys something, at the cost and with the fee on it. -/
theorem fitBudget_eq_some {budget : Money} {fillPrice : Price} {units : Option Quantity}
    {plan : EntryPlan} (h : engine.fitBudget budget fillPrice units = some plan) :
    plan.units.isPositive = true ∧ engine.entryPlan fillPrice plan.units = some plan := by
  have hself {wanted : Option Quantity} {fits : EntryPlan → Bool}
      (hplan : ((wanted.bind (engine.entryPlan fillPrice)).filter fits) = some plan) :
      engine.entryPlan fillPrice plan.units = some plan := by
    obtain ⟨hplan, -⟩ := Option.filter_eq_some_iff.mp hplan
    obtain ⟨units, -, hplan⟩ := Option.bind_eq_some_iff.mp hplan
    rwa [(entryPlan_eq_some hplan).2.1]
  unfold fitBudget at h
  obtain ⟨hplan, hpositive⟩ := Option.filter_eq_some_iff.mp h
  refine ⟨hpositive, ?_⟩
  rcases Option.or_eq_some_iff.mp hplan with hfirst | ⟨-, hretry⟩
  · exact hself hfirst
  · exact hself hretry

/-- An entry buys something, at the slipped price and with the fee on its cost. -/
theorem planEntry_eq_some {marketPrice : Price} {plan : EntryPlan}
    (h : engine.planEntry portfolio risk marketPrice atr = some plan) :
    applySlippage marketPrice engine.slippage.value true = some plan.fillPrice ∧
      plan.units.isPositive = true ∧
      engine.entryPlan plan.fillPrice plan.units = some plan := by
  simp only [planEntry, Option.bind_eq_some_iff] at h
  obtain ⟨fillPrice, hfill, cash, -, ⟨budget, units⟩, -, hplan⟩ := h
  obtain ⟨hpositive, hplan⟩ := fitBudget_eq_some hplan
  have hprice := (entryPlan_eq_some hplan).1
  exact ⟨hprice ▸ hfill, hpositive, hprice.symm ▸ hplan⟩

end ExecutionEngine

end TradeBot
