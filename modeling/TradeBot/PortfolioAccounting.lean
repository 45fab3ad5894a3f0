import TradeBot.PortfolioLedger
import TradeBot.Library.Machine

/-!
# Accounting conservation

Any sequence of entries, add-ons, closes and marks from a fresh portfolio, with
calls that throw in between, keeps the books balanced to the unit.
-/

namespace TradeBot

open Library Financial

namespace PortfolioManager

section Formats

variable [FloatFormat]

/-- The portfolio under calls. A call that throws leaves the portfolio as it was
and yields its exception. -/
def accounting : Machine PortfolioManager PortfolioCall (Option StdException) where
  step pm c := match pm.call c with
    | .ok pm' => (pm', none)
    | .error e => (pm, some e)

/-- `closePosition` sells from an open position, and does nothing without one. -/
theorem closePosition_sold {pm pm' : PortfolioManager} {symbol : String} {netPrice : Double}
    {timestamp : ℕ} {fee : Double} {strategyId : String} {explicitQuantity : Double}
    (hwf : pm.WellFormed)
    (h : pm.closePosition symbol netPrice timestamp fee strategyId explicitQuantity = .ok pm') :
    (pm.positions.lookup symbol = none ∧ pm' = pm) ∨
      ∃ prior amount, pm.positions.lookup symbol = some prior ∧ pm.Sold pm' symbol amount ∧
        (0 < explicitQuantity → quantity explicitQuantity .rejectUnaligned = some amount) ∧
        (¬0 < explicitQuantity → amount = prior.quantity) ∧
        amount.units.toInt ≤ prior.quantity.units.toInt := by
  unfold closePosition at h
  split at h
  · next hnone =>
    rw [pure_eq_ok] at h
    exact Or.inl ⟨hnone, h.symm⟩
  · next prior hprior =>
    obtain ⟨amount, hsold⟩ := reduceOpenPosition_sold hwf hprior h
    exact Or.inr ⟨prior, amount, hprior, hsold⟩

/-- Every call that returns keeps the portfolio well formed. -/
theorem WellFormed.call {pm pm' : PortfolioManager} (h : pm.WellFormed) (c : PortfolioCall)
    (hcall : pm.call c = .ok pm') : pm'.WellFormed := by
  cases c with
  | openLong symbol netPrice timestamp fee capitalToCommit explicitUnits strategyId =>
    obtain ⟨amount, hb, -⟩ := openLong_bought hcall
    exact hb.wellFormed h
  | addToLong symbol netPrice quantity fee capitalToCommit strategyId =>
    obtain ⟨amount, hb, -⟩ := addToLong_bought hcall
    exact hb.wellFormed h
  | closePosition symbol netPrice timestamp fee strategyId explicitQuantity =>
    rcases closePosition_sold h hcall with ⟨-, rfl⟩ | ⟨prior, amount, -, hsold, -⟩
    · exact h
    · exact hsold.wellFormed h
  | updatePnL symbol currentPrice => exact (updatePnL_ledger hcall).2 h

/-- A well-formed portfolio whose ledger is conserved. -/
structure Balanced (capital : Money) (pm : PortfolioManager) : Prop where
  wellFormed : pm.WellFormed
  conserved : pm.ledger.Conserved capital.units.toInt

/-- A fresh portfolio is balanced: its capital is its cash. -/
theorem balanced_fresh (capital : Money) : Balanced capital (fresh capital) := by
  refine ⟨⟨fun symbol p hp => ?_, fun record hrecord => ?_⟩, ?_⟩
  · cases hp
  · cases hrecord
  · have hempty (g : PositionState → ℤ) :
        KeyedMap.amounts g (∅ : KeyedMap String PositionState) = 0 := by
      ext symbol
      rfl
    have hledger : (fresh capital).ledger =
        { cash := capital.units.toInt, held := 0, cost := 0, entryFees := 0, feesPaid := 0,
          sales := [] } := by
      simp only [ledger, fresh, hempty]
      rfl
    rw [hledger]
    exact CostLedger.conserved_initial _

section Exact

variable [ExactFormat]

/-- Every call that returns keeps the books balanced. -/
theorem Balanced.call {capital : Money} {pm pm' : PortfolioManager} (h : Balanced capital pm)
    (c : PortfolioCall) (hcall : pm.call c = .ok pm') : Balanced capital pm' := by
  refine ⟨h.wellFormed.call c hcall, ?_⟩
  cases c with
  | openLong symbol netPrice timestamp fee capitalToCommit explicitUnits strategyId =>
    obtain ⟨amount, hb, -⟩ := openLong_bought hcall
    obtain ⟨cost, fee, hledger⟩ := hb.posted
    rw [hledger]
    exact h.conserved.post _
  | addToLong symbol netPrice quantity fee capitalToCommit strategyId =>
    obtain ⟨amount, hb, -⟩ := addToLong_bought hcall
    obtain ⟨cost, fee, hledger⟩ := hb.posted
    rw [hledger]
    exact h.conserved.post _
  | closePosition symbol netPrice timestamp fee strategyId explicitQuantity =>
    rcases closePosition_sold h.wellFormed hcall with ⟨-, rfl⟩ | ⟨prior, amount, -, hsold, -⟩
    · exact h.conserved
    · obtain ⟨proceeds, fee, cost, entryFee, hledger⟩ := hsold.posted
      rw [hledger]
      exact h.conserved.post _
  | updatePnL symbol currentPrice =>
    rw [(updatePnL_ledger hcall).1]
    exact h.conserved

/-- The books stay balanced over a step, also when the call throws. -/
theorem Balanced.next {capital : Money} {pm : PortfolioManager} (h : Balanced capital pm)
    (c : PortfolioCall) : Balanced capital (accounting.next pm c) := by
  unfold Machine.next
  simp only [accounting]
  split
  · next pm' hcall => exact h.call c hcall
  · exact h

end Exact

/-- The cost basis of all open positions, in units. -/
def totalCostBasis (pm : PortfolioManager) : ℤ :=
  KeyedMap.total (fun _ (p : PositionState) => p.costBasis.units.toInt) pm.positions

/-- The entry fees of all open positions, in units. -/
def totalEntryFees (pm : PortfolioManager) : ℤ :=
  KeyedMap.total (fun _ (p : PositionState) => p.entryFee.units.toInt) pm.positions

/-- **Accounting conservation.** After any calls on a fresh portfolio, cash and the
cost of the open positions make up the starting cash, the gross profit of the log
and the fees paid; the fees paid are those of the log and of the open positions;
and every record, whose three amounts are whole units, is net of its fees. The amounts of the
log are doubles of units, and the conversions are taken as exact. -/
theorem accounting_conserved [ExactFormat] (capital : Money) (calls : List PortfolioCall) :
    let pm := accounting.run (fresh capital) calls
    pm.cash.units.toInt + pm.totalCostBasis =
        capital.units.toInt + (pm.tradeLog.map fun r => r.grossPnL.units).sum
          - pm.totalFeesPaid.units.toInt ∧
      pm.totalFeesPaid.units.toInt =
        (pm.tradeLog.map fun r => r.totalFees.units).sum + pm.totalEntryFees ∧
      ∀ r ∈ pm.tradeLog, r.realizedPnL.units = r.grossPnL.units - r.totalFees.units ∧
        r.grossPnL.IsMoney ∧ r.totalFees.IsMoney ∧ r.realizedPnL.IsMoney := by
  intro pm
  have h : Balanced capital pm :=
    Machine.invariant_run (fun _ c hpm => hpm.next c) (balanced_fresh capital) calls
  have hsum (g : Sale ℤ → ℤ) :
      (pm.ledger.sales.map g).sum = (pm.tradeLog.map fun r => g (sale r)).sum := by
    rw [ledger, List.map_map]
    rfl
  refine ⟨?_, ?_, fun r hr => ⟨?_, h.wellFormed.record_money r hr⟩⟩
  · have hcash := h.conserved.cash_eq
    rw [hsum, CostLedger.balance] at hcash
    rw [totalCostBasis, ← KeyedMap.sum_amounts]
    exact hcash
  · have hfees := h.conserved.fees_eq
    rw [hsum, CostLedger.balance] at hfees
    rw [totalEntryFees, ← KeyedMap.sum_amounts]
    exact hfees
  · exact h.conserved.net_eq (sale r) (List.mem_map_of_mem hr)

end Formats

/-- Two units are bought at 10 for a fee of 1, one is sold at 12, and a later purchase finds no
cash. -/
def roundTripCalls : List PortfolioCall :=
  [.openLong "BTC" (.finite 10) 1 (.finite 1) (.finite 21) (.finite 2) "trend",
    .closePosition "BTC" (.finite 12) 2 (.finite 1) "trend" (.finite 1),
    .openLong "ETH" (.finite 10) 3 (.finite 1) (.finite 2000) (.finite 200) "trend"]

/-- The accounts of a purchase and its sale, by exact conversions. -/
theorem accounting_conserved_roundTrip :
    let pm := (@accounting .exact).run (fresh ⟨10000000000⟩) roundTripCalls
    pm.tradeLog.length = 1 ∧
      pm.cash.units.toInt + pm.totalCostBasis =
        10000000000 + (pm.tradeLog.map fun r => r.grossPnL.units).sum
          - pm.totalFeesPaid.units.toInt ∧
      pm.totalFeesPaid.units.toInt =
        (pm.tradeLog.map fun r => r.totalFees.units).sum + pm.totalEntryFees ∧
      ∀ r ∈ pm.tradeLog, r.realizedPnL.units = r.grossPnL.units - r.totalFees.units ∧
        @Double.IsMoney .exact r.grossPnL ∧ @Double.IsMoney .exact r.totalFees ∧
          @Double.IsMoney .exact r.realizedPnL :=
  ⟨by decide +kernel, @accounting_conserved .exact _ ⟨10000000000⟩ roundTripCalls⟩

end PortfolioManager

end TradeBot
