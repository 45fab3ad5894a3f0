import TradeBot.PortfolioAccounting
import TradeBot.PortfolioValuation

/-!
# The calls as they write the members

The source throws in the middle of a call, and what the call has written by then stays
written. Here each call is a program that writes the members one by one, in the order
of the source. It does what the portfolio manager's functional model says: it returns
with the new portfolio, or it throws and has written nothing.
-/

namespace TradeBot

open Library Financial

/-- A member function: it writes members and may throw, and keeps what it wrote. -/
abbrev Member := EStateM StdException PortfolioManager

namespace Member

/-- A computation that writes no member. -/
def compute {α : Type} : Except StdException α → Member α
  | .ok a => pure a
  | .error e => throw e

instance : MonadLift (Except StdException) Member := ⟨compute⟩

/-- `++m_tradeCount` -/
def countTrade : Member Unit := modify fun pm => { pm with tradeCount := pm.tradeCount + 1 }

/-- `commitValuation` -/
def commitValuation (valuation : Valuation) : Member Unit := do
  modify fun pm => { pm with unrealizedPnL := valuation.unrealizedPnL }
  modify fun pm => { pm with totalEquity := valuation.totalEquity }
  modify fun pm => { pm with maxEquity := valuation.maxEquity }
  modify fun pm => { pm with currentDrawdown := valuation.currentDrawdown }
  modify fun pm => { pm with maxDrawdown := valuation.maxDrawdown }

/-- `openLong` -/
def openLong (symbol : String) (netPrice : Double) (timestamp : ℕ)
    (fee capitalToCommit explicitUnits : Double) (strategyId : String) : Member Unit := do
  let this ← get
  throwIf (decide (symbol = "")) (.invalidArgument "PortfolioManager: symbol must not be empty")
  throwIf (decide (symbol ∈ this.positions)) (.logicError
    ("PortfolioManager: cannot open a new position for '" ++ symbol
      ++ "' while one is already open"))
  throwIf (decide (explicitUnits < 0) || decide (capitalToCommit < 0) || decide (fee < 0))
    (.invalidArgument "PortfolioManager: negative accounting input")
  let price ← requirePositive (price netPrice)
    (.invalidArgument "PortfolioManager: invalid price or fee")
  let entryFee ← requireNonnegative (money fee)
    (.invalidArgument "PortfolioManager: invalid price or fee")
  let budget ← PortfolioManager.entryBudget this.cash capitalToCommit
  let (quantity, costBasis, debit) ←
    PortfolioManager.sizeEntry price entryFee budget explicitUnits
  throwIf (decide (this.cash.units < debit.units))
    (.logicError "PortfolioManager: insufficient cash for entry fill")
  throwIf (!costBasis.isPositive)
    (.logicError "PortfolioManager: entry notional normalizes to zero")
  let averageEntry ← requireValue (averagePrice costBasis quantity)
    "PortfolioManager: average entry price overflow"
  let nextCash ← requireValue (subtract this.cash debit) "PortfolioManager: cash debit overflow"
  let nextFees ← requireValue (add this.totalFeesPaid entryFee)
    "PortfolioManager: total fee overflow"
  let nextPositions := this.positions.insert symbol {
    quantity := quantity
    averageEntryPrice := averageEntry
    costBasis := costBasis
    lastMarkPrice := price
    entryTimestamp := timestamp
    entryFee := entryFee
    strategyId := strategyId }
  let valuation ← this.valueState nextCash nextPositions
  requireCounterCapacity this.tradeCount "PortfolioManager: trade counter overflow"
  modify fun pm => { pm with cash := nextCash }
  modify fun pm => { pm with positions := nextPositions }
  modify fun pm => { pm with totalFeesPaid := nextFees }
  countTrade
  commitValuation valuation

/-- The branch of `addToLong` for a position that is open. -/
def addToPosition (current : PositionState) (symbol : String)
    (netPrice quantity fee capitalToCommit : Double) (strategyId : String) : Member Unit := do
  let this ← get
  throwIf (decide (quantity ≤ 0) || decide (fee < 0) || decide (capitalToCommit < 0))
    (.invalidArgument "PortfolioManager::addToLong invalid accounting input")
  let price ← requirePositive (price netPrice)
    (.invalidArgument "PortfolioManager::addToLong unrepresentable input")
  let addedQuantity ← requirePositive (Financial.quantity quantity .rejectUnaligned)
    (.invalidArgument "PortfolioManager::addToLong unrepresentable input")
  let addedFee ← requireNonnegative (money fee)
    (.invalidArgument "PortfolioManager::addToLong unrepresentable input")
  let addedCost ← requireValue (notional price addedQuantity)
    "PortfolioManager: add-on notional overflow"
  let debit ← requireValue (add addedCost addedFee) "PortfolioManager: add-on debit overflow"
  throwIf (!addedCost.isPositive)
    (.logicError "PortfolioManager: add-on notional normalizes to zero")
  throwIf (decide (this.cash.units < debit.units))
    (.logicError "PortfolioManager::addToLong insufficient cash")
  PortfolioManager.requireWithinBudget capitalToCommit debit
  let nextQuantity ← requireValue (add current.quantity addedQuantity)
    "PortfolioManager: position quantity overflow"
  let nextCost ← requireValue (add current.costBasis addedCost)
    "PortfolioManager: cost-basis overflow"
  let nextEntryFee ← requireValue (add current.entryFee addedFee)
    "PortfolioManager: entry-fee overflow"
  let nextAverage ← requireValue (averagePrice nextCost nextQuantity)
    "PortfolioManager: average-price overflow"
  let nextPositions := this.positions.insert symbol { current with
    quantity := nextQuantity
    costBasis := nextCost
    entryFee := nextEntryFee
    averageEntryPrice := nextAverage
    lastMarkPrice := price
    strategyId := if strategyId = "" then current.strategyId else strategyId }
  let nextCash ← requireValue (subtract this.cash debit) "PortfolioManager: cash debit overflow"
  let nextFees ← requireValue (add this.totalFeesPaid addedFee)
    "PortfolioManager: total fee overflow"
  let valuation ← this.valueState nextCash nextPositions
  requireCounterCapacity this.tradeCount "PortfolioManager: trade counter overflow"
  modify fun pm => { pm with cash := nextCash }
  modify fun pm => { pm with positions := nextPositions }
  modify fun pm => { pm with totalFeesPaid := nextFees }
  countTrade
  commitValuation valuation

/-- `addToLong` -/
def addToLong (symbol : String) (netPrice quantity fee capitalToCommit : Double)
    (strategyId : String) : Member Unit := do
  let this ← get
  match this.positions.lookup symbol with
  | none =>
    let budget := if 0 < capitalToCommit then capitalToCommit else quantity * netPrice + fee
    openLong symbol netPrice 0 fee budget quantity strategyId
  | some current => addToPosition current symbol netPrice quantity fee capitalToCommit strategyId

/-- The branch of `closePosition` for a position that is open. -/
def reduceOpenPosition (prior : PositionState) (symbol : String) (netPrice : Double)
    (timestamp : ℕ) (fee : Double) (strategyId : String) (explicitQuantity : Double) :
    Member Unit := do
  let this ← get
  throwIf (decide (explicitQuantity < 0) || decide (fee < 0))
    (.invalidArgument "PortfolioManager: negative close input")
  let price ← requirePositive (price netPrice)
    (.invalidArgument "PortfolioManager: invalid close price or fee")
  let exitFee ← requireNonnegative (money fee)
    (.invalidArgument "PortfolioManager: invalid close price or fee")
  let closed ← PortfolioManager.closeQuantity prior.quantity explicitQuantity
  let grossProceeds ← requireValue (notional price closed)
    "PortfolioManager: close notional overflow"
  let netProceeds ← requireNonnegative (subtract grossProceeds exitFee)
    (.logicError "PortfolioManager: close fee exceeds proceeds")
  let allocatedCost ← requireValue (proportional prior.costBasis closed prior.quantity)
    "PortfolioManager: allocated cost-basis overflow"
  let allocatedEntryFee ← requireValue (proportional prior.entryFee closed prior.quantity)
    "PortfolioManager: allocated entry-fee overflow"
  let grossPnl ← requireValue (subtract grossProceeds allocatedCost)
    "PortfolioManager: gross P&L overflow"
  let afterExitFee ← requireValue (subtract grossPnl exitFee)
    "PortfolioManager: exit-fee P&L overflow"
  let realizedPnl ← requireValue (subtract afterExitFee allocatedEntryFee)
    "PortfolioManager: realized P&L overflow"
  let tradeFees ← requireValue (add exitFee allocatedEntryFee)
    "PortfolioManager: trade-fee overflow"
  let record : TradeRecord := {
    symbol := symbol
    openTimestamp := prior.entryTimestamp
    closeTimestamp := timestamp
    entryPrice := prior.averageEntryPrice.toDouble
    exitPrice := price.toDouble
    quantity := closed.toDouble
    totalFees := tradeFees.toDouble
    realizedPnL := realizedPnl.toDouble
    grossPnL := grossPnl.toDouble
    strategyId := if strategyId = "" then prior.strategyId else strategyId }
  let remainingQuantity ← requireValue (subtract prior.quantity closed)
    "PortfolioManager: remaining quantity overflow"
  let nextPositions ← PortfolioManager.reducePosition this.positions symbol prior price
    remainingQuantity allocatedCost allocatedEntryFee
  let nextCash ← requireValue (add this.cash netProceeds) "PortfolioManager: sale cash overflow"
  let nextFees ← requireValue (add this.totalFeesPaid exitFee)
    "PortfolioManager: total fee overflow"
  let nextTradeLog := this.tradeLog ++ [record]
  let valuation ← this.valueState nextCash nextPositions
  requireCounterCapacity this.tradeCount "PortfolioManager: trade counter overflow"
  PortfolioManager.requireRoundTripCapacity remainingQuantity this.roundTripCount
  modify fun pm => { pm with cash := nextCash }
  modify fun pm => { pm with positions := nextPositions }
  modify fun pm => { pm with totalFeesPaid := nextFees }
  modify fun pm => { pm with tradeLog := nextTradeLog }
  countTrade
  if remainingQuantity.isZero then
    modify fun pm => { pm with roundTripCount := pm.roundTripCount + 1 }
  commitValuation valuation

/-- `closePosition` -/
def closePosition (symbol : String) (netPrice : Double) (timestamp : ℕ) (fee : Double)
    (strategyId : String) (explicitQuantity : Double) : Member Unit := do
  let this ← get
  match this.positions.lookup symbol with
  | none => return
  | some prior =>
    reduceOpenPosition prior symbol netPrice timestamp fee strategyId explicitQuantity

/-- `updatePnL` -/
def updatePnL (symbol : String) (currentPrice : Double) : Member Unit := do
  let this ← get
  match this.positions.lookup symbol with
  | none => return
  | some current =>
    let mark ← requirePositive (price currentPrice)
      (.invalidArgument "PortfolioManager: invalid mark price")
    let nextPositions := this.positions.insert symbol { current with lastMarkPrice := mark }
    let valuation ← this.valueState this.cash nextPositions
    modify fun pm => { pm with positions := nextPositions }
    commitValuation valuation

/-- A call, as it writes the members. -/
def call : PortfolioCall → Member Unit
  | .openLong symbol netPrice timestamp fee capitalToCommit explicitUnits strategyId =>
    openLong symbol netPrice timestamp fee capitalToCommit explicitUnits strategyId
  | .addToLong symbol netPrice quantity fee capitalToCommit strategyId =>
    addToLong symbol netPrice quantity fee capitalToCommit strategyId
  | .closePosition symbol netPrice timestamp fee strategyId explicitQuantity =>
    closePosition symbol netPrice timestamp fee strategyId explicitQuantity
  | .updatePnL symbol currentPrice => updatePnL symbol currentPrice

/-! ### The calls do what the functional model says -/

variable {α : Type} {pm : PortfolioManager} {program : Member Unit}
  {result : Except StdException PortfolioManager}

/-- A program returns with the portfolio of a result, or throws its exception with the
portfolio as it was. -/
def Performs (program : Member Unit) (pm : PortfolioManager)
    (result : Except StdException PortfolioManager) : Prop :=
  program pm = match result with
    | .ok pm' => .ok () pm'
    | .error e => .error e pm

/-- A computation is performed before the rest of the call. -/
theorem Performs.bind {x : Except StdException α} {rest : α → Member Unit}
    {next : α → Except StdException PortfolioManager} (h : ∀ a, Performs (rest a) pm (next a)) :
    Performs (liftM x >>= rest) pm (x >>= next) := by
  cases x with
  | error e => rfl
  | ok a => exact h a

/-- Reading the members changes none. -/
theorem Performs.get {rest : PortfolioManager → Member Unit} (h : Performs (rest pm) pm result) :
    Performs (get >>= rest) pm result := h

/-- `openLong` writes the members at its end only. -/
theorem performs_openLong (symbol : String) (netPrice : Double) (timestamp : ℕ)
    (fee capitalToCommit explicitUnits : Double) (strategyId : String) :
    Performs (openLong symbol netPrice timestamp fee capitalToCommit explicitUnits strategyId) pm
      (pm.openLong symbol netPrice timestamp fee capitalToCommit explicitUnits strategyId) := by
  unfold openLong PortfolioManager.openLong
  refine Performs.get ?_
  iterate 6 refine Performs.bind fun _ => ?_
  refine Performs.bind fun ⟨quantity, costBasis, debit⟩ => ?_
  iterate 7 refine Performs.bind fun _ => ?_
  rfl

/-- An add-on writes the members at its end only. -/
theorem performs_addToPosition (current : PositionState) (symbol : String)
    (netPrice quantity fee capitalToCommit : Double) (strategyId : String) :
    Performs (addToPosition current symbol netPrice quantity fee capitalToCommit strategyId) pm
      (pm.addToPosition current symbol netPrice quantity fee capitalToCommit strategyId) := by
  unfold addToPosition PortfolioManager.addToPosition
  refine Performs.get ?_
  iterate 17 refine Performs.bind fun _ => ?_
  rfl

/-- The member functions of `addToLong` perform its step. -/
theorem performs_addToLong (symbol : String) (netPrice quantity fee capitalToCommit : Double)
    (strategyId : String) :
    Performs (addToLong symbol netPrice quantity fee capitalToCommit strategyId) pm
      (pm.addToLong symbol netPrice quantity fee capitalToCommit strategyId) := by
  unfold addToLong PortfolioManager.addToLong
  refine Performs.get ?_
  cases pm.positions.lookup symbol with
  | none => exact performs_openLong _ _ _ _ _ _ _
  | some current => exact performs_addToPosition _ _ _ _ _ _ _

/-- A close writes the members at its end only. -/
theorem performs_reduceOpenPosition (prior : PositionState) (symbol : String) (netPrice : Double)
    (timestamp : ℕ) (fee : Double) (strategyId : String) (explicitQuantity : Double) :
    Performs (reduceOpenPosition prior symbol netPrice timestamp fee strategyId explicitQuantity)
      pm (pm.reduceOpenPosition prior symbol netPrice timestamp fee strategyId
        explicitQuantity) := by
  unfold reduceOpenPosition PortfolioManager.reduceOpenPosition
  refine Performs.get ?_
  iterate 12 refine Performs.bind fun _ => ?_
  refine Performs.bind fun remaining => ?_
  iterate 6 refine Performs.bind fun _ => ?_
  cases remaining.isZero
  · rfl
  · rfl

/-- Those of `closePosition` perform its step. -/
theorem performs_closePosition (symbol : String) (netPrice : Double) (timestamp : ℕ)
    (fee : Double) (strategyId : String) (explicitQuantity : Double) :
    Performs (closePosition symbol netPrice timestamp fee strategyId explicitQuantity) pm
      (pm.closePosition symbol netPrice timestamp fee strategyId explicitQuantity) := by
  unfold closePosition PortfolioManager.closePosition
  refine Performs.get ?_
  cases pm.positions.lookup symbol with
  | none => rfl
  | some prior => exact performs_reduceOpenPosition _ _ _ _ _ _ _

/-- `updatePnL` writes the members at its end only. -/
theorem performs_updatePnL (symbol : String) (currentPrice : Double) :
    Performs (updatePnL symbol currentPrice) pm (pm.updatePnL symbol currentPrice) := by
  unfold updatePnL PortfolioManager.updatePnL
  refine Performs.get ?_
  cases pm.positions.lookup symbol with
  | none => rfl
  | some current =>
    iterate 2 refine Performs.bind fun _ => ?_
    rfl

/-- **Every call performs its functional model**: a throw leaves every member as it was. -/
theorem performs_call (c : PortfolioCall) : Performs (call c) pm (pm.call c) := by
  cases c with
  | openLong symbol netPrice timestamp fee capitalToCommit explicitUnits strategyId =>
    exact performs_openLong _ _ _ _ _ _ _
  | addToLong symbol netPrice quantity fee capitalToCommit strategyId =>
    exact performs_addToLong _ _ _ _ _ _
  | closePosition symbol netPrice timestamp fee strategyId explicitQuantity =>
    exact performs_closePosition _ _ _ _ _ _
  | updatePnL symbol currentPrice => exact performs_updatePnL _ _

end Member

namespace PortfolioManager

/-- The portfolio under calls that write its members. -/
def members : Machine PortfolioManager PortfolioCall (Option StdException) where
  step pm c := match Member.call c pm with
    | .ok () pm' => (pm', none)
    | .error e pm' => (pm', some e)

/-- The members change as the accounting model says. -/
theorem members_eq_accounting : members = accounting := by
  have hstep : members.step = accounting.step := by
    funext pm c
    have hcall : Member.call c pm = _ := Member.performs_call c
    simp only [members, accounting, hcall]
    cases pm.call c with
    | error e => rfl
    | ok pm' => rfl
  rw [← Machine.mk.injEq] at hstep
  exact hstep

/-- A call keeps the portfolio valued, lets its bounds grow, and changes nothing when it
throws. -/
theorem Valued.members_next {pm : PortfolioManager} (h : pm.Valued) (c : PortfolioCall) :
    (members.next pm c).Valued ∧ pm.Grows (members.next pm c) ∧
      (members.output pm c ≠ none → members.next pm c = pm) := by
  rw [members_eq_accounting, Machine.next, Machine.output]
  simp only [accounting]
  cases hcall : pm.call c with
  | ok pm' =>
    obtain ⟨hvalued, hgrows⟩ := h.call c hcall
    exact ⟨hvalued, hgrows, fun hthrow => absurd rfl hthrow⟩
  | error e => exact ⟨h, Grows.refl pm, fun _ => rfl⟩

/-- **Valuation invariant.** After any calls on a fresh portfolio it is valued, its largest
equity and drawdown have only grown, and every call that threw changed nothing. -/
theorem valuation_kept (calls : List PortfolioCall) :
    (members.run fresh calls).Valued ∧
      (∀ before after, calls = before ++ after →
        (members.run fresh before).Grows (members.run fresh calls)) ∧
      members.Along (fun pm c => members.output pm c ≠ none → members.next pm c = pm) fresh
        calls := by
  have hfresh : (fresh : PortfolioManager).Valued := valued_fresh (by decide)
  have hvalued (calls : List PortfolioCall) : (members.run fresh calls).Valued :=
    Machine.invariant_run (fun _ c h => (h.members_next c).1) hfresh calls
  refine ⟨hvalued calls, ?_, ?_⟩
  · rintro before after rfl
    rw [Machine.run_append]
    exact (Machine.invariant_run (I := fun pm => pm.Valued ∧ (members.run fresh before).Grows pm)
      (fun _ c h => ⟨(h.1.members_next c).1, h.2.trans (h.1.members_next c).2.1⟩)
      ⟨hvalued before, Grows.refl _⟩ after).2
  · refine Machine.along_of_splits fun before c after _ => ?_
    exact ((hvalued before).members_next c).2.2

end PortfolioManager

end TradeBot
