import TradeBot.AnalyticsEngine
import TradeBot.BrokerGateway
import TradeBot.DeterministicBrokerAdapter
import TradeBot.TriggerOrderManager

/-!
# The execution engine: state and decisions

`ExecutionEngine.cpp`, the part that decides. Each entry point first works out,
from the market price, the portfolio and the risk limits, what it is going to do;
these decisions change nothing. What follows from them is in `System`.
-/

namespace TradeBot

open Library Financial

variable [FloatFormat]

/-- `Signal` -/
inductive Signal where
  | none
  | buy
  | sell
  deriving DecidableEq

/-- The state of `ExecutionEngine`. `bound` says that a broker gateway is bound,
`recordsAnalytics` that an analytics engine is injected. -/
structure ExecutionEngine where
  symbol : String := "BTCUSDT"
  feeRate : Rate
  slippage : Rate
  riskPct : Double
  recordsAnalytics : Bool := false
  bound : Bool := false
  triggerOrders : Option TriggerOrderManager := none
  signalCount : ℕ := 0
  filledCount : ℕ := 0
  blockedCount : ℕ := 0
  nextLocalOrderId : ℕ := 1
  lastRouteLatencyMs : ℚ := 0
  maxRouteLatencyMs : ℚ := 0
  latencyBreaches : ℕ := 0
  pendingBrokerQty : KeyedMap ℕ Quantity := ∅
  appliedBrokerQty : KeyedMap ℕ Quantity := ∅
  lastBrokerOrderId : ℕ := 0

/-- A purchase that an engine has sized and priced. -/
structure EntryPlan where
  fillPrice : Price
  units : Quantity
  cost : Money
  executionFee : Money
  debit : Money
  deriving DecidableEq

/-- A sale that an engine has priced. -/
structure ExitPlan where
  fillPrice : Price
  quantity : Quantity
  executionFee : Money
  deriving DecidableEq

/-- What `execute` is going to do. -/
inductive ExecuteDecision where
  /-- Return false. -/
  | ignore
  /-- Count the signal as blocked and return false. -/
  | block
  | enter (marketPrice : Price) (plan : EntryPlan)
  | exit (marketPrice : Price) (plan : ExitPlan)
  deriving DecidableEq

/-- What `processPendingOrders` is going to do with one triggered order. -/
inductive PendingDecision where
  | skip
  | block
  | enter (plan : EntryPlan)
  | exit (plan : ExitPlan)
  deriving DecidableEq

/-- What `onBrokerExecution` is going to book. -/
structure Booking where
  isBuy : Bool
  call : PortfolioCall
  fillPrice : Price
  fillFee : Money
  incremental : Quantity
  cumulative : Quantity
  remaining : Quantity
  requestedPrice : Double
  strategyId : String

namespace ExecutionEngine

/-- The constructor. -/
def create (symbol : String := "BTCUSDT") (feeRate : Double := .finite (1 / 1000))
    (slippageBps : Double := .finite 5) (riskPct : Double := .finite (1 / 100)) :
    Except StdException ExecutionEngine :=
  match Rate.ofFraction (fraction feeRate),
    Rate.ofFraction (fraction (slippageBps / .finite 10000)) with
  | some fee, some slippage =>
    if !riskPct.isFinite || decide (riskPct < 0) then
      .error (.invalidArgument "ExecutionEngine: invalid financial configuration")
    else .ok { symbol := symbol, feeRate := fee, slippage := slippage, riskPct := riskPct }
  | _, _ => .error (.invalidArgument "ExecutionEngine: invalid financial configuration")

/-- The engine that `main` constructs for a symbol: a fee of 0.1 %, 5 bps of slippage and
1 % of equity per trade. -/
def main (symbol : String) : ExecutionEngine where
  symbol := symbol
  feeRate := ⟨⟨100000⟩, tenthPercent_nonneg, tenthPercent_lt_one⟩
  slippage := ⟨⟨50000⟩, fiveBps_nonneg, fiveBps_lt_one⟩
  riskPct := .finite (1 / 100)

variable (engine : ExecutionEngine)

/-- The quantity that a budget buys, its fee included. -/
def affordable (budget : Money) (fillPrice : Price) : Option Quantity :=
  (notionalBeforeFee budget engine.feeRate.value).bind fun notionalBudget =>
    quantityForNotional notionalBudget fillPrice

/-- Cost, fee and debit of a purchase. -/
def entryPlan (fillPrice : Price) (units : Quantity) : Option EntryPlan :=
  (notional fillPrice units).bind fun cost =>
    (fee cost engine.feeRate.value).bind fun executionFee =>
      (add cost executionFee).map fun debit => ⟨fillPrice, units, cost, executionFee, debit⟩

/-- The purchase of some units when its debit fits the budget, otherwise that of the
units that the budget buys; none when neither fits. -/
def fitBudget (budget : Money) (fillPrice : Price) (units : Option Quantity) :
    Option EntryPlan :=
  let fits : EntryPlan → Bool := fun plan => decide (plan.debit.units ≤ budget.units)
  let retry := ((engine.affordable budget fillPrice).bind (engine.entryPlan fillPrice)).filter fits
  let plan := ((units.bind (engine.entryPlan fillPrice)).filter fits).or retry
  plan.filter fun plan => plan.units.isPositive

/-- The budget and the first size of a purchase: parity with the average true range
when there is a positive reading of it, otherwise an equal slice of the cash. -/
def entrySize (portfolio : PortfolioManager) (risk : RiskEngine) (availableCash : Money)
    (fillPrice : Price) (atr : Option Double) : Option (Money × Quantity) :=
  match atr.filter fun reading => decide (0 < reading) with
  | some reading =>
    ((quantity (portfolio.getTotalEquity * engine.riskPct / reading) .towardZero).filter
      (·.isPositive)).map fun desired => (availableCash, desired)
  | none =>
    let maxPos := risk.getMaxConcurrentPositions
    let openPos := portfolio.getOpenPositionCount
    let remaining := if openPos < maxPos then maxPos - openPos else 1
    let budget := if maxPos = 0 then availableCash
      else ⟨availableCash.units / Int64.ofNat remaining⟩
    ((engine.affordable budget fillPrice).filter (·.isPositive)).map fun units => (budget, units)

/-- The sizing of `execute` for a BUY signal. -/
def planEntry (portfolio : PortfolioManager) (risk : RiskEngine) (marketPrice : Price)
    (atr : Option Double) : Option EntryPlan :=
  (applySlippage marketPrice engine.slippage.value true).bind fun fillPrice =>
    ((money portfolio.getCashBalance .rejectUnaligned).filter (·.isPositive)).bind
      fun availableCash =>
        (engine.entrySize portfolio risk availableCash fillPrice atr).bind
          fun (budget, units) => engine.fitBudget budget fillPrice (some units)

/-- The pricing of a sale of a whole position. -/
def planExit (portfolio : PortfolioManager) (symbol : String) (marketPrice : Price) :
    Option ExitPlan :=
  (applySlippage marketPrice engine.slippage.value false).bind fun fillPrice =>
    (quantity (portfolio.getPositionQuantity symbol) .rejectUnaligned).bind fun held =>
      (notional fillPrice held).bind fun proceeds =>
        (fee proceeds engine.feeRate.value).bind fun executionFee =>
          if held.isPositive then some ⟨fillPrice, held, executionFee⟩ else none

/-- The decision of `execute`, given whether the gateway is connected. -/
def decideExecute (portfolio : PortfolioManager) (risk : RiskEngine) (connected : Bool)
    (signal : Signal) (marketPrice : Double) (atr : Option Double) : ExecuteDecision :=
  match signal with
  | .none => .ignore
  | .buy | .sell =>
    match (price marketPrice).filter (·.isPositive) with
    | none => .block
    | some normalizedMarketPrice =>
      if engine.bound ∧ !connected then .block
      else if signal = .buy then
        if portfolio.hasPosition engine.symbol then .ignore
        else
          match engine.planEntry portfolio risk normalizedMarketPrice atr with
          | none => .block
          | some plan => .enter normalizedMarketPrice plan
      else if !portfolio.hasPosition engine.symbol then .ignore
      else
        match engine.planExit portfolio engine.symbol normalizedMarketPrice with
        | none => .block
        | some plan => .exit normalizedMarketPrice plan

/-- The request of `dispatchBrokerOrder`. -/
def brokerRequest (isBuy : Bool) (units : Quantity) (requestedPrice : Price) (timestamp : ℕ)
    (strategyId : String) : OrderRequest where
  localOrderId := engine.nextLocalOrderId
  canonicalSymbol := engine.symbol
  side := if isBuy then .buy else .sell
  type := .market
  quantity := ⟨units.units, Financial.scale⟩
  referencePrice := some ⟨requestedPrice.units, Financial.scale⟩
  sourceId := strategyId
  timestampNs := timestamp
  sequence := 1
  idempotencyKey := "execution-" ++ toString engine.nextLocalOrderId

/-- The final risk decision of `dispatchBrokerOrder`. -/
def finalRisk (portfolio : PortfolioManager) (risk : RiskEngine) (isBuy : Bool) : RiskDecision :=
  let allowed := !isBuy || risk.canTrade portfolio
  if allowed then { allowed := true, riskIncreasing := isBuy }
  else {
    allowed := false
    riskIncreasing := isBuy
    failure := .validation
    action := .halt
    reason := "RiskEngine rejected risk-increasing entry" }

/-- The fill quantity that an engine has already applied to an order. -/
def appliedQuantity (localOrderId : ℕ) : Quantity :=
  (engine.appliedBrokerQty.lookup localOrderId).getD 0

/-- The portfolio call that books a fill: none when it must not be booked. -/
def bookingCall (portfolio : PortfolioManager) (isBuy : Bool) (fillPrice : Price)
    (fillFee : Money) (incremental : Quantity) (timestampNs : ℕ) (strategyId : String) :
    Option PortfolioCall :=
  if isBuy then
    (notional fillPrice incremental).bind fun cost => (add cost fillFee).map fun debit =>
      if portfolio.hasPosition engine.symbol then
        .addToLong engine.symbol fillPrice.toDouble incremental.toDouble fillFee.toDouble
          debit.toDouble strategyId
      else
        .openLong engine.symbol fillPrice.toDouble timestampNs fillFee.toDouble debit.toDouble
          incremental.toDouble strategyId
  else
    (quantity (portfolio.getPositionQuantity engine.symbol) .rejectUnaligned).bind fun held =>
      if !held.isPositive || decide (held.units < incremental.units) then none
      else some (.closePosition engine.symbol fillPrice.toDouble timestampNs fillFee.toDouble
        strategyId incremental.toDouble)

/-- The decision of `onBrokerExecution`: the booking, or none when the event is
reported as an error. -/
def decideBooking (portfolio : PortfolioManager) (lifecycle : Option OrderLifecycleRecord)
    (execution : ExecutionEvent) : Option Booking := do
  let record ← lifecycle.filter fun r => decide (r.request.canonicalSymbol = engine.symbol)
  let cumulative ← (quantity execution.cumulativeFilledQuantity.toDouble
    .rejectUnaligned).filter (·.isPositive)
  let remaining ← (quantity execution.remainingQuantity.toDouble .rejectUnaligned).filter
    (!·.isNegative)
  let fillPrice ← (price execution.fillPrice.toDouble .rejectUnaligned).filter (·.isPositive)
  let fillFee ← (money execution.fee.toDouble .rejectUnaligned).filter (!·.isNegative)
  let incremental ← (subtract cumulative (engine.appliedQuantity execution.localOrderId)).filter
    (·.isPositive)
  let isBuy := decide (record.request.side = .buy)
  let call ← engine.bookingCall portfolio isBuy fillPrice fillFee incremental
    execution.timestampNs record.request.sourceId
  return {
    isBuy := isBuy
    call := call
    fillPrice := fillPrice
    fillFee := fillFee
    incremental := incremental
    cumulative := cumulative
    remaining := remaining
    requestedPrice := (record.request.referencePrice.map (·.toDouble)).getD fillPrice.toDouble
    strategyId := record.request.sourceId }

/-- The bookkeeping at the end of `onBrokerExecution`. -/
def afterBooking (booking : Booking) (localOrderId : ℕ) : ExecutionEngine :=
  { engine with
    filledCount := engine.filledCount + 1
    lastBrokerOrderId := localOrderId
    pendingBrokerQty :=
      if booking.remaining.isPositive then
        engine.pendingBrokerQty.insert localOrderId booking.remaining
      else engine.pendingBrokerQty.erase localOrderId
    appliedBrokerQty :=
      if booking.remaining.isPositive then
        engine.appliedBrokerQty.insert localOrderId booking.cumulative
      else engine.appliedBrokerQty.erase localOrderId }

/-- The budget of a triggered BUY order: its own capital, or the cash. -/
def pendingBudget (cash : Money) (capitalToCommit : Double) : Option Money :=
  if 0 < capitalToCommit then
    ((money capitalToCommit).filter (·.isPositive)).map fun requested =>
      if requested.units < cash.units then requested else cash
  else some cash

/-- The sizing of `processPendingOrders` for a triggered BUY order. -/
def planPendingEntry (portfolio : PortfolioManager) (fill : OrderFillResult)
    (fillPrice : Price) : Option EntryPlan :=
  (applySlippage fillPrice engine.slippage.value true).bind fun slippedPrice =>
    ((money portfolio.getCashBalance .rejectUnaligned).filter (·.isPositive)).bind fun cash =>
      (pendingBudget cash fill.capitalToCommit).bind fun budget =>
        let explicitUnits :=
          if 0 < fill.quantity then (quantity fill.quantity).filter (·.isPositive) else none
        engine.fitBudget budget slippedPrice
          (explicitUnits.or (engine.affordable budget slippedPrice))

/-- The decision of `processPendingOrders` for one triggered order. -/
def decidePending (portfolio : PortfolioManager) (risk : RiskEngine) (fill : OrderFillResult) :
    PendingDecision :=
  if !fill.filled then .skip
  else
    match (price fill.fillPrice).filter (·.isPositive) with
    | none => .block
    | some fillPrice =>
      if fill.isBuy then
        if !risk.canTrade portfolio then .block
        else if portfolio.hasPosition fill.symbol then .skip
        else
          match engine.planPendingEntry portfolio fill fillPrice with
          | none => .block
          | some plan => .enter plan
      else if !portfolio.hasPosition fill.symbol then .skip
      else
        match engine.planExit portfolio fill.symbol fillPrice with
        | none => .block
        | some plan => .exit plan

end ExecutionEngine

end TradeBot
