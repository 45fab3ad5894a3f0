import TradeBot.ExecutionEngine

/-!
# Engines, portfolio, risk engine and gateway together

`n` execution engines share one portfolio, one risk engine and one broker gateway,
as `main` wires them. This module says what each entry point and each broker
callback does to the whole. A call into the adapter splits an entry point in two:
the part up to `submit`, and the part from its return on; broker events are
delivered in between or at any other time.
-/

namespace TradeBot

open Library Financial

variable [FloatFormat]

instance neZeroOne : NeZero 1 := ⟨by decide⟩

instance neZeroTwo : NeZero 2 := ⟨by decide⟩

/-- A candle, as far as pending orders read it. -/
structure MarketCandle where
  symbol : String
  epochTimestamp : ℕ
  high : Double
  low : Double
  close : Double
  deriving DecidableEq

/-- The arguments of `execute`, with the reading of the injected strategy's average
true range and the measured routing latency. -/
structure ExecuteArgs where
  signal : Signal
  marketPrice : Double
  timestamp : ℕ := 0
  strategyId : String := ""
  atr : Option Double := none
  routeLatencyMs : ℚ := 0
  deriving DecidableEq

/-- The state of the wired objects. `executionObservers` are the engines registered
with `addExecutionCallback`, in order; `reportsRejections` says that `main` has
installed its acknowledgement callback; `clock` holds the steady-clock readings
that are still to come. -/
structure System (n : ℕ) where
  portfolio : PortfolioManager
  risk : RiskEngine
  gateway : BrokerGateway
  engines : Fin n → ExecutionEngine
  executionObservers : List (Fin n)
  reportsRejections : Bool
  analytics : AnalyticsEngine
  clock : ℕ → ℕ

namespace System

variable {n : ℕ} (s : System n)

/-- The system with one engine changed. -/
def setEngine (i : Fin n) (engine : ExecutionEngine) : System n :=
  { s with engines := Function.update s.engines i engine }

/-- The system with one engine's blocked signal counted. -/
def block (i : Fin n) : System n :=
  s.setEngine i { s.engines i with blockedCount := (s.engines i).blockedCount + 1 }

/-- `reportApiError` at the next clock reading. -/
def reportApiError : System n :=
  { s with
    risk := s.risk.reportApiError (s.clock 0)
    clock := fun k => s.clock (k + 1) }

/-- `recordTrade`, when the engine records analytics. -/
def recordTrade (i : Fin n) (entry : TradeLogEntry) : System n :=
  if (s.engines i).recordsAnalytics then { s with analytics := s.analytics.recordTrade entry }
  else s

/-- `recordSlippage`, when the engine records analytics. -/
def recordSlippage (i : Fin n) (timestamp : ℕ) (symbol : String)
    (expectedPrice actualPrice quantity : Double) : System n :=
  if (s.engines i).recordsAnalytics then
    { s with analytics :=
        s.analytics.recordSlippage timestamp symbol expectedPrice actualPrice quantity }
  else s

/-- The profit of the last trade record, net and gross. -/
def lastProfit : Double × Double :=
  match s.portfolio.tradeLog.getLast? with
  | none => (0, 0)
  | some record => (record.realizedPnL, record.grossPnL)

/-- The order that an engine has handed to the adapter, or what its call returned. -/
inductive Progress (α : Type) where
  | returned (result : Except StdException α)
  | submitting (order : NormalizedOrder)

/-- The routing latency that `dispatchBrokerOrder` measures before it dispatches. -/
def recordLatency (i : Fin n) (elapsed : ℚ) : System n :=
  let engine := s.engines i
  let engine := { engine with
    lastRouteLatencyMs := elapsed
    maxRouteLatencyMs := max engine.maxRouteLatencyMs elapsed
    latencyBreaches := if 5 < elapsed then engine.latencyBreaches + 1 else engine.latencyBreaches }
  { s.setEngine i engine with
    risk := if 5 < elapsed then s.risk.reportLatency (⌈elapsed⌉.toNat % 2 ^ 32) else s.risk }

/-- The call of `dispatchOrder` in `dispatchBrokerOrder`, up to the adapter's `submit`. -/
def handToGateway (i : Fin n) (order : NormalizedOrder) (finalRisk : RiskDecision) :
    System n × Progress Bool :=
  match s.gateway.beginDispatch order finalRisk with
  | (gateway, none) => ({ s with gateway := gateway }, .submitting order)
  | (gateway, some result) =>
    let s := { s with gateway := gateway }
    if finalRisk.allowed ∧ result.failure ≠ .none then
      (s.reportApiError.block i, .returned (.ok false))
    else (s, .returned (.ok false))

/-- `dispatchBrokerOrder` up to the adapter's `submit`. -/
def beginDispatch (i : Fin n) (isBuy : Bool) (units : Quantity) (requestedPrice : Price)
    (timestamp : ℕ) (strategyId : String) (routeLatencyMs : ℚ) : System n × Progress Bool :=
  if !s.gateway.isConnected then (s.block i, .returned (.ok false))
  else
    let request := (s.engines i).brokerRequest isBuy units requestedPrice timestamp strategyId
    let s := s.setEngine i
      { s.engines i with nextLocalOrderId := (s.engines i).nextLocalOrderId + 1 }
    match s.gateway.normalizeOrder request with
    | .error _ => (s.block i, .returned (.ok false))
    | .ok order =>
      let finalRisk := ExecutionEngine.finalRisk s.portfolio s.risk isBuy
      let s := if finalRisk.allowed then s else s.block i
      (s.recordLatency i routeLatencyMs).handToGateway i order finalRisk

/-- `dispatchBrokerOrder` from the return of the adapter's `submit` on. The order was
handed over under an allowing risk decision. -/
def finishDispatch (i : Fin n) (order : NormalizedOrder) (submitted : Bool) :
    System n × Except StdException Bool :=
  let (gateway, result) := s.gateway.finishDispatch order submitted
  let s := { s with gateway := gateway }
  if !result.dispatched then
    if result.failure ≠ .none then (s.reportApiError.block i, .ok false) else (s, .ok false)
  else
    (s.setEngine i { s.engines i with lastBrokerOrderId := result.localOrderId }, .ok true)

/-- The local fill of a BUY signal. -/
def enterLocally (i : Fin n) (args : ExecuteArgs) (marketPrice : Price) (plan : EntryPlan) :
    System n × Except StdException Bool :=
  let engine := s.engines i
  if !s.risk.canTrade s.portfolio then (s.block i, .ok false)
  else
    match s.portfolio.openLong engine.symbol plan.fillPrice.toDouble args.timestamp
        plan.executionFee.toDouble plan.debit.toDouble plan.units.toDouble args.strategyId with
    | .error e => (s, .error e)
    | .ok portfolio =>
      let s := { s with portfolio := portfolio }.setEngine i
        { engine with filledCount := engine.filledCount + 1 }
      let held := s.portfolio.getPositionQuantity engine.symbol
      let s := s.recordTrade i {
        timestamp := args.timestamp
        side := 'B'
        price := plan.fillPrice.toDouble
        quantity := held
        fee := plan.executionFee.toDouble
        realizedPnL := 0
        grossPnL := 0
        strategyId := args.strategyId }
      (s.recordSlippage i args.timestamp engine.symbol marketPrice.toDouble
        plan.fillPrice.toDouble held, .ok true)

/-- The local fill of a SELL signal. -/
def exitLocally (i : Fin n) (args : ExecuteArgs) (marketPrice : Price) (plan : ExitPlan) :
    System n × Except StdException Bool :=
  let engine := s.engines i
  match s.portfolio.closePosition engine.symbol plan.fillPrice.toDouble args.timestamp
      plan.executionFee.toDouble args.strategyId with
  | .error e => (s, .error e)
  | .ok portfolio =>
    let s := { s with portfolio := portfolio }.setEngine i
      { engine with filledCount := engine.filledCount + 1 }
    let s := s.recordTrade i {
      timestamp := args.timestamp
      side := 'S'
      price := plan.fillPrice.toDouble
      quantity := plan.quantity.toDouble
      fee := plan.executionFee.toDouble
      realizedPnL := s.lastProfit.1
      grossPnL := s.lastProfit.2
      strategyId := args.strategyId }
    (s.recordSlippage i args.timestamp engine.symbol marketPrice.toDouble
      plan.fillPrice.toDouble plan.quantity.toDouble, .ok true)

/-- `execute` up to the adapter's `submit`, or to its return. -/
def beginExecute (i : Fin n) (args : ExecuteArgs) : System n × Progress Bool :=
  let engine := s.engines i
  let decision := engine.decideExecute s.portfolio s.risk s.gateway.isConnected args.signal
    args.marketPrice args.atr
  let s := if args.signal = .none then s
    else s.setEngine i { engine with signalCount := engine.signalCount + 1 }
  match decision with
  | .ignore => (s, .returned (.ok false))
  | .block => (s.block i, .returned (.ok false))
  | .enter marketPrice plan =>
    if engine.bound then
      s.beginDispatch i true plan.units marketPrice args.timestamp args.strategyId
        args.routeLatencyMs
    else
      let (s, result) := s.enterLocally i args marketPrice plan
      (s, .returned result)
  | .exit marketPrice plan =>
    if engine.bound then
      s.beginDispatch i false plan.quantity marketPrice args.timestamp args.strategyId
        args.routeLatencyMs
    else
      let (s, result) := s.exitLocally i args marketPrice plan
      (s, .returned result)

/-- The end of a booking in `onBrokerExecution`: the records, the risk engine's copy
of the position, and the engine's own fill counters. -/
def settleBooking (i : Fin n) (execution : ExecutionEvent) (booking : Booking) : System n :=
  let engine := s.engines i
  let profit := if booking.isBuy then (0, 0) else s.lastProfit
  let s := s.recordTrade i {
    timestamp := execution.timestampNs
    side := if booking.isBuy then 'B' else 'S'
    price := booking.fillPrice.toDouble
    quantity := booking.incremental.toDouble
    fee := booking.fillFee.toDouble
    realizedPnL := profit.1
    grossPnL := profit.2
    strategyId := booking.strategyId }
  let s := s.recordSlippage i execution.timestampNs engine.symbol booking.requestedPrice
    booking.fillPrice.toDouble booking.incremental.toDouble
  { s.setEngine i (engine.afterBooking booking execution.localOrderId) with
    risk := s.risk.syncPosition engine.symbol (s.portfolio.getPositionQuantity engine.symbol) }

/-- `onBrokerExecution` of one engine. -/
def onBrokerExecution (i : Fin n) (execution : ExecutionEvent) : System n :=
  let engine := s.engines i
  if !engine.bound then s
  else
    match engine.decideBooking s.portfolio (s.gateway.orderLifecycle execution.localOrderId)
        execution with
    | none => s.reportApiError
    | some booking =>
      match s.portfolio.call booking.call with
      | .error _ => s.reportApiError
      | .ok portfolio => { s with portfolio := portfolio }.settleBooking i execution booking

/-- An execution that the store applied is passed to every observer in turn. -/
def notifyExecution (execution : ExecutionEvent) : System n :=
  s.executionObservers.foldl (fun s i => s.onBrokerExecution i execution) s

/-- A broker event arrives at the gateway. -/
def deliver (event : BrokerEvent) : System n :=
  match event with
  | .acknowledgement acknowledgement =>
    let (gateway, called) := s.gateway.handleAcknowledgement acknowledgement
    let s := { s with gateway := gateway }
    if called ∧ s.reportsRejections ∧ !acknowledgement.accepted then s.reportApiError else s
  | .execution execution =>
    let (gateway, called) := s.gateway.handleExecution execution
    let s := { s with gateway := gateway }
    if called then s.notifyExecution execution else s
  | .cancelResult result => { s with gateway := s.gateway.handleCancel result }
  | .health health => { s with gateway := s.gateway.handleHealth health }

/-- `placePendingOrder` -/
def placePendingOrder (order : OrderRecord) : System n × ℕ :=
  let (portfolio, orderId) := s.portfolio.placePendingOrder order
  ({ s with portfolio := portfolio }, orderId)

/-- The fill of a triggered BUY order. -/
def enterPending (i : Fin n) (fill : OrderFillResult) (plan : EntryPlan) :
    Except StdException (System n) := do
  let engine := s.engines i
  let portfolio ← s.portfolio.openLong fill.symbol plan.fillPrice.toDouble fill.fillTimestamp
    plan.executionFee.toDouble plan.debit.toDouble plan.units.toDouble
  let s := { s with portfolio := portfolio }.setEngine i
    { engine with filledCount := engine.filledCount + 1 }
  return s.recordTrade i {
    timestamp := fill.fillTimestamp
    side := 'B'
    price := plan.fillPrice.toDouble
    quantity := s.portfolio.getPositionQuantity fill.symbol
    fee := plan.executionFee.toDouble
    realizedPnL := 0
    grossPnL := 0
    strategyId := "" }

/-- The fill of a triggered order that is no BUY. -/
def exitPending (i : Fin n) (fill : OrderFillResult) (plan : ExitPlan) :
    Except StdException (System n) := do
  let engine := s.engines i
  let portfolio ← s.portfolio.closePosition fill.symbol plan.fillPrice.toDouble
    fill.fillTimestamp plan.executionFee.toDouble
  let s := { s with portfolio := portfolio }.setEngine i
    { engine with filledCount := engine.filledCount + 1 }
  return s.recordTrade i {
    timestamp := fill.fillTimestamp
    side := 'S'
    price := plan.fillPrice.toDouble
    quantity := plan.quantity.toDouble
    fee := plan.executionFee.toDouble
    realizedPnL := s.lastProfit.1
    grossPnL := s.lastProfit.2
    strategyId := "" }

/-- The loop of `processPendingOrders` over the triggered orders, with the number
filled so far. An exception ends it where it is. -/
def processFills (i : Fin n) : System n → List OrderFillResult → ℕ →
    System n × Except StdException ℕ
  | s, [], filledCount => (s, .ok filledCount)
  | s, fill :: fills, filledCount =>
    match (s.engines i).decidePending s.portfolio s.risk fill with
    | .skip => processFills i s fills filledCount
    | .block => processFills i (s.block i) fills filledCount
    | .enter plan =>
      match s.enterPending i fill plan with
      | .error e => (s, .error e)
      | .ok s => processFills i s fills (filledCount + 1)
    | .exit plan =>
      match s.exitPending i fill plan with
      | .error e => (s, .error e)
      | .ok s => processFills i s fills (filledCount + 1)

/-- `processPendingOrders` -/
def processPendingOrders (i : Fin n) (candle : MarketCandle) :
    System n × Except StdException ℕ :=
  let (portfolio, fills) := s.portfolio.evaluatePendingOrders candle.symbol candle.high
    candle.low candle.close candle.epochTimestamp
  processFills i { s with portfolio := portfolio } fills 0

/-- The quantity of a protective order: the given one, or that of the position. -/
def triggerQuantity (i : Fin n) (quantity : Double) : Double :=
  if 0 < quantity then quantity else s.portfolio.getPositionQuantity (s.engines i).symbol

/-- The system after an engine's trigger orders were updated. -/
def updateTriggers (i : Fin n) (update : TriggerOrderManager → TriggerOrderManager × ℕ) :
    System n × ℕ :=
  match (s.engines i).triggerOrders with
  | none => (s, 0)
  | some manager =>
    let (manager, orderId) := update manager
    (s.setEngine i { s.engines i with triggerOrders := some manager }, orderId)

/-- `placeStopLossTrigger` -/
def placeStopLossTrigger (i : Fin n) (stopPrice : Double) (quantity : Double := 0)
    (strategyId : String := "") : System n × ℕ :=
  s.updateTriggers i fun manager => manager.placeStopLoss (s.engines i).symbol false stopPrice
    (s.triggerQuantity i quantity) strategyId

/-- `placeOcoTrigger` -/
def placeOcoTrigger (i : Fin n) (stopPrice takeProfitPrice : Double) (quantity : Double := 0)
    (strategyId : String := "") : System n × ℕ :=
  s.updateTriggers i fun manager => manager.placeOco (s.engines i).symbol false stopPrice
    takeProfitPrice (s.triggerQuantity i quantity) strategyId

/-- The triggered events that `processTriggerOrders` is going to execute. -/
def triggeredEvents (i : Fin n) (bbo : BestQuote) (timestamp : ℕ) : List TriggerFillEvent :=
  match (s.engines i).triggerOrders with
  | none => []
  | some manager =>
    if !bbo.valid then [] else manager.evaluate (s.engines i).symbol bbo timestamp

/-- The `execute` call that `processTriggerOrders` makes for a triggered event. -/
def triggerArgs (event : TriggerFillEvent) (atr : Option Double) (routeLatencyMs : ℚ) :
    ExecuteArgs where
  signal := if event.isBuy then .buy else .sell
  marketPrice := event.executionPrice
  timestamp := event.timestamp
  strategyId := if event.strategyId = "" then "TRIGGER" else event.strategyId
  atr := atr
  routeLatencyMs := routeLatencyMs

/-- The trigger order of an event that was executed is canceled. -/
def cancelTrigger (i : Fin n) (orderId : ℕ) : System n :=
  match (s.engines i).triggerOrders with
  | none => s
  | some manager =>
    s.setEngine i { s.engines i with triggerOrders := some (manager.cancel orderId).1 }

/-- `bindBrokerGateway` with a gateway: the engine is bound and observes executions.
Its call of `setPaperSimulationCosts` goes to the adapter. -/
def bindBrokerGateway (i : Fin n) : System n :=
  { s.setEngine i { s.engines i with bound := true } with
    executionObservers := s.executionObservers ++ [i] }

/-- The system that `main` builds outside backtests: every engine is bound to the
gateway, in order, and rejections are reported to the risk engine. -/
def wire (portfolio : PortfolioManager) (risk : RiskEngine) (gateway : BrokerGateway)
    (engines : Fin n → ExecutionEngine) (clock : ℕ → ℕ) : System n where
  portfolio := portfolio
  risk := risk
  gateway := gateway
  engines i := { engines i with bound := true }
  executionObservers := List.finRange n
  reportsRejections := true
  analytics := {}
  clock := clock

/-- The system of `main` in PAPER mode at its start, with one engine for each symbol: the
starting cash, and a gateway whose paper adapter is connected. -/
def mainPaper (symbols : Fin n → String) : System n :=
  let config : SystemConfig := { mode := .paper }
  wire .fresh (RiskEngine.setSystemConfig {} (some config))
    { config := config, adapter := .deterministic, adapterConnected := true }
    (fun i => ExecutionEngine.main (symbols i)) id

/-- The portfolio is marked to a price. An exception leaves it as it is. -/
def markPrice (symbol : String) (currentPrice : Double) : System n :=
  match s.portfolio.updatePnL symbol currentPrice with
  | .error _ => s
  | .ok portfolio => { s with portfolio := portfolio }

end System

end TradeBot
