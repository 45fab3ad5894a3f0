import TradeBot.FinancialMath
import TradeBot.Library.KeyedTotals

/-!
# The portfolio manager

`PortfolioManager.cpp`: cash, open positions, the closed-trade log, equity with its
drawdown, and the queue of resting orders. A call that throws commits nothing,
because every source function computes its new values before it assigns a member;
the model returns the new portfolio or the exception.
-/

namespace TradeBot

open Library Financial

variable [FloatFormat]

/-- The standard exceptions the program throws, with their texts. -/
inductive StdException where
  | invalidArgument (what : String)
  | logicError (what : String)
  | overflowError (what : String)
  deriving DecidableEq, Repr

/-- A `throw` guarded by a condition. -/
def throwIf (condition : Bool) (e : StdException) : Except StdException Unit :=
  if condition then .error e else .ok ()

/-- `requireValue` -/
def requireValue {α : Type} (value : Option α) (message : String) : Except StdException α :=
  match value with
  | some v => .ok v
  | none => .error (.overflowError message)

/-- An optional value that must be present and positive. -/
def requirePositive {tag : Tag} (value : Option (Value tag)) (e : StdException) :
    Except StdException (Value tag) :=
  match value with
  | some v => if v.isPositive then .ok v else .error e
  | none => .error e

/-- An optional value that must be present and not negative. -/
def requireNonnegative {tag : Tag} (value : Option (Value tag)) (e : StdException) :
    Except StdException (Value tag) :=
  match value with
  | some v => if v.isNegative then .error e else .ok v
  | none => .error e

/-- `requireCounterCapacity`: a counter at the largest `int` cannot count on. -/
def requireCounterCapacity (value : ℤ) (message : String) : Except StdException Unit :=
  throwIf (decide (value = 2147483647)) (.overflowError message)

/-- `OrderType` -/
inductive OrderType where
  | market
  | limit
  | stopLoss
  | trailingStop
  deriving DecidableEq, Repr

/-- `OrderRecord`: an order in the pending queue. -/
structure OrderRecord where
  symbol : String
  orderType : OrderType := .limit
  isBuy : Bool := true
  limitPrice : Double := 0
  trailOffset : Double := 0
  trailBest : Double := 0
  quantity : Double := 0
  capitalToCommit : Double := 0
  placedTimestamp : ℕ := 0
  orderId : ℕ := 0
  deriving DecidableEq, Repr

/-- `OrderFillResult`: a pending order that a candle triggered. -/
structure OrderFillResult where
  orderId : ℕ
  filled : Bool
  symbol : String
  orderType : OrderType
  isBuy : Bool
  fillPrice : Double
  quantity : Double
  capitalToCommit : Double
  fillTimestamp : ℕ
  deriving DecidableEq, Repr

/-- `TradeRecord`: one reduction of a position, with its fees on both legs. -/
structure TradeRecord where
  symbol : String
  openTimestamp : ℕ
  closeTimestamp : ℕ
  entryPrice : Double
  exitPrice : Double
  quantity : Double
  totalFees : Double
  realizedPnL : Double
  grossPnL : Double
  strategyId : String
  deriving DecidableEq, Repr

/-- `PositionState`: one open position. -/
structure PositionState where
  quantity : Quantity
  averageEntryPrice : Price
  costBasis : Money
  lastMarkPrice : Price
  entryTimestamp : ℕ
  entryFee : Money
  strategyId : String
  deriving DecidableEq, Repr

/-- `Valuation` -/
structure Valuation where
  unrealizedPnL : Money
  totalEquity : Money
  maxEquity : Money
  currentDrawdown : Double
  maxDrawdown : Double

/-- The state of `PortfolioManager`. The order of the position entries is one
iteration order of the source's hash map. -/
structure PortfolioManager where
  cash : Money
  positions : KeyedMap String PositionState
  unrealizedPnL : Money
  totalEquity : Money
  maxEquity : Money
  currentDrawdown : Double
  maxDrawdown : Double
  tradeCount : ℤ
  totalFeesPaid : Money
  tradeLog : List TradeRecord
  roundTripCount : ℤ
  pendingOrders : List OrderRecord
  nextOrderId : ℕ

namespace PortfolioManager

/-- `STARTING_CASH` in units. -/
def startingCash : Money := ⟨10000000000000⟩

/-- A newly constructed portfolio. -/
def fresh (cash : Money := startingCash) : PortfolioManager where
  cash := cash
  positions := ∅
  unrealizedPnL := 0
  totalEquity := cash
  maxEquity := cash
  currentDrawdown := 0
  maxDrawdown := 0
  tradeCount := 0
  totalFeesPaid := 0
  tradeLog := []
  roundTripCount := 0
  pendingOrders := []
  nextOrderId := 1

/-- The body of the loop of `valueState`, on marked value and unrealized P&L. -/
def addMark (sums : Money × Money) (state : PositionState) :
    Except StdException (Money × Money) := do
  let marked ← requireValue (notional state.lastMarkPrice state.quantity)
    "PortfolioManager: marked notional overflow"
  let markedValue ← requireValue (add sums.1 marked)
    "PortfolioManager: aggregate marked value overflow"
  let positionPnl ← requireValue (subtract marked state.costBasis)
    "PortfolioManager: unrealized P&L overflow"
  let unrealized ← requireValue (add sums.2 positionPnl)
    "PortfolioManager: aggregate unrealized P&L overflow"
  return (markedValue, unrealized)

/-- `valueState` -/
def valueState (pm : PortfolioManager) (cash : Money)
    (positions : KeyedMap String PositionState) : Except StdException Valuation := do
  let (markedValue, unrealized) ←
    (positions.entries.map Sigma.snd).foldlM addMark ((0, 0) : Money × Money)
  let equity ← requireValue (add cash markedValue) "PortfolioManager: total equity overflow"
  let maxEquity := if pm.maxEquity.units < equity.units then equity else pm.maxEquity
  let drawdown := if maxEquity.isPositive then
    (maxEquity.toDouble - equity.toDouble) / maxEquity.toDouble else 0
  return {
    unrealizedPnL := unrealized
    totalEquity := equity
    maxEquity := maxEquity
    currentDrawdown := drawdown
    maxDrawdown := Double.max pm.maxDrawdown drawdown }

/-- `commitValuation` -/
def commitValuation (pm : PortfolioManager) (valuation : Valuation) : PortfolioManager :=
  { pm with
    unrealizedPnL := valuation.unrealizedPnL
    totalEquity := valuation.totalEquity
    maxEquity := valuation.maxEquity
    currentDrawdown := valuation.currentDrawdown
    maxDrawdown := valuation.maxDrawdown }

/-- The debit budget of `openLong`. -/
def entryBudget (cash : Money) (capitalToCommit : Double) : Except StdException Money :=
  if 0 < capitalToCommit then do
    let budget ← requirePositive (money capitalToCommit)
      (.invalidArgument "PortfolioManager: invalid capital budget")
    throwIf (decide (cash.units < budget.units))
      (.invalidArgument "PortfolioManager: invalid capital budget")
    return budget
  else return cash

/-- The quantity, cost basis and debit of `openLong`: explicit units must fit the
budget, otherwise the budget net of the fee is converted to units. -/
def sizeEntry (price : Price) (entryFee budget : Money) (explicitUnits : Double) :
    Except StdException (Quantity × Money × Money) :=
  if 0 < explicitUnits then do
    let quantity ← requirePositive (quantity explicitUnits .rejectUnaligned)
      (.invalidArgument "PortfolioManager: invalid explicit quantity")
    let costBasis ← requireValue (notional price quantity)
      "PortfolioManager: entry notional overflow"
    let debit ← requireValue (add costBasis entryFee) "PortfolioManager: entry debit overflow"
    throwIf (decide (budget.units < debit.units))
      (.logicError "PortfolioManager: explicit quantity exceeds capital budget")
    return (quantity, costBasis, debit)
  else do
    let notionalBudget ← requirePositive (subtract budget entryFee)
      (.logicError "PortfolioManager: fee exhausts capital budget")
    let quantity ← requirePositive (quantityForNotional notionalBudget price)
      (.logicError "PortfolioManager: capital normalizes to zero quantity")
    let costBasis ← requireValue (notional price quantity)
      "PortfolioManager: entry notional overflow"
    let debit ← requireValue (add costBasis entryFee) "PortfolioManager: entry debit overflow"
    return (quantity, costBasis, debit)

/-- `openLong` -/
def openLong (pm : PortfolioManager) (symbol : String) (netPrice : Double) (timestamp : ℕ := 0)
    (fee : Double := 0) (capitalToCommit : Double := 0) (explicitUnits : Double := 0)
    (strategyId : String := "") : Except StdException PortfolioManager := do
  throwIf (decide (symbol = "")) (.invalidArgument "PortfolioManager: symbol must not be empty")
  throwIf (decide (symbol ∈ pm.positions)) (.logicError
    ("PortfolioManager: cannot open a new position for '" ++ symbol
      ++ "' while one is already open"))
  throwIf (decide (explicitUnits < 0) || decide (capitalToCommit < 0) || decide (fee < 0))
    (.invalidArgument "PortfolioManager: negative accounting input")
  let price ← requirePositive (price netPrice)
    (.invalidArgument "PortfolioManager: invalid price or fee")
  let entryFee ← requireNonnegative (money fee)
    (.invalidArgument "PortfolioManager: invalid price or fee")
  let budget ← entryBudget pm.cash capitalToCommit
  let (quantity, costBasis, debit) ← sizeEntry price entryFee budget explicitUnits
  throwIf (decide (pm.cash.units < debit.units))
    (.logicError "PortfolioManager: insufficient cash for entry fill")
  throwIf (!costBasis.isPositive)
    (.logicError "PortfolioManager: entry notional normalizes to zero")
  let averageEntry ← requireValue (averagePrice costBasis quantity)
    "PortfolioManager: average entry price overflow"
  let nextCash ← requireValue (subtract pm.cash debit) "PortfolioManager: cash debit overflow"
  let nextFees ← requireValue (add pm.totalFeesPaid entryFee)
    "PortfolioManager: total fee overflow"
  let nextPositions := pm.positions.insert symbol {
    quantity := quantity
    averageEntryPrice := averageEntry
    costBasis := costBasis
    lastMarkPrice := price
    entryTimestamp := timestamp
    entryFee := entryFee
    strategyId := strategyId }
  let valuation ← pm.valueState nextCash nextPositions
  requireCounterCapacity pm.tradeCount "PortfolioManager: trade counter overflow"
  return { pm with
    cash := nextCash
    positions := nextPositions
    totalFeesPaid := nextFees
    tradeCount := pm.tradeCount + 1 }.commitValuation valuation

/-- The budget check of `addToLong`. -/
def requireWithinBudget (capitalToCommit : Double) (debit : Money) : Except StdException Unit :=
  if 0 < capitalToCommit then do
    let budget ← requireNonnegative (money capitalToCommit)
      (.logicError "PortfolioManager::addToLong exceeds capital budget")
    throwIf (decide (budget.units < debit.units))
      (.logicError "PortfolioManager::addToLong exceeds capital budget")
  else return ()

/-- The branch of `addToLong` for a position that is open. -/
def addToPosition (pm : PortfolioManager) (current : PositionState) (symbol : String)
    (netPrice quantity fee capitalToCommit : Double) (strategyId : String) :
    Except StdException PortfolioManager := do
  throwIf (decide (quantity ≤ 0) || decide (fee < 0) || decide (capitalToCommit < 0))
    (.invalidArgument "PortfolioManager::addToLong invalid accounting input")
  let price ← requirePositive (price netPrice)
    (.invalidArgument "PortfolioManager::addToLong unrepresentable input")
  let addedQuantity ← requirePositive (Financial.quantity quantity .rejectUnaligned)
    (.invalidArgument "PortfolioManager::addToLong unrepresentable input")
  let addedFee ← requireNonnegative (money fee)
    (.invalidArgument "PortfolioManager::addToLong unrepresentable input")
  let addedCost ← requireValue (notional price addedQuantity)
    "PortfolioManager: add-on notional overflow"
  let debit ← requireValue (add addedCost addedFee) "PortfolioManager: add-on debit overflow"
  throwIf (!addedCost.isPositive)
    (.logicError "PortfolioManager: add-on notional normalizes to zero")
  throwIf (decide (pm.cash.units < debit.units))
    (.logicError "PortfolioManager::addToLong insufficient cash")
  requireWithinBudget capitalToCommit debit
  let nextQuantity ← requireValue (add current.quantity addedQuantity)
    "PortfolioManager: position quantity overflow"
  let nextCost ← requireValue (add current.costBasis addedCost)
    "PortfolioManager: cost-basis overflow"
  let nextEntryFee ← requireValue (add current.entryFee addedFee)
    "PortfolioManager: entry-fee overflow"
  let nextAverage ← requireValue (averagePrice nextCost nextQuantity)
    "PortfolioManager: average-price overflow"
  let nextPositions := pm.positions.insert symbol { current with
    quantity := nextQuantity
    costBasis := nextCost
    entryFee := nextEntryFee
    averageEntryPrice := nextAverage
    lastMarkPrice := price
    strategyId := if strategyId = "" then current.strategyId else strategyId }
  let nextCash ← requireValue (subtract pm.cash debit) "PortfolioManager: cash debit overflow"
  let nextFees ← requireValue (add pm.totalFeesPaid addedFee)
    "PortfolioManager: total fee overflow"
  let valuation ← pm.valueState nextCash nextPositions
  requireCounterCapacity pm.tradeCount "PortfolioManager: trade counter overflow"
  return { pm with
    cash := nextCash
    positions := nextPositions
    totalFeesPaid := nextFees
    tradeCount := pm.tradeCount + 1 }.commitValuation valuation

/-- `addToLong`: without an open position it opens one. -/
def addToLong (pm : PortfolioManager) (symbol : String) (netPrice quantity : Double)
    (fee : Double := 0) (capitalToCommit : Double := 0) (strategyId : String := "") :
    Except StdException PortfolioManager :=
  match pm.positions.lookup symbol with
  | none =>
    let budget := if 0 < capitalToCommit then capitalToCommit else quantity * netPrice + fee
    pm.openLong symbol netPrice 0 fee budget quantity strategyId
  | some current => pm.addToPosition current symbol netPrice quantity fee capitalToCommit strategyId

/-- The quantity that `closePosition` closes: the explicit one, or the whole position. -/
def closeQuantity (held : Quantity) (explicitQuantity : Double) : Except StdException Quantity :=
  if 0 < explicitQuantity then do
    let normalizedQuantity ← requirePositive (quantity explicitQuantity .rejectUnaligned)
      (.invalidArgument "PortfolioManager: invalid close quantity")
    throwIf (decide (held.units < normalizedQuantity.units))
      (.logicError "PortfolioManager: reversal/over-close is unsupported")
    return normalizedQuantity
  else return held

/-- The positions after `closePosition`: a position without remaining quantity is
erased, otherwise its allocated cost and entry fee leave it. -/
def reducePosition (positions : KeyedMap String PositionState) (symbol : String)
    (prior : PositionState) (price : Price) (remainingQuantity : Quantity)
    (allocatedCost allocatedEntryFee : Money) :
    Except StdException (KeyedMap String PositionState) :=
  if remainingQuantity.isZero then return positions.erase symbol
  else do
    let nextCost ← requireValue (subtract prior.costBasis allocatedCost)
      "PortfolioManager: remaining cost-basis overflow"
    let nextEntryFee ← requireValue (subtract prior.entryFee allocatedEntryFee)
      "PortfolioManager: remaining entry-fee overflow"
    let nextAverage ← requireValue (averagePrice nextCost remainingQuantity)
      "PortfolioManager: remaining average-price overflow"
    return positions.insert symbol { prior with
      quantity := remainingQuantity
      costBasis := nextCost
      entryFee := nextEntryFee
      averageEntryPrice := nextAverage
      lastMarkPrice := price }

/-- The round-trip counter check of `closePosition`: only a full close counts one. -/
def requireRoundTripCapacity (remainingQuantity : Quantity) (roundTripCount : ℤ) :
    Except StdException Unit :=
  if remainingQuantity.isZero then
    requireCounterCapacity roundTripCount "PortfolioManager: round-trip counter overflow"
  else return ()

/-- The branch of `closePosition` for a position that is open. -/
def reduceOpenPosition (pm : PortfolioManager) (prior : PositionState) (symbol : String)
    (netPrice : Double) (timestamp : ℕ) (fee : Double) (strategyId : String)
    (explicitQuantity : Double) : Except StdException PortfolioManager := do
  throwIf (decide (explicitQuantity < 0) || decide (fee < 0))
    (.invalidArgument "PortfolioManager: negative close input")
  let price ← requirePositive (price netPrice)
    (.invalidArgument "PortfolioManager: invalid close price or fee")
  let exitFee ← requireNonnegative (money fee)
    (.invalidArgument "PortfolioManager: invalid close price or fee")
  let closed ← closeQuantity prior.quantity explicitQuantity
  let grossProceeds ← requireValue (notional price closed)
    "PortfolioManager: close notional overflow"
  let netProceeds ← requireNonnegative (subtract grossProceeds exitFee)
    (.logicError "PortfolioManager: close fee exceeds proceeds")
  let allocatedCost ← requireValue (proportional prior.costBasis closed prior.quantity)
    "PortfolioManager: allocated cost-basis overflow"
  let allocatedEntryFee ← requireValue (proportional prior.entryFee closed prior.quantity)
    "PortfolioManager: allocated entry-fee overflow"
  let grossPnl ← requireValue (subtract grossProceeds allocatedCost)
    "PortfolioManager: gross P&L overflow"
  let afterExitFee ← requireValue (subtract grossPnl exitFee)
    "PortfolioManager: exit-fee P&L overflow"
  let realizedPnl ← requireValue (subtract afterExitFee allocatedEntryFee)
    "PortfolioManager: realized P&L overflow"
  let tradeFees ← requireValue (add exitFee allocatedEntryFee)
    "PortfolioManager: trade-fee overflow"
  let record : TradeRecord := {
    symbol := symbol
    openTimestamp := prior.entryTimestamp
    closeTimestamp := timestamp
    entryPrice := prior.averageEntryPrice.toDouble
    exitPrice := price.toDouble
    quantity := closed.toDouble
    totalFees := tradeFees.toDouble
    realizedPnL := realizedPnl.toDouble
    grossPnL := grossPnl.toDouble
    strategyId := if strategyId = "" then prior.strategyId else strategyId }
  let remainingQuantity ← requireValue (subtract prior.quantity closed)
    "PortfolioManager: remaining quantity overflow"
  let nextPositions ← reducePosition pm.positions symbol prior price remainingQuantity
    allocatedCost allocatedEntryFee
  let nextCash ← requireValue (add pm.cash netProceeds) "PortfolioManager: sale cash overflow"
  let nextFees ← requireValue (add pm.totalFeesPaid exitFee)
    "PortfolioManager: total fee overflow"
  let valuation ← pm.valueState nextCash nextPositions
  requireCounterCapacity pm.tradeCount "PortfolioManager: trade counter overflow"
  requireRoundTripCapacity remainingQuantity pm.roundTripCount
  return { pm with
    cash := nextCash
    positions := nextPositions
    totalFeesPaid := nextFees
    tradeLog := pm.tradeLog ++ [record]
    tradeCount := pm.tradeCount + 1
    roundTripCount := if remainingQuantity.isZero then pm.roundTripCount + 1
      else pm.roundTripCount }.commitValuation valuation

/-- `closePosition`: without an open position it returns at once. -/
def closePosition (pm : PortfolioManager) (symbol : String) (netPrice : Double)
    (timestamp : ℕ := 0) (fee : Double := 0) (strategyId : String := "")
    (explicitQuantity : Double := 0) : Except StdException PortfolioManager :=
  match pm.positions.lookup symbol with
  | none => return pm
  | some prior =>
    pm.reduceOpenPosition prior symbol netPrice timestamp fee strategyId explicitQuantity

/-- `updatePnL` -/
def updatePnL (pm : PortfolioManager) (symbol : String) (currentPrice : Double) :
    Except StdException PortfolioManager :=
  match pm.positions.lookup symbol with
  | none => return pm
  | some current => do
    let mark ← requirePositive (price currentPrice)
      (.invalidArgument "PortfolioManager: invalid mark price")
    let nextPositions := pm.positions.insert symbol { current with lastMarkPrice := mark }
    let valuation ← pm.valueState pm.cash nextPositions
    return { pm with positions := nextPositions }.commitValuation valuation

/-- `hasPosition` -/
def hasPosition (pm : PortfolioManager) (symbol : String) : Bool := decide (symbol ∈ pm.positions)

/-- `getOpenPositionCount` -/
def getOpenPositionCount (pm : PortfolioManager) : ℕ := pm.positions.keys.length

/-- `getCashBalance` -/
def getCashBalance (pm : PortfolioManager) : Double := pm.cash.toDouble

/-- `getTotalEquity` -/
def getTotalEquity (pm : PortfolioManager) : Double := pm.totalEquity.toDouble

/-- `getCurrentDrawdown` -/
def getCurrentDrawdown (pm : PortfolioManager) : Double := pm.currentDrawdown

/-- `getPositionQuantity` -/
def getPositionQuantity (pm : PortfolioManager) (symbol : String) : Double :=
  match pm.positions.lookup symbol with
  | none => 0
  | some state => state.quantity.toDouble

/-- `placePendingOrder`: the assigned identifier, or zero for a refused order. -/
def placePendingOrder (pm : PortfolioManager) (order : OrderRecord) : PortfolioManager × ℕ :=
  if order.symbol = "" ∨ order.quantity < 0 ∨ order.capitalToCommit < 0 ∨ order.limitPrice < 0
      ∨ order.trailOffset < 0 ∨ pm.nextOrderId = 2 ^ 64 - 1 then (pm, 0)
  else
    match quantity order.quantity, money order.capitalToCommit, price order.limitPrice,
      price order.trailOffset, price order.trailBest with
    | some units, some capital, some limit, some offset, some best =>
      let record := { order with
        quantity := units.toDouble
        capitalToCommit := capital.toDouble
        limitPrice := limit.toDouble
        trailOffset := offset.toDouble
        trailBest := if order.orderType = .trailingStop then limit.toDouble else best.toDouble
        orderId := pm.nextOrderId }
      ({ pm with
        pendingOrders := pm.pendingOrders ++ [record]
        nextOrderId := pm.nextOrderId + 1 }, pm.nextOrderId)
    | _, _, _, _, _ => (pm, 0)

/-- `cancelPendingOrder` -/
def cancelPendingOrder (pm : PortfolioManager) (orderId : ℕ) : PortfolioManager × Bool :=
  if pm.pendingOrders.any fun order => order.orderId = orderId then
    ({ pm with pendingOrders := pm.pendingOrders.eraseP fun order => order.orderId = orderId },
      true)
  else (pm, false)

/-- The trailing update of `evaluatePendingOrders`: a close above the best price
moves the best price and the stop, when both stay representable. -/
def trailOrder (order : OrderRecord) (close : Double) : OrderRecord :=
  if order.trailBest < close then
    match price close with
    | none => order
    | some best =>
      match price (best.toDouble - order.trailOffset).rounded with
      | none => order
      | some stop =>
        if best.isPositive ∧ stop.isPositive then
          { order with trailBest := best.toDouble, limitPrice := stop.toDouble }
        else order
  else order

/-- The trigger decision of `evaluatePendingOrders` for one order of the candle's
symbol: the order after trailing, and its fill price when it triggers. -/
def evaluateOrder (order : OrderRecord) (high low close : Double) :
    OrderRecord × Option Double :=
  match order.orderType with
  | .limit =>
    if (order.isBuy ∧ low ≤ order.limitPrice) ∨ (¬order.isBuy ∧ order.limitPrice ≤ high) then
      (order, some order.limitPrice)
    else (order, none)
  | .stopLoss =>
    if low ≤ order.limitPrice then (order, some (Double.min order.limitPrice low))
    else (order, none)
  | .trailingStop =>
    let order := trailOrder order close
    if low ≤ order.limitPrice then (order, some (Double.min order.limitPrice low))
    else (order, none)
  | .market => (order, some close)

/-- The loop of `evaluatePendingOrders`: the orders that stay and the fills. -/
def evaluateQueue (symbol : String) (high low close : Double) (timestamp : ℕ) :
    List OrderRecord → List OrderRecord × List OrderFillResult
  | [] => ([], [])
  | order :: orders =>
    let (remaining, fills) := evaluateQueue symbol high low close timestamp orders
    if order.symbol ≠ symbol then (order :: remaining, fills)
    else
      let (order, trigger) := evaluateOrder order high low close
      match trigger.bind fun fillPrice => price fillPrice with
      | none => (order :: remaining, fills)
      | some normalizedFill =>
        if normalizedFill.isPositive then
          (remaining, {
            orderId := order.orderId
            filled := true
            symbol := order.symbol
            orderType := order.orderType
            isBuy := order.isBuy
            fillPrice := normalizedFill.toDouble
            quantity := order.quantity
            capitalToCommit := order.capitalToCommit
            fillTimestamp := timestamp } :: fills)
        else (order :: remaining, fills)

/-- `evaluatePendingOrders` -/
def evaluatePendingOrders (pm : PortfolioManager) (symbol : String) (high low close : Double)
    (timestamp : ℕ) : PortfolioManager × List OrderFillResult :=
  let (remaining, fills) := evaluateQueue symbol high low close timestamp pm.pendingOrders
  ({ pm with pendingOrders := remaining }, fills)

end PortfolioManager

/-- The accounting calls of `PortfolioManager`, with their arguments. -/
inductive PortfolioCall where
  | openLong (symbol : String) (netPrice : Double) (timestamp : ℕ)
      (fee capitalToCommit explicitUnits : Double) (strategyId : String)
  | addToLong (symbol : String) (netPrice quantity fee capitalToCommit : Double)
      (strategyId : String)
  | closePosition (symbol : String) (netPrice : Double) (timestamp : ℕ) (fee : Double)
      (strategyId : String) (explicitQuantity : Double)
  | updatePnL (symbol : String) (currentPrice : Double)

namespace PortfolioManager

/-- The result of a call: the new portfolio, or the exception. -/
def call (pm : PortfolioManager) : PortfolioCall → Except StdException PortfolioManager
  | .openLong symbol netPrice timestamp fee capitalToCommit explicitUnits strategyId =>
    pm.openLong symbol netPrice timestamp fee capitalToCommit explicitUnits strategyId
  | .addToLong symbol netPrice quantity fee capitalToCommit strategyId =>
    pm.addToLong symbol netPrice quantity fee capitalToCommit strategyId
  | .closePosition symbol netPrice timestamp fee strategyId explicitQuantity =>
    pm.closePosition symbol netPrice timestamp fee strategyId explicitQuantity
  | .updatePnL symbol currentPrice => pm.updatePnL symbol currentPrice

end PortfolioManager

end TradeBot
