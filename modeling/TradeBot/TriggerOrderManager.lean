import TradeBot.Double
import Mathlib.Data.List.Basic

/-!
# Trigger orders

`TriggerOrderManager.cpp`: a fixed number of slots for stop-loss and
one-cancels-other orders, which are matched against the best bid and ask. A
triggered order stays in its slot until it is canceled.
-/

namespace TradeBot

/-- `L2OrderBook::BestQuote` -/
structure BestQuote where
  valid : Bool := false
  bidPrice : Double := 0
  bidSize : Double := 0
  askPrice : Double := 0
  askSize : Double := 0
  deriving DecidableEq

/-- `TriggerOrderType` -/
inductive TriggerOrderType where
  | stopLoss
  | oco
  deriving DecidableEq

/-- `TriggerReason` -/
inductive TriggerReason where
  | none
  | stopTrigger
  | takeProfit
  deriving DecidableEq

/-- `TriggerFillEvent` -/
structure TriggerFillEvent where
  orderId : ℕ
  symbol : String
  orderType : TriggerOrderType
  triggerReason : TriggerReason
  isBuy : Bool
  triggerPrice : Double
  executionPrice : Double
  quantity : Double
  timestamp : ℕ
  strategyId : String
  deriving DecidableEq

/-- `OrderSlot` -/
structure OrderSlot where
  inUse : Bool := false
  orderId : ℕ := 0
  symbol : String := ""
  orderType : TriggerOrderType := .stopLoss
  isBuy : Bool := false
  stopPrice : Double := 0
  takeProfitPrice : Double := 0
  quantity : Double := 0
  placedTs : ℕ := 0
  strategyId : String := ""
  deriving DecidableEq

instance : Inhabited OrderSlot := ⟨{}⟩

/-- The state of `TriggerOrderManager`. The last entry of `freeIdx` is used first. -/
structure TriggerOrderManager where
  slots : List OrderSlot
  freeIdx : List ℕ
  nextOrderId : ℕ := 1
  activeCount : ℕ := 0
  deriving DecidableEq

namespace TriggerOrderManager

/-- A newly constructed manager. -/
def ofCapacity (capacity : ℕ := 4096) : TriggerOrderManager where
  slots := List.replicate capacity {}
  freeIdx := (List.range capacity).reverse

/-- `placeOrder`: the identifier, or zero when the order is refused. -/
def placeOrder (manager : TriggerOrderManager) (symbol : String) (type : TriggerOrderType)
    (isBuy : Bool) (stopPrice takeProfitPrice quantity : Double) (strategyId : String) :
    TriggerOrderManager × ℕ :=
  if symbol = "" ∨ stopPrice ≤ 0 then (manager, 0)
  else if type = .oco ∧ takeProfitPrice ≤ 0 then (manager, 0)
  else
    match manager.freeIdx.getLast? with
    | none => (manager, 0)
    | some idx =>
      let slot := { manager.slots.getD idx default with
        inUse := true
        orderId := manager.nextOrderId
        symbol := symbol
        orderType := type
        isBuy := isBuy
        stopPrice := stopPrice
        takeProfitPrice := takeProfitPrice
        quantity := quantity
        strategyId := strategyId }
      ({ slots := manager.slots.set idx slot
         freeIdx := manager.freeIdx.dropLast
         nextOrderId := (manager.nextOrderId + 1) % 2 ^ 64
         activeCount := manager.activeCount + 1 }, manager.nextOrderId)

/-- `placeStopLoss` -/
def placeStopLoss (manager : TriggerOrderManager) (symbol : String) (isBuy : Bool)
    (stopTriggerPrice : Double) (quantity : Double := 0) (strategyId : String := "") :
    TriggerOrderManager × ℕ :=
  manager.placeOrder symbol .stopLoss isBuy stopTriggerPrice 0 quantity strategyId

/-- `placeOco` -/
def placeOco (manager : TriggerOrderManager) (symbol : String) (isBuy : Bool)
    (stopTriggerPrice takeProfitPrice : Double) (quantity : Double := 0)
    (strategyId : String := "") : TriggerOrderManager × ℕ :=
  manager.placeOrder symbol .oco isBuy stopTriggerPrice takeProfitPrice quantity strategyId

/-- `releaseSlot` -/
def releaseSlot (manager : TriggerOrderManager) (idx : ℕ) : TriggerOrderManager :=
  if manager.slots.length ≤ idx then manager
  else if (manager.slots.getD idx default).inUse = false then manager
  else { manager with
    slots := manager.slots.set idx {}
    freeIdx := manager.freeIdx ++ [idx]
    activeCount := manager.activeCount - 1 }

/-- `cancel` -/
def cancel (manager : TriggerOrderManager) (orderId : ℕ) : TriggerOrderManager × Bool :=
  match manager.slots.findIdx? fun slot => slot.inUse && decide (slot.orderId = orderId) with
  | none => (manager, false)
  | some idx => (manager.releaseSlot idx, true)

/-- `hasOrder` -/
def hasOrder (manager : TriggerOrderManager) (orderId : ℕ) : Bool :=
  manager.slots.any fun slot => slot.inUse && decide (slot.orderId = orderId)

/-- Why a quote triggers an order, and at which price of the order. -/
def triggerOf (slot : OrderSlot) (bbo : BestQuote) : TriggerReason × Double :=
  let stopped := if slot.isBuy then decide (slot.stopPrice ≤ bbo.askPrice)
    else decide (bbo.bidPrice ≤ slot.stopPrice)
  let profit := if slot.isBuy then decide (bbo.bidPrice ≤ slot.takeProfitPrice)
    else decide (slot.takeProfitPrice ≤ bbo.askPrice)
  if stopped then (.stopTrigger, slot.stopPrice)
  else if slot.orderType = .oco ∧ profit then (.takeProfit, slot.takeProfitPrice)
  else (.none, 0)

/-- The event that one slot emits. -/
def slotEvent (symbol : String) (bbo : BestQuote) (timestamp : ℕ) (slot : OrderSlot) :
    Option TriggerFillEvent :=
  if slot.inUse = false ∨ slot.symbol ≠ symbol then none
  else
    let (reason, price) := triggerOf slot bbo
    if reason = .none then none
    else some {
      orderId := slot.orderId
      symbol := slot.symbol
      orderType := slot.orderType
      triggerReason := reason
      isBuy := slot.isBuy
      triggerPrice := price
      executionPrice := if slot.isBuy then bbo.askPrice else bbo.bidPrice
      quantity := slot.quantity
      timestamp := timestamp
      strategyId := slot.strategyId }

/-- `evaluate`: the events of the triggered orders, in slot order. The orders stay. -/
def evaluate (manager : TriggerOrderManager) (symbol : String) (bbo : BestQuote)
    (timestamp : ℕ) : List TriggerFillEvent :=
  if !bbo.valid then [] else manager.slots.filterMap (slotEvent symbol bbo timestamp)

end TriggerOrderManager

end TradeBot
