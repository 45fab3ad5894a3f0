import TradeBot.Trading.LocalFills
import TradeBot.Library.Machine

/-!
# Engines without a gateway

Several engines share a portfolio and a risk engine and book their own fills. A loop over
triggered orders takes one turn at a time, so that everything else can happen between two
turns.
-/

namespace TradeBot

open Library

/-- The loop that is running: over the events of protective orders, or over the resting orders
that a candle has triggered. -/
inductive LocalControl (n : ℕ) where
  | idle
  | triggering (i : Fin n) (events : List TriggerFillEvent)
  | filling (i : Fin n) (fills : List OrderFillResult)

/-- The shared objects and the loop that is running. -/
structure LocalDesk (n : ℕ) where
  system : System n
  control : LocalControl n := .idle

namespace LocalDesk

variable {n : ℕ}

/-- What can happen next. -/
inductive Input (n : ℕ) where
  | execute (i : Fin n) (args : ExecuteArgs)
  | processTriggerOrders (i : Fin n) (bbo : BestQuote) (timestamp : ℕ)
  | executeTriggered (atr : Option Double)
  | processPendingOrders (i : Fin n) (candle : MarketCandle)
  | fillTriggered
  | placeStopLossTrigger (i : Fin n) (stopPrice quantity : Double) (strategyId : String)
  | placeOcoTrigger (i : Fin n) (stopPrice takeProfitPrice quantity : Double) (strategyId : String)
  | placePendingOrder (order : OrderRecord)
  | updatePnL (symbol : String) (currentPrice : Double)
  | setSystemConfig (config : Option SystemConfig)
  | risk (input : RiskEngine.Input)

/-- An `execute` call of an engine that no gateway is bound to, which returns at once. -/
def executed (system : System n) (i : Fin n) (args : ExecuteArgs) :
    System n × Except StdException Bool :=
  match system.beginExecute i args with
  | (system, .returned result) => (system, result)
  | (system, .submitting _) => (system, .ok false)

/-- The turn of `processTriggerOrders` for the next event. -/
def triggerTurn (system : System n) (i : Fin n) (event : TriggerFillEvent)
    (events : List TriggerFillEvent) (atr : Option Double) : LocalDesk n :=
  match executed system i (System.triggerArgs event atr 0) with
  | (system, .error _) => ⟨system, .idle⟩
  | (system, .ok true) => ⟨system.cancelTrigger i event.orderId, .triggering i events⟩
  | (system, .ok false) => ⟨system, .triggering i events⟩

/-- The turn of `processPendingOrders` for the next triggered order. -/
def fillTurn (system : System n) (i : Fin n) (fill : OrderFillResult)
    (fills : List OrderFillResult) : LocalDesk n :=
  match system.processFill i fill with
  | (system, .error _) => ⟨system, .idle⟩
  | (system, .ok _) => ⟨system, .filling i fills⟩

/-- A loop over protective orders takes its next turn, or ends. -/
def nextTrigger (d : LocalDesk n) (atr : Option Double) : LocalDesk n :=
  match d.control with
  | .triggering i (event :: events) => triggerTurn d.system i event events atr
  | _ => { d with control := .idle }

/-- A loop over resting orders takes its next turn, or ends. -/
def nextFill (d : LocalDesk n) : LocalDesk n :=
  match d.control with
  | .filling i (fill :: fills) => fillTurn d.system i fill fills
  | _ => { d with control := .idle }

/-- The state after an input. -/
def handle (d : LocalDesk n) : Input n → LocalDesk n
  | .execute i args => { d with system := (executed d.system i args).1 }
  | .processTriggerOrders i bbo timestamp =>
    { d with control := .triggering i (d.system.triggeredEvents i bbo timestamp) }
  | .executeTriggered atr => d.nextTrigger atr
  | .processPendingOrders i candle =>
    ⟨(d.system.triggered candle).1, .filling i (d.system.triggered candle).2⟩
  | .fillTriggered => d.nextFill
  | .placeStopLossTrigger i stopPrice quantity strategyId =>
    { d with system := (d.system.placeStopLossTrigger i stopPrice quantity strategyId).1 }
  | .placeOcoTrigger i stopPrice takeProfitPrice quantity strategyId =>
    { d with
      system := (d.system.placeOcoTrigger i stopPrice takeProfitPrice quantity strategyId).1 }
  | .placePendingOrder order => { d with system := (d.system.placePendingOrder order).1 }
  | .updatePnL symbol currentPrice =>
    { d with system := d.system.markPrice symbol currentPrice }
  | .setSystemConfig config =>
    { d with system := { d.system with risk := d.system.risk.setSystemConfig config } }
  | .risk input => { d with system := { d.system with risk := d.system.risk.apply input } }

/-- Engines without a gateway as a machine. -/
def trading : Machine (LocalDesk n) (Input n) Unit where
  step d input := (d.handle input, ())

/-- The turns of a loop without anything in between are the loop of `processPendingOrders`. -/
theorem run_fillTriggered (i : Fin n) (s : System n) (fills : List OrderFillResult)
    (filledCount : ℕ) :
    (trading.run ⟨s, .filling i fills⟩
      (List.replicate fills.length Input.fillTriggered)).system =
      (System.processFills i s fills filledCount).1 := by
  have hidle (s : System n) (k : ℕ) :
      (trading.run ⟨s, .idle⟩ (List.replicate k Input.fillTriggered)).system = s := by
    induction k with
    | zero => rfl
    | succ k ih => exact ih
  induction fills generalizing s filledCount with
  | nil => rfl
  | cons fill fills ih =>
    rw [List.length_cons, List.replicate_succ, Machine.run_cons, System.processFills_cons]
    change (trading.run (fillTurn s i fill fills) _).system = _
    unfold fillTurn
    rcases s.processFill i fill with ⟨t, e | filled⟩
    · exact hidle t fills.length
    · cases filled with
      | false => exact ih t filledCount
      | true => exact ih t (filledCount + 1)

end LocalDesk

end TradeBot
