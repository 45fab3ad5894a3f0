import TradeBot.PaperBroker
import TradeBot.System

/-!
# Engines over the paper adapter

The wired system together with the paper adapter that its gateway owns. A call that hands
something to the adapter takes the adapter's reports before it returns, and with them what
the engines book. A loop over protective orders takes one `execute` call at a time.
-/

namespace TradeBot

open Library

variable [FloatFormat]

/-- The wired system and the paper adapter of its gateway. -/
structure PaperSystem (n : ℕ) where
  system : System n
  adapter : DeterministicBrokerAdapter

namespace PaperSystem

variable {n : ℕ} (s : PaperSystem n)

/-- A system around a newly made gateway in PAPER mode. -/
def create (system : System n) (config : SystemConfig) : PaperSystem n where
  system := { system with gateway := (PaperBroker.create config).gateway }
  adapter := (PaperBroker.create config).adapter

/-- The gateway and its adapter. -/
def broker : PaperBroker := ⟨s.system.gateway, s.adapter⟩

/-- The gateway and its adapter have moved, and no report is for the engines. -/
def withBroker (broker : PaperBroker) : PaperSystem n where
  system := { s.system with gateway := broker.gateway }
  adapter := broker.adapter

/-- The adapter has moved and has delivered its reports, in order. -/
def report (adapter : DeterministicBrokerAdapter) (events : List BrokerEvent) :
    PaperSystem n where
  system := events.foldl System.deliver { s.system with
    gateway := { s.system.gateway with adapterConnected := adapter.connected } }
  adapter := adapter

/-- `bindBrokerGateway`: the adapter takes the engine's costs, and the engine observes
executions. -/
def bindBrokerGateway (i : Fin n) : PaperSystem n where
  system := s.system.bindBrokerGateway i
  adapter := (s.adapter.setSimulationCosts (s.system.engines i).feeRate.value.toDouble
    ((s.system.engines i).slippage.value.toDouble * .finite 10000)).1

/-- `execute` -/
def execute (i : Fin n) (args : ExecuteArgs) : PaperSystem n × Except StdException Bool :=
  match s.system.beginExecute i args with
  | (system, .returned result) => ({ s with system := system }, result)
  | (system, .submitting order) =>
    let (adapter, events) := s.adapter.submit order
    let reported := { s with system := system }.report adapter (events.getD [])
    let (system, result) := reported.system.finishDispatch i order events.isSome
    ({ reported with system := system }, result)

end PaperSystem

/-- The system over the paper adapter, and the protective orders that a running
`processTriggerOrders` call of an engine still has to execute. -/
structure PaperDesk (n : ℕ) where
  state : PaperSystem n
  running : Option (Fin n × List TriggerFillEvent) := none

namespace PaperDesk

variable {n : ℕ}

/-- What can happen next. Orders come from the engines only, so a `dispatchOrder` call is
none of the gateway's inputs here. -/
inductive Input (n : ℕ) where
  | bindBrokerGateway (i : Fin n)
  | execute (i : Fin n) (args : ExecuteArgs)
  | processTriggerOrders (i : Fin n) (bbo : BestQuote) (timestamp : ℕ)
  | executeTriggered (atr : Option Double) (routeLatencyMs : ℚ)
  | processPendingOrders (i : Fin n) (candle : MarketCandle)
  | placeStopLossTrigger (i : Fin n) (stopPrice quantity : Double) (strategyId : String)
  | placeOcoTrigger (i : Fin n) (stopPrice takeProfitPrice quantity : Double) (strategyId : String)
  | placePendingOrder (order : OrderRecord)
  | updatePnL (symbol : String) (currentPrice : Double)
  | setSystemConfig (config : Option SystemConfig)
  | risk (input : RiskEngine.Input)
  | broker (input : PaperBroker.Input)

/-- The `execute` call for the next event of a `processTriggerOrders` call. -/
def triggerTurn (s : PaperSystem n) (i : Fin n) (event : TriggerFillEvent)
    (events : List TriggerFillEvent) (atr : Option Double) (routeLatencyMs : ℚ) : PaperDesk n :=
  match s.execute i (System.triggerArgs event atr routeLatencyMs) with
  | (s, .error _) => ⟨s, none⟩
  | (s, .ok true) =>
    ⟨{ s with system := s.system.cancelTrigger i event.orderId }, some (i, events)⟩
  | (s, .ok false) => ⟨s, some (i, events)⟩

/-- A running call goes on with its next event, or returns. -/
def nextTrigger (d : PaperDesk n) (atr : Option Double) (routeLatencyMs : ℚ) : PaperDesk n :=
  match d.running with
  | some (i, event :: events) => triggerTurn d.state i event events atr routeLatencyMs
  | _ => { d with running := none }

/-- The state after a call that is made while no other is running. -/
def call (s : PaperSystem n) : Input n → PaperDesk n
  | .bindBrokerGateway i => ⟨s.bindBrokerGateway i, none⟩
  | .execute i args => ⟨(s.execute i args).1, none⟩
  | .processTriggerOrders i bbo timestamp =>
    ⟨s, some (i, s.system.triggeredEvents i bbo timestamp)⟩
  | .executeTriggered _ _ => ⟨s, none⟩
  | .processPendingOrders i candle =>
    ⟨{ s with system := (s.system.processPendingOrders i candle).1 }, none⟩
  | .placeStopLossTrigger i stopPrice quantity strategyId =>
    ⟨{ s with system := (s.system.placeStopLossTrigger i stopPrice quantity strategyId).1 }, none⟩
  | .placeOcoTrigger i stopPrice takeProfitPrice quantity strategyId =>
    ⟨{ s with
      system := (s.system.placeOcoTrigger i stopPrice takeProfitPrice quantity strategyId).1 },
      none⟩
  | .placePendingOrder order => ⟨{ s with system := (s.system.placePendingOrder order).1 }, none⟩
  | .updatePnL symbol currentPrice =>
    ⟨{ s with system := s.system.markPrice symbol currentPrice }, none⟩
  | .setSystemConfig config =>
    ⟨{ s with system := { s.system with risk := s.system.risk.setSystemConfig config } }, none⟩
  | .risk input =>
    ⟨{ s with system := { s.system with risk := s.system.risk.apply input } }, none⟩
  | .broker (.dispatchOrder _ _) => ⟨s, none⟩
  | .broker input => ⟨s.withBroker (PaperBroker.paper.next s.broker input), none⟩

/-- The state after an input. While `processTriggerOrders` is running, nothing but its own
turns can happen. -/
def handle (d : PaperDesk n) (input : Input n) : PaperDesk n :=
  match input, d.running with
  | .executeTriggered atr routeLatencyMs, _ => d.nextTrigger atr routeLatencyMs
  | input, none => call d.state input
  | _, some _ => d

/-- Engines over the paper adapter as a machine. -/
def desk : Machine (PaperDesk n) (Input n) Unit where
  step d input := (d.handle input, ())

end PaperDesk

end TradeBot
