import TradeBot.BrokerGateway
import TradeBot.DeterministicBrokerAdapter

/-!
# The gateway over the paper adapter

In PAPER mode a `BrokerGateway` makes its own `DeterministicBrokerAdapter`. The
adapter reports during `submit`, `cancel`, `connect` and `disconnect`, so a call of
the gateway sees its reports before it returns. What the observers do with a report
is outside: they do not call the gateway.
-/

namespace TradeBot

open Library

/-- The gateway takes one report of its adapter. -/
def BrokerGateway.handle (gateway : BrokerGateway) : BrokerEvent → BrokerGateway
  | .acknowledgement acknowledgement => (gateway.handleAcknowledgement acknowledgement).1
  | .execution execution => (gateway.handleExecution execution).1
  | .cancelResult result => gateway.handleCancel result
  | .health health => gateway.handleHealth health

/-- A gateway and the paper adapter that it owns. -/
structure PaperBroker where
  gateway : BrokerGateway
  adapter : DeterministicBrokerAdapter

namespace PaperBroker

variable [FloatFormat] (broker : PaperBroker)

/-- The constructor of `BrokerGateway` in PAPER mode. -/
def create (config : SystemConfig) : PaperBroker where
  gateway := { config := config, adapter := .deterministic }
  adapter := {}

/-- The adapter has moved and has delivered its reports, in order. -/
def report (adapter : DeterministicBrokerAdapter) (events : List BrokerEvent) : PaperBroker where
  gateway := events.foldl BrokerGateway.handle
    { broker.gateway with adapterConnected := adapter.connected }
  adapter := adapter

/-- `connect` -/
def connect : PaperBroker :=
  if !broker.gateway.adapterAuthorized || decide (broker.gateway.adapter = .absent) then
    { broker with gateway := broker.gateway.handleHealth {
        state := .disconnected
        failure := .validation
        reason := if broker.gateway.config.isLiveMode then
          "LIVE adapter is not separately approved" else "adapter unavailable in BACKTEST"
        eventKey := "gateway-fail-closed" } }
  else
    let (adapter, events) := broker.adapter.connect
    broker.report adapter events

/-- `disconnect` -/
def disconnect : PaperBroker :=
  let (adapter, events) := broker.adapter.disconnect
  broker.report adapter events

/-- `dispatchOrder` -/
def dispatchOrder (order : NormalizedOrder) (finalRiskDecision : RiskDecision) :
    PaperBroker × GatewayDispatchResult :=
  match broker.gateway.beginDispatch order finalRiskDecision with
  | (gateway, some result) => ({ broker with gateway := gateway }, result)
  | (gateway, none) =>
    let (adapter, events) := broker.adapter.submit order
    let reported := { broker with gateway := gateway }.report adapter (events.getD [])
    let (gateway, result) := reported.gateway.finishDispatch order events.isSome
    ({ reported with gateway := gateway }, result)

/-- `requestCancel` -/
def requestCancel (request : CancelRequest) : PaperBroker × Bool :=
  match broker.gateway.beginCancel request with
  | (gateway, false) => ({ broker with gateway := gateway }, false)
  | (gateway, true) =>
    let (adapter, events) := broker.adapter.cancel request
    let reported := { broker with gateway := gateway }.report adapter (events.getD [])
    let (gateway, result) := reported.gateway.finishCancel request events.isSome
    ({ reported with gateway := gateway }, result)

/-- The calls of a PAPER gateway, with the settings of its paper adapter. -/
inductive Input where
  | connect
  | disconnect
  | dispatchOrder (order : NormalizedOrder) (finalRiskDecision : RiskDecision)
  | requestCancel (request : CancelRequest)
  | setSymbolAlias (canonicalSymbol executionAlias : String)
  | setInstrumentSpec (spec : InstrumentSpec)
  | setFaultInjectorConfig (config : FaultConfig)
  | injectNextOrderError (errorMessage : String)
  | injectNextPartialFill (fillRatio : Double)
  | setPaperSimulationCosts (feeRate slippageBps : Double)

/-- What a call returns. -/
inductive Reply where
  | silent
  | dispatched (result : GatewayDispatchResult)
  | cancelRequested (accepted : Bool)
  deriving DecidableEq

/-- A PAPER gateway under its calls. -/
def paper : Machine PaperBroker Input Reply where
  step broker
    | .connect => (broker.connect, .silent)
    | .disconnect => (broker.disconnect, .silent)
    | .dispatchOrder order finalRiskDecision =>
      (broker.dispatchOrder order finalRiskDecision).map id .dispatched
    | .requestCancel request => (broker.requestCancel request).map id .cancelRequested
    | .setSymbolAlias canonicalSymbol executionAlias =>
      ({ broker with gateway := broker.gateway.setSymbolAlias canonicalSymbol executionAlias },
        .silent)
    | .setInstrumentSpec spec =>
      ({ broker with gateway := broker.gateway.setInstrumentSpec spec }, .silent)
    | .setFaultInjectorConfig config =>
      ({ broker with adapter := broker.adapter.setFaultConfig config }, .silent)
    | .injectNextOrderError errorMessage =>
      ({ broker with adapter := broker.adapter.injectNextError errorMessage }, .silent)
    | .injectNextPartialFill fillRatio =>
      ({ broker with adapter := broker.adapter.injectNextPartialFill fillRatio }, .silent)
    | .setPaperSimulationCosts feeRate slippageBps =>
      ({ broker with adapter := (broker.adapter.setSimulationCosts feeRate slippageBps).1 },
        .silent)

end PaperBroker

end TradeBot
