import TradeBot.System
import TradeBot.Library.Machine

/-!
# Sessions: calls and broker events in any order

A session is the wired system together with the call that is running. A call that
hands something to the adapter waits for it to return; broker events arrive while it
waits and at every other moment, so an adapter may answer at once, later, in parts,
or not at all. The adapter itself is not modelled here: its reports are inputs.
-/

namespace TradeBot

open Library

/-- The triggered events that a `processTriggerOrders` call still has to execute, and
the number that it has executed. -/
structure TriggerLoop where
  events : List TriggerFillEvent
  executed : ℕ := 0

/-- The call that is running. -/
inductive Control (n : ℕ) where
  | idle
  /-- An engine's order is in the adapter's `submit`. In a trigger loop, it is the
  order of the event given with the rest of the loop. -/
  | submitting (i : Fin n) (order : NormalizedOrder)
      (loop : Option (TriggerFillEvent × TriggerLoop))
  /-- `processTriggerOrders` is between two of its `execute` calls. -/
  | triggering (i : Fin n) (loop : TriggerLoop)
  /-- A request is in the adapter's `cancel`. -/
  | canceling (request : CancelRequest)

/-- The wired system and the call that is running in it. -/
structure Session (n : ℕ) where
  system : System n
  control : Control n := .idle

namespace Session

variable {n : ℕ}

/-- What can happen next: a call begins or goes on, or the world changes. -/
inductive Input (n : ℕ) where
  | execute (i : Fin n) (args : ExecuteArgs)
  | submitReturned (accepted : Bool)
  | deliver (event : BrokerEvent)
  | requestCancel (request : CancelRequest)
  | cancelReturned (accepted : Bool)
  | processTriggerOrders (i : Fin n) (bbo : BestQuote) (timestamp : ℕ)
  | executeTriggered (atr : Option Double) (routeLatencyMs : ℚ)
  | placeStopLossTrigger (i : Fin n) (stopPrice quantity : Double) (strategyId : String)
  | placeOcoTrigger (i : Fin n) (stopPrice takeProfitPrice quantity : Double) (strategyId : String)
  | placePendingOrder (order : OrderRecord)
  | processPendingOrders (i : Fin n) (candle : MarketCandle)
  | markPrice (symbol : String) (currentPrice : Double)
  | risk (input : RiskEngine.Input)
  | adapterConnection (connected : Bool)
  | setSymbolAlias (canonicalSymbol executionAlias : String)
  | setInstrumentSpec (spec : InstrumentSpec)

/-- What a call returns. -/
inductive Reply where
  /-- Nothing, or nothing yet. -/
  | silent
  | executed (result : Except StdException Bool)
  | processed (result : Except StdException ℕ)
  | placed (orderId : ℕ)
  | cancelRequested (accepted : Bool)
  /-- The input cannot happen while the running call waits. -/
  | impossible

/-- A trigger loop goes on to its next event, or returns. -/
def continueLoop (i : Fin n) (loop : TriggerLoop) : Control n × Reply :=
  match loop.events with
  | [] => (.idle, .processed (.ok loop.executed))
  | _ :: _ => (.triggering i loop, .silent)

/-- An `execute` call of a trigger loop has returned true: its trigger order is
canceled and counted. -/
def countTriggered (system : System n) (i : Fin n) (event : TriggerFillEvent)
    (loop : TriggerLoop) : Session n × Reply :=
  let (control, reply) := continueLoop i { loop with executed := loop.executed + 1 }
  (⟨system.cancelTrigger i event.orderId, control⟩, reply)

/-- An `execute` call made directly. -/
def stepExecute (system : System n) (i : Fin n) (args : ExecuteArgs) : Session n × Reply :=
  match system.beginExecute i args with
  | (system, .returned result) => (⟨system, .idle⟩, .executed result)
  | (system, .submitting order) => (⟨system, .submitting i order none⟩, .silent)

/-- The `execute` call for the next event of a trigger loop. -/
def stepTriggered (system : System n) (i : Fin n) (event : TriggerFillEvent)
    (loop : TriggerLoop) (atr : Option Double) (routeLatencyMs : ℚ) : Session n × Reply :=
  match system.beginExecute i (System.triggerArgs event atr routeLatencyMs) with
  | (system, .submitting order) => (⟨system, .submitting i order (some (event, loop))⟩, .silent)
  | (system, .returned (.error e)) => (⟨system, .idle⟩, .processed (.error e))
  | (system, .returned (.ok true)) => countTriggered system i event loop
  | (system, .returned (.ok false)) =>
    let (control, reply) := continueLoop i loop
    (⟨system, control⟩, reply)

/-- The adapter's `submit` returns, and with it the `execute` call. -/
def stepSubmitReturned (system : System n) (i : Fin n) (order : NormalizedOrder)
    (loop : Option (TriggerFillEvent × TriggerLoop)) (accepted : Bool) : Session n × Reply :=
  let (system, result) := system.finishDispatch i order accepted
  match loop, result with
  | none, result => (⟨system, .idle⟩, .executed result)
  | some _, .error e => (⟨system, .idle⟩, .processed (.error e))
  | some (event, loop), .ok true => countTriggered system i event loop
  | some (_, loop), .ok false =>
    let (control, reply) := continueLoop i loop
    (⟨system, control⟩, reply)

/-- A cancel request is made. -/
def stepRequestCancel (system : System n) (request : CancelRequest) : Session n × Reply :=
  match system.gateway.beginCancel request with
  | (gateway, true) => (⟨{ system with gateway := gateway }, .canceling request⟩, .silent)
  | (gateway, false) =>
    (⟨{ system with gateway := gateway }, .idle⟩, .cancelRequested false)

/-- The adapter's `cancel` returns. -/
def stepCancelReturned (system : System n) (request : CancelRequest) (accepted : Bool) :
    Session n × Reply :=
  let (gateway, result) := system.gateway.finishCancel request accepted
  (⟨{ system with gateway := gateway }, .idle⟩, .cancelRequested result)

/-- A call that is made while no other is running, and returns at once. -/
def stepIdle (system : System n) : Input n → Option (System n × Reply)
  | .placeStopLossTrigger i stopPrice quantity strategyId =>
    some ((system.placeStopLossTrigger i stopPrice quantity strategyId).map id .placed)
  | .placeOcoTrigger i stopPrice takeProfitPrice quantity strategyId =>
    some ((system.placeOcoTrigger i stopPrice takeProfitPrice quantity strategyId).map id .placed)
  | .placePendingOrder order => some ((system.placePendingOrder order).map id .placed)
  | .processPendingOrders i candle =>
    some ((system.processPendingOrders i candle).map id .processed)
  | .markPrice symbol currentPrice => some (system.markPrice symbol currentPrice, .silent)
  | .setSymbolAlias canonicalSymbol executionAlias =>
    some ({ system with gateway := system.gateway.setSymbolAlias canonicalSymbol executionAlias },
      .silent)
  | .setInstrumentSpec spec =>
    some ({ system with gateway := system.gateway.setInstrumentSpec spec }, .silent)
  | _ => none

/-- Sessions under their inputs. -/
def session : Machine (Session n) (Input n) Reply where
  step s input := match input, s.control with
    | .deliver event, control => (⟨s.system.deliver event, control⟩, .silent)
    | .risk input, control =>
      (⟨{ s.system with risk := s.system.risk.apply input }, control⟩, .silent)
    | .adapterConnection connected, control =>
      (⟨{ s.system with gateway := { s.system.gateway with adapterConnected := connected } },
        control⟩, .silent)
    | .execute i args, .idle => stepExecute s.system i args
    | .submitReturned accepted, .submitting i order loop =>
      stepSubmitReturned s.system i order loop accepted
    | .requestCancel request, .idle => stepRequestCancel s.system request
    | .cancelReturned accepted, .canceling request =>
      stepCancelReturned s.system request accepted
    | .processTriggerOrders i bbo timestamp, .idle =>
      let (control, reply) := continueLoop i ⟨s.system.triggeredEvents i bbo timestamp, 0⟩
      (⟨s.system, control⟩, reply)
    | .executeTriggered atr routeLatencyMs, .triggering i ⟨event :: events, executed⟩ =>
      stepTriggered s.system i event ⟨events, executed⟩ atr routeLatencyMs
    | input, .idle =>
      match stepIdle s.system input with
      | some (system, reply) => (⟨system, .idle⟩, reply)
      | none => (s, .impossible)
    | _, _ => (s, .impossible)

end Session

end TradeBot
