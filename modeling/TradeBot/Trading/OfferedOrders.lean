import TradeBot.Trading.EngineNumbers
import TradeBot.Trading.ExecutionReports

/-!
# Orders that engines offer to the gateway

An `execute` call offers an order when the gateway is connected and can normalize it and the
final risk decision permits it. What the gateway may still refuse is the number of the order.
-/

namespace TradeBot

open Library

namespace System

variable {n : ℕ} {s : System n} {i : Fin n} {args : ExecuteArgs} {order : NormalizedOrder}

/-- The order that a dispatch offers to the gateway. -/
def permittedOrder (s : System n) (i : Fin n) (isBuy : Bool) (units : Financial.Quantity)
    (requestedPrice : Financial.Price) (timestamp : ℕ) (strategyId : String) :
    Option NormalizedOrder :=
  if s.gateway.isConnected && (ExecutionEngine.finalRisk s.portfolio s.risk isBuy).allowed then
    (s.gateway.normalizeOrder ((s.engines i).brokerRequest isBuy units requestedPrice timestamp
      strategyId)).toOption
  else none

/-- The order that an `execute` call of a bound engine offers to the gateway. -/
def offeredOrder (s : System n) (i : Fin n) (args : ExecuteArgs) : Option NormalizedOrder :=
  match (s.engines i).decideExecute s.portfolio s.risk s.gateway.isConnected args.signal
    args.marketPrice args.atr with
  | .enter marketPrice plan =>
    s.permittedOrder i true plan.units marketPrice args.timestamp args.strategyId
  | .exit marketPrice plan =>
    s.permittedOrder i false plan.quantity marketPrice args.timestamp args.strategyId
  | _ => none

/-- An order is permitted when the gateway is connected, the risk check allows it and it can be
normalised. -/
theorem permittedOrder_eq_some {isBuy : Bool} {units : Financial.Quantity}
    {requestedPrice : Financial.Price} {timestamp : ℕ} {strategyId : String} :
    s.permittedOrder i isBuy units requestedPrice timestamp strategyId = some order ↔
      s.gateway.isConnected = true ∧
        (ExecutionEngine.finalRisk s.portfolio s.risk isBuy).allowed = true ∧
        s.gateway.normalizeOrder ((s.engines i).brokerRequest isBuy units requestedPrice timestamp
          strategyId) = .ok order := by
  unfold permittedOrder
  cases hconnected : s.gateway.isConnected && (ExecutionEngine.finalRisk s.portfolio s.risk
      isBuy).allowed with
  | false =>
    rw [if_neg Bool.false_ne_true]
    constructor
    · intro h
      cases h
    · rintro ⟨hgateway, hallowed, -⟩
      rw [hgateway, hallowed] at hconnected
      cases hconnected
  | true =>
    rw [Bool.and_eq_true] at hconnected
    rw [if_pos rfl]
    cases s.gateway.normalizeOrder ((s.engines i).brokerRequest isBuy units requestedPrice timestamp
        strategyId) with
    | error reason => exact ⟨fun h => (nomatch h), fun h => (nomatch h.2.2)⟩
    | ok normalized =>
      constructor
      · intro h
        cases h
        exact ⟨hconnected.1, hconnected.2, rfl⟩
      · rintro ⟨-, -, h⟩
        cases h
        rfl

/-- An offered order is handed over when the gateway takes it. -/
theorem offeredOrder_eq_some (h : s.offeredOrder i args = some order) :
    ∃ isBuy units requestedPrice,
      s.gateway.normalizeOrder ((s.engines i).brokerRequest isBuy units requestedPrice
        args.timestamp args.strategyId) = .ok order ∧ s.gateway.isConnected = true ∧
      (ExecutionEngine.finalRisk s.portfolio s.risk isBuy).allowed = true ∧
      (s.handedOrder i args = some order ↔
        s.gateway.takes order (ExecutionEngine.finalRisk s.portfolio s.risk isBuy) = true) := by
  have hpermitted {isBuy : Bool} {units : Financial.Quantity} {requestedPrice : Financial.Price}
      (h : s.permittedOrder i isBuy units requestedPrice args.timestamp args.strategyId =
        some order) (hhanded : s.handedOrder i args =
          s.takenOrder i isBuy units requestedPrice args.timestamp args.strategyId) :
      ∃ isBuy units requestedPrice,
        s.gateway.normalizeOrder ((s.engines i).brokerRequest isBuy units requestedPrice
          args.timestamp args.strategyId) = .ok order ∧ s.gateway.isConnected = true ∧
        (ExecutionEngine.finalRisk s.portfolio s.risk isBuy).allowed = true ∧
        (s.handedOrder i args = some order ↔
          s.gateway.takes order (ExecutionEngine.finalRisk s.portfolio s.risk isBuy) = true) := by
    obtain ⟨hconnected, hallowed, horder⟩ := permittedOrder_eq_some.mp h
    refine ⟨isBuy, units, requestedPrice, horder, hconnected, hallowed, ?_⟩
    rw [hhanded, takenOrder, horder]
    dsimp only
    split
    · next htakes => exact ⟨fun _ => htakes, fun _ => rfl⟩
    · next htakes => exact ⟨fun h => (by cases h), fun h => absurd h htakes⟩
  unfold offeredOrder at h
  split at h
  · next marketPrice plan hdecision =>
    refine hpermitted h ?_
    rw [handedOrder, hdecision]
  · next marketPrice plan hdecision =>
    refine hpermitted h ?_
    rw [handedOrder, hdecision]
  · cases h

/-- The call hands over the order that `handedOrder` says. -/
theorem submitted_beginExecute (hbound : (s.engines i).bound = true) (args : ExecuteArgs) :
    (s.beginExecute i args).2.submitted = s.handedOrder i args := by
  rw [(beginExecute_handed hbound args).progress]
  cases s.handedOrder i args <;> rfl

/-- **An offered order is handed over exactly when its number is free.** -/
theorem submitted_iff (hbound : (s.engines i).bound = true)
    (hmarks : s.gateway.lifecycle.MarksRecorded)
    (hkeys : s.gateway.lifecycle.Records executionKey) (h : s.offeredOrder i args = some order) :
    (s.beginExecute i args).2.submitted = some order ↔
      s.gateway.lifecycle.find order.request.localOrderId = none := by
  obtain ⟨isBuy, units, requestedPrice, horder, hconnected, hallowed, hhanded⟩ :=
    offeredOrder_eq_some h
  rw [submitted_beginExecute hbound, hhanded, (BrokerGateway.normalizeOrder_spec horder).1]
  exact BrokerGateway.takes_iff horder rfl (show (1 : ℕ) < 2 ^ 64 by decide) hmarks hkeys hallowed
    hconnected

/-- An offered order has the next id of its engine. -/
theorem offeredOrder_request (h : s.offeredOrder i args = some order) :
    order.request.localOrderId = (s.engines i).nextLocalOrderId := by
  obtain ⟨isBuy, units, requestedPrice, horder, -⟩ := offeredOrder_eq_some h
  rw [(BrokerGateway.normalizeOrder_spec horder).1]
  rfl

/-- A dispatch whose permitted order is taken leaves the breaker alone. -/
theorem breaker_beginDispatch {isBuy : Bool} {units : Financial.Quantity}
    {requestedPrice : Financial.Price} {timestamp : ℕ} {strategyId : String}
    (h : ∀ order, s.permittedOrder i isBuy units requestedPrice timestamp strategyId = some order →
      s.gateway.takes order (ExecutionEngine.finalRisk s.portfolio s.risk isBuy) = true)
    (routeLatencyMs : ℚ) :
    (s.beginDispatch i isBuy units requestedPrice timestamp strategyId
      routeLatencyMs).1.risk.breaker = s.risk.breaker := by
  unfold beginDispatch
  cases hconnected : s.gateway.isConnected with
  | false => rfl
  | true =>
    rw [if_neg (by decide)]
    dsimp only
    generalize hcounted : s.setEngine i { s.engines i with
      nextLocalOrderId := (s.engines i).nextLocalOrderId + 1 } = counted
    have hgateway : counted.gateway = s.gateway := by
      rw [← hcounted]
      rfl
    have hrisk : counted.risk = s.risk := by
      rw [← hcounted]
      rfl
    rw [hgateway]
    cases horder : s.gateway.normalizeOrder ((s.engines i).brokerRequest isBuy units
        requestedPrice timestamp strategyId) with
    | error reason =>
      dsimp only
      exact congrArg RiskEngine.breaker hrisk
    | ok order =>
      dsimp only
      have hportfolio : counted.portfolio = s.portfolio := by
        rw [← hcounted]
        rfl
      rw [hportfolio, hrisk]
      generalize hu : System.recordLatency _ i routeLatencyMs = u
      have hu_gateway : u.gateway = s.gateway := by
        rw [← hu, ← hgateway]
        change (if _ then _ else _ : System n).gateway = counted.gateway
        split <;> rfl
      have hu_breaker : u.risk.breaker = s.risk.breaker := by
        rw [← hu, breaker_recordLatency, ← hrisk]
        split <;> rfl
      rw [risk_handToGateway, hu_breaker]
      intro hallowed
      rw [hu_gateway]
      exact h order (permittedOrder_eq_some.mpr ⟨hconnected, hallowed, horder⟩)

/-- Permission depends on portfolio, risk engine, gateway and configuration alone. -/
theorem permittedOrder_congr {s t : System n} {i : Fin n} (hportfolio : t.portfolio = s.portfolio)
    (hrisk : t.risk = s.risk) (hgateway : t.gateway = s.gateway)
    (hengine : (s.engines i).Counted (t.engines i)) (isBuy : Bool) (units : Financial.Quantity)
    (requestedPrice : Financial.Price) (timestamp : ℕ) (strategyId : String) :
    t.permittedOrder i isBuy units requestedPrice timestamp strategyId =
      s.permittedOrder i isBuy units requestedPrice timestamp strategyId := by
  obtain ⟨_, _, _, heq⟩ := hengine
  simp only [permittedOrder, hportfolio, hrisk, hgateway, heq, ExecutionEngine.brokerRequest]

/-- **A call whose offered order is handed over** leaves the breaker alone. -/
theorem breaker_beginExecute (hbound : (s.engines i).bound = true)
    (h : ∀ order, s.offeredOrder i args = some order → s.handedOrder i args = some order) :
    (s.beginExecute i args).1.risk.breaker = s.risk.breaker := by
  unfold beginExecute
  dsimp only
  unfold offeredOrder handedOrder at h
  generalize hcounted : (if args.signal = .none then s else s.setEngine i { s.engines i with
    signalCount := (s.engines i).signalCount + 1 }) = counted
  have hsame : s.Local counted ∧ counted.portfolio = s.portfolio := by
    rw [← hcounted]
    split
    · exact ⟨.refl s, rfl⟩
    · exact ⟨s.local_setEngine i ⟨_, _, _, rfl⟩, rfl⟩
  obtain ⟨hlocal, hportfolio⟩ := hsame
  have hdispatch {isBuy : Bool} {units : Financial.Quantity} {requestedPrice : Financial.Price}
      (h : ∀ order, s.permittedOrder i isBuy units requestedPrice args.timestamp args.strategyId =
        some order → s.takenOrder i isBuy units requestedPrice args.timestamp args.strategyId =
          some order) :
      (counted.beginDispatch i isBuy units requestedPrice args.timestamp args.strategyId
        args.routeLatencyMs).1.risk.breaker = s.risk.breaker := by
    rw [breaker_beginDispatch, hlocal.risk]
    intro order horder
    rw [permittedOrder_congr hportfolio hlocal.risk hlocal.gateway (hlocal.engines i)] at horder
    rw [hportfolio, hlocal.risk, hlocal.gateway]
    exact (takenOrder_request (h order horder)).2
  cases hdecision : (s.engines i).decideExecute s.portfolio s.risk s.gateway.isConnected
      args.signal args.marketPrice args.atr with
  | ignore => exact congrArg RiskEngine.breaker hlocal.risk
  | block => exact congrArg RiskEngine.breaker hlocal.risk
  | enter marketPrice plan =>
    rw [hdecision] at h
    dsimp only
    rw [if_pos hbound]
    exact hdispatch h
  | exit marketPrice plan =>
    rw [hdecision] at h
    dsimp only
    rw [if_pos hbound]
    exact hdispatch h

end System

end TradeBot
