import TradeBot.PaperSystem
import TradeBot.Trading.Bookings
import TradeBot.Trading.Dispatch
import TradeBot.Trading.LocalFills
import TradeBot.Trading.PaperDispatch

/-!
# An `execute` call over the paper adapter

A bound engine returns at once without an order, or it hands one order to the paper
adapter; `handedOrder` says beforehand which. Neither the call nor the reports of the
adapter touch any protective order.
-/

namespace TradeBot

open Library

namespace BrokerGateway

variable {gateway : BrokerGateway} {order : NormalizedOrder} {finalRiskDecision : RiskDecision}

/-- A dispatch gets past every check of the gateway and of its store. -/
def takes (gateway : BrokerGateway) (order : NormalizedOrder) (finalRiskDecision : RiskDecision) :
    Bool :=
  finalRiskDecision.allowed && gateway.isConnected &&
    (gateway.lifecycle.create (lifecycleRequest order)).2 &&
    (markDispatched (gateway.lifecycle.create (lifecycleRequest order)).1 order.request).2

/-- A dispatch that gets past the checks hands its recorded order to the adapter. -/
theorem beginDispatch_of_takes (h : gateway.takes order finalRiskDecision = true) :
    gateway.beginDispatch order finalRiskDecision = ({ gateway with
      lifecycle := recordOrder gateway.lifecycle order
      totalOrdersSubmitted := gateway.totalOrdersSubmitted + 1 }, none) := by
  simp only [takes, Bool.and_eq_true] at h
  obtain ⟨⟨⟨hallowed, hconnected⟩, hcreate⟩, hmarks⟩ := h
  unfold beginDispatch recordOrder
  generalize gateway.lifecycle.create (lifecycleRequest order) = created at hcreate hmarks ⊢
  obtain ⟨created, success⟩ := created
  obtain rfl : success = true := hcreate
  dsimp only at hmarks ⊢
  generalize markDispatched created order.request = marked at hmarks ⊢
  obtain ⟨marked, success⟩ := marked
  obtain rfl : success = true := hmarks
  simp only [hallowed, hconnected, Bool.not_true, Bool.false_eq_true, if_false]

/-- Any other dispatch is refused. -/
theorem beginDispatch_of_not_takes (h : gateway.takes order finalRiskDecision = false) :
    ∃ next result, gateway.beginDispatch order finalRiskDecision = (next, some result) ∧
      next.adapterConnected = gateway.adapterConnected := by
  unfold beginDispatch
  split
  · exact ⟨_, _, rfl, rfl⟩
  · next hallowed =>
    split
    · exact ⟨_, _, rfl, rfl⟩
    · next hconnected =>
      rw [Bool.not_eq_true, Bool.not_eq_false'] at hallowed hconnected
      unfold takes at h
      generalize gateway.lifecycle.create (lifecycleRequest order) = created at h ⊢
      obtain ⟨created, success⟩ := created
      cases success with
      | false => exact ⟨_, _, rfl, rfl⟩
      | true =>
        dsimp only at h ⊢
        generalize markDispatched created order.request = marked at h ⊢
        obtain ⟨marked, success⟩ := marked
        cases success with
        | false => exact ⟨_, _, rfl, rfl⟩
        | true =>
          rw [hallowed, hconnected] at h
          cases h

end BrokerGateway

namespace System

variable {n : ℕ} {s t u : System n}

/-- No engine's protective orders have changed. -/
def KeepsTriggers (s t : System n) : Prop :=
  ∀ j, (t.engines j).triggerOrders = (s.engines j).triggerOrders

/-- Doing nothing keeps the protective orders. -/
theorem KeepsTriggers.refl (s : System n) : s.KeepsTriggers s := fun _ => rfl

/-- Two steps that keep them keep them together. -/
theorem KeepsTriggers.trans (h : s.KeepsTriggers t) (h' : t.KeepsTriggers u) :
    s.KeepsTriggers u := fun j => (h' j).trans (h j)

/-- An engine may be replaced by one with the same protective orders. -/
theorem keepsTriggers_setEngine (s : System n) (i : Fin n) {engine : ExecutionEngine}
    (h : engine.triggerOrders = (s.engines i).triggerOrders) :
    s.KeepsTriggers (s.setEngine i engine) := by
  intro j
  by_cases hj : j = i
  · subst hj
    change (Function.update s.engines j engine j).triggerOrders = _
    rw [Function.update_self, h]
  · change (Function.update s.engines i engine j).triggerOrders = _
    rw [Function.update_of_ne hj]

/-- Counting a blocked signal is such a replacement. -/
theorem keepsTriggers_block (s : System n) (i : Fin n) : s.KeepsTriggers (s.block i) :=
  keepsTriggers_setEngine s i rfl

/-- Steps that leave the engines alone keep their protective orders. -/
theorem SameDesk.keepsTriggers (h : s.SameDesk t) : s.KeepsTriggers t := fun j => by
  rw [h.engines_eq]

/-- So do the steps an engine makes for itself. -/
theorem Local.keepsTriggers (h : s.Local t) : s.KeepsTriggers t := fun j => by
  obtain ⟨_, _, _, heq⟩ := h.engines j
  rw [heq]

/-- Handling an execution touches no protective order. -/
theorem keepsTriggers_onBrokerExecution (s : System n) (i : Fin n) (execution : ExecutionEvent) :
    s.KeepsTriggers (s.onBrokerExecution i execution) := by
  rcases s.onBrokerExecution_cases i execution with
    ⟨-, h⟩ | ⟨h, -⟩ | ⟨-, booking, portfolio, -, -, -, h⟩
  · rw [h]
    exact .refl s
  · rw [h]
    exact .refl s
  · rw [h]
    unfold settleBooking
    simp only
    generalize hrecorded : System.recordSlippage _ i _ _ _ _ _ = recorded
    have hdesk : { s with portfolio := portfolio }.SameDesk recorded :=
      hrecorded ▸ (sameDesk_recordTrade _ i _).trans (sameDesk_recordSlippage _ i _ _ _ _ _)
    refine hdesk.keepsTriggers.trans (keepsTriggers_setEngine recorded i ?_)
    rw [hdesk.engines_eq]
    rfl

/-- Telling all observers of an execution touches no protective order either. -/
theorem keepsTriggers_notifyExecution (s : System n) (execution : ExecutionEvent) :
    s.KeepsTriggers (s.notifyExecution execution) := by
  unfold notifyExecution
  induction s.executionObservers generalizing s with
  | nil => exact .refl s
  | cons i observers ih => exact (s.keepsTriggers_onBrokerExecution i execution).trans (ih _)

/-- A report reaches the gateway, and the engines touch neither the gateway nor any
protective order. -/
theorem deliver_frame (s : System n) (event : BrokerEvent) :
    (s.deliver event).gateway = s.gateway.handle event ∧ s.KeepsTriggers (s.deliver event) := by
  cases event with
  | acknowledgement acknowledgement =>
    unfold deliver
    dsimp only
    split <;> exact ⟨rfl, .refl s⟩
  | execution execution =>
    unfold deliver
    dsimp only
    split
    · refine ⟨(notifyExecution_wiring _ execution).1, ?_⟩
      exact keepsTriggers_notifyExecution { s with gateway := _ } execution
    · exact ⟨rfl, .refl s⟩
  | cancelResult result => exact ⟨rfl, .refl s⟩
  | health health => exact ⟨rfl, .refl s⟩

/-- Delivered reports reach the gateway in order and no protective order at all. -/
theorem foldl_deliver_frame (s : System n) (events : List BrokerEvent) :
    (events.foldl deliver s).gateway = events.foldl BrokerGateway.handle s.gateway ∧
      s.KeepsTriggers (events.foldl deliver s) := by
  induction events generalizing s with
  | nil => exact ⟨rfl, .refl s⟩
  | cons event events ih =>
    obtain ⟨hgateway, htriggers⟩ := s.deliver_frame event
    obtain ⟨hgateways, hall⟩ := ih (s.deliver event)
    refine ⟨hgateways.trans ?_, htriggers.trans hall⟩
    rw [hgateway, List.foldl_cons]

/-- The order that a dispatch hands to the adapter: none when the gateway is not connected,
cannot normalize the order, or does not take it under the final risk decision. -/
def takenOrder (s : System n) (i : Fin n) (isBuy : Bool) (units : Financial.Quantity)
    (requestedPrice : Financial.Price) (timestamp : ℕ) (strategyId : String) :
    Option NormalizedOrder :=
  match s.gateway.normalizeOrder
    ((s.engines i).brokerRequest isBuy units requestedPrice timestamp strategyId) with
  | .error _ => none
  | .ok order =>
    if s.gateway.takes order (ExecutionEngine.finalRisk s.portfolio s.risk isBuy) then some order
    else none

/-- The order that an `execute` call of a bound engine hands to the adapter. -/
def handedOrder (s : System n) (i : Fin n) (args : ExecuteArgs) : Option NormalizedOrder :=
  match (s.engines i).decideExecute s.portfolio s.risk s.gateway.isConnected args.signal
    args.marketPrice args.atr with
  | .enter marketPrice plan =>
    s.takenOrder i true plan.units marketPrice args.timestamp args.strategyId
  | .exit marketPrice plan =>
    s.takenOrder i false plan.quantity marketPrice args.timestamp args.strategyId
  | _ => none

/-- What the engine's next order needs of its request. -/
theorem takenOrder_request {s : System n} {i : Fin n} {isBuy : Bool} {units : Financial.Quantity}
    {requestedPrice : Financial.Price} {timestamp : ℕ} {strategyId : String}
    {order : NormalizedOrder}
    (h : s.takenOrder i isBuy units requestedPrice timestamp strategyId = some order) :
    order.request = (s.engines i).brokerRequest isBuy units requestedPrice timestamp strategyId ∧
      s.gateway.takes order (ExecutionEngine.finalRisk s.portfolio s.risk isBuy) = true := by
  unfold takenOrder at h
  split at h
  · cases h
  · next placed hplaced =>
    split at h
    · next htakes =>
      cases h
      exact ⟨(BrokerGateway.normalizeOrder_spec hplaced).1, htakes⟩
    · cases h

/-- An order that is handed over is a new one of the engine, taken by the gateway. -/
theorem handedOrder_request {s : System n} {i : Fin n} {args : ExecuteArgs}
    {order : NormalizedOrder} (h : s.handedOrder i args = some order) :
    order.request.localOrderId = (s.engines i).nextLocalOrderId ∧ order.request.sequence = 1 ∧
      order.request.idempotencyKey = "execution-" ++ toString (s.engines i).nextLocalOrderId ∧
      ∃ decision, s.gateway.takes order decision = true := by
  unfold handedOrder at h
  split at h
  · obtain ⟨hrequest, htakes⟩ := takenOrder_request h
    rw [hrequest]
    exact ⟨rfl, rfl, rfl, _, htakes⟩
  · obtain ⟨hrequest, htakes⟩ := takenOrder_request h
    rw [hrequest]
    exact ⟨rfl, rfl, rfl, _, htakes⟩
  · cases h

/-- What a call of a bound engine that wants to trade has done when it waits for the adapter or
returns: an order that is handed over is recorded, and nothing else is. -/
structure Handed (s : System n) (order : Option NormalizedOrder)
    (t : System n × Progress Bool) : Prop where
  connected_eq : t.1.gateway.adapterConnected = s.gateway.adapterConnected
  triggers : s.KeepsTriggers t.1
  progress : t.2 = match order with
    | none => .returned (.ok false)
    | some order => .submitting order
  recorded : ∀ placed, order = some placed →
    t.1.gateway.lifecycle = BrokerGateway.recordOrder s.gateway.lifecycle placed

/-- A call that hands nothing over returns `false` and leaves gateway and protective orders. -/
theorem handed_none {s : System n} {t : System n} (hgateway : t.gateway = s.gateway)
    (htriggers : s.KeepsTriggers t) : s.Handed none (t, .returned (.ok false)) :=
  ⟨by rw [hgateway], htriggers, rfl, fun _ h => by cases h⟩

/-- The call of `dispatchOrder`. -/
theorem handToGateway_handed (s : System n) (i : Fin n) (order : NormalizedOrder)
    (finalRisk : RiskDecision) :
    s.Handed (if s.gateway.takes order finalRisk then some order else none)
      (s.handToGateway i order finalRisk) := by
  unfold handToGateway
  cases htakes : s.gateway.takes order finalRisk with
  | true =>
    rw [BrokerGateway.beginDispatch_of_takes htakes]
    refine ⟨rfl, .refl s, rfl, fun placed hplaced => ?_⟩
    cases hplaced
    rfl
  | false =>
    obtain ⟨next, result, hbegin, hconnected⟩ := BrokerGateway.beginDispatch_of_not_takes htakes
    rw [hbegin, if_neg Bool.false_ne_true]
    dsimp only
    split
    · refine ⟨hconnected, ?_, rfl, fun _ h => by cases h⟩
      exact keepsTriggers_block { s with gateway := next }.reportApiError i
    · exact ⟨hconnected, .refl s, rfl, fun _ h => by cases h⟩

/-- What the engine does before it hands an order over may be forgotten where it touches neither the
gateway nor a protective order. -/
theorem Handed.of_same {s t : System n} {order : Option NormalizedOrder}
    {result : System n × Progress Bool} (h : t.Handed order result)
    (hgateway : t.gateway = s.gateway) (htriggers : s.KeepsTriggers t) :
    s.Handed order result := by
  obtain ⟨hconnected, hkept, hprogress, hrecorded⟩ := h
  rw [hgateway] at hconnected hrecorded
  exact ⟨hconnected, htriggers.trans hkept, hprogress, hrecorded⟩

/-- The call of `dispatchBrokerOrder`. -/
theorem beginDispatch_handed (s : System n) (i : Fin n) (isBuy : Bool)
    (units : Financial.Quantity) (requestedPrice : Financial.Price) (timestamp : ℕ)
    (strategyId : String) (routeLatencyMs : ℚ) :
    s.Handed (s.takenOrder i isBuy units requestedPrice timestamp strategyId)
      (s.beginDispatch i isBuy units requestedPrice timestamp strategyId routeLatencyMs) := by
  let counted := s.setEngine i
    { s.engines i with nextLocalOrderId := (s.engines i).nextLocalOrderId + 1 }
  have hcounted : s.KeepsTriggers counted := keepsTriggers_setEngine s i rfl
  unfold beginDispatch takenOrder
  by_cases hconnected : s.gateway.isConnected = true
  · rw [if_neg (by rw [hconnected]; decide)]
    cases horder : s.gateway.normalizeOrder ((s.engines i).brokerRequest isBuy units
        requestedPrice timestamp strategyId) with
    | error reason =>
      have hcall : counted.gateway.normalizeOrder ((s.engines i).brokerRequest isBuy units
        requestedPrice timestamp strategyId) = .error reason := horder
      dsimp only
      rw [hcall]
      exact handed_none rfl (hcounted.trans (keepsTriggers_block counted i))
    | ok order =>
      have hcall : counted.gateway.normalizeOrder ((s.engines i).brokerRequest isBuy units
        requestedPrice timestamp strategyId) = .ok order := horder
      dsimp only
      rw [hcall]
      generalize hu : System.recordLatency _ i routeLatencyMs = u
      have hgateway : u.gateway = s.gateway := by
        rw [← hu]
        change (if _ then _ else _ : System n).gateway = s.gateway
        split <;> rfl
      have htriggers : s.KeepsTriggers u := by
        rw [← hu]
        refine KeepsTriggers.trans ?_ (keepsTriggers_setEngine _ i rfl)
        split
        · exact hcounted
        · exact hcounted.trans (keepsTriggers_block counted i)
      have hhanded := u.handToGateway_handed i order
        (ExecutionEngine.finalRisk s.portfolio s.risk isBuy)
      rw [hgateway] at hhanded
      exact hhanded.of_same hgateway htriggers
  · rw [Bool.not_eq_true] at hconnected
    rw [hconnected, if_pos (by decide)]
    have htaken : (match s.gateway.normalizeOrder ((s.engines i).brokerRequest isBuy units
        requestedPrice timestamp strategyId) with
      | .error _ => none
      | .ok order => if s.gateway.takes order (ExecutionEngine.finalRisk s.portfolio s.risk isBuy)
        then some order else none) = none := by
      split
      · rfl
      · rw [if_neg (by simp only [BrokerGateway.takes, hconnected, Bool.and_false,
          Bool.false_and, Bool.false_eq_true, not_false_eq_true])]
    rw [htaken]
    exact handed_none rfl (keepsTriggers_block s i)

/-- The order an engine sends out depends on portfolio, risk engine, gateway and configuration, and
on nothing that changes while a signal is counted. -/
theorem takenOrder_congr {s t : System n} {i : Fin n} (hportfolio : t.portfolio = s.portfolio)
    (hrisk : t.risk = s.risk) (hgateway : t.gateway = s.gateway)
    (hengine : (s.engines i).Counted (t.engines i)) (isBuy : Bool) (units : Financial.Quantity)
    (requestedPrice : Financial.Price) (timestamp : ℕ) (strategyId : String) :
    t.takenOrder i isBuy units requestedPrice timestamp strategyId =
      s.takenOrder i isBuy units requestedPrice timestamp strategyId := by
  obtain ⟨_, _, _, heq⟩ := hengine
  simp only [takenOrder, hportfolio, hrisk, hgateway, heq, ExecutionEngine.brokerRequest]

/-- **An `execute` call of a bound engine** returns without an order, or hands one over. -/
theorem beginExecute_handed {s : System n} {i : Fin n} (hbound : (s.engines i).bound = true)
    (args : ExecuteArgs) : s.Handed (s.handedOrder i args) (s.beginExecute i args) := by
  unfold beginExecute handedOrder
  dsimp only
  generalize hcounted : (if args.signal = .none then s else s.setEngine i { s.engines i with
    signalCount := (s.engines i).signalCount + 1 }) = counted
  have hsame : s.Local counted ∧ counted.portfolio = s.portfolio := by
    rw [← hcounted]
    split
    · exact ⟨.refl s, rfl⟩
    · exact ⟨s.local_setEngine i ⟨_, _, _, rfl⟩, rfl⟩
  obtain ⟨hlocal, hportfolio⟩ := hsame
  have htaken := takenOrder_congr hportfolio hlocal.risk hlocal.gateway (hlocal.engines i)
  have hdispatch (isBuy : Bool) (units : Financial.Quantity) (requestedPrice : Financial.Price) :=
    (counted.beginDispatch_handed i isBuy units requestedPrice args.timestamp args.strategyId
      args.routeLatencyMs).of_same hlocal.gateway hlocal.keepsTriggers
  cases (s.engines i).decideExecute s.portfolio s.risk s.gateway.isConnected args.signal
      args.marketPrice args.atr with
  | ignore => exact handed_none hlocal.gateway hlocal.keepsTriggers
  | block =>
    exact handed_none hlocal.gateway
      (hlocal.keepsTriggers.trans (keepsTriggers_block counted i))
  | enter marketPrice plan =>
    dsimp only
    rw [if_pos hbound, ← htaken]
    exact hdispatch true plan.units marketPrice
  | exit marketPrice plan =>
    dsimp only
    rw [if_pos hbound, ← htaken]
    exact hdispatch false plan.quantity marketPrice

end System

end TradeBot
