import TradeBot.OrderNormalization
import TradeBot.Trading.Books
import TradeBot.Trading.Decisions

/-!
# What an `execute` call does to the books

A call of a bound engine never fills anything itself. At most it takes the next order
identifier and records one order in the lifecycle store; whether and which order is
said beforehand by `recordedOrder`.
-/

namespace TradeBot

open Library Financial

namespace BrokerGateway

/-- Marking a dispatch keeps the other orders. -/
theorem markDispatched_keeps (store : OrderLifecycleStore) (request : OrderRequest) :
    store.Keeps (markDispatched store request).1 := by
  unfold markDispatched
  have hrisk := store.transition_keeps request.localOrderId .riskChecked
    (riskKey request.localOrderId) request.timestampNs ((request.sequence + 1) % 2 ^ 64)
  split
  · next checked hchecked =>
    have hsubmit := checked.transition_keeps request.localOrderId .submitted
      (submitKey request.localOrderId) request.timestampNs ((request.sequence + 2) % 2 ^ 64)
    rw [OrderLifecycleStore.markRiskChecked] at hchecked
    rw [hchecked] at hrisk
    have hboth := hrisk.trans hsubmit
    rw [← OrderLifecycleStore.markSubmitted] at hboth
    split
    · next submitted heq =>
      rw [heq] at hboth
      exact hboth
    · next submitted result _ heq =>
      rw [heq] at hboth
      exact hboth
  · next checked result _ hchecked =>
    rw [OrderLifecycleStore.markRiskChecked] at hchecked
    rw [hchecked] at hrisk
    exact hrisk

/-- The store after a dispatch has recorded its order. -/
def recordOrder (store : OrderLifecycleStore) (order : NormalizedOrder) : OrderLifecycleStore :=
  (markDispatched (store.create (lifecycleRequest order)).1 order.request).1

/-- A recorded order is a new record, kept by the marks that follow. -/
theorem recordOrder_cases {store : OrderLifecycleStore} {order : NormalizedOrder}
    (h : (store.create (lifecycleRequest order)).2 = true) :
    store.find order.request.localOrderId = none ∧
      order.normalizedQuantity.isPositive = true ∧
      order.normalizedQuantity.scale ≤ Decimal64.maxScale ∧
      (store.commit order.request.localOrderId
          (OrderLifecycleStore.newRecord (lifecycleRequest order))
          order.request.idempotencyKey).Keeps (recordOrder store order) := by
  rcases hcreate : store.create (lifecycleRequest order) with ⟨created, success⟩
  rw [hcreate] at h
  rcases OrderLifecycleStore.create_cases hcreate with
    ⟨-, hfalse⟩ | ⟨hfind, hpositive, hscale, -, -, hcommit, -⟩
  · rw [hfalse] at h
    cases h
  · refine ⟨hfind, hpositive, hscale, ?_⟩
    rw [recordOrder, hcreate, hcommit]
    exact markDispatched_keeps _ _

/-- A dispatch leaves the store alone, or it records its order there. -/
theorem beginDispatch_lifecycle (gateway : BrokerGateway) (order : NormalizedOrder)
    (decision : RiskDecision) :
    (gateway.beginDispatch order decision).1.lifecycle = gateway.lifecycle ∨
      (decision.allowed = true ∧ gateway.isConnected = true ∧
        (gateway.lifecycle.create (lifecycleRequest order)).2 = true ∧
        (gateway.beginDispatch order decision).1.lifecycle =
          recordOrder gateway.lifecycle order) := by
  unfold beginDispatch
  split
  · exact Or.inl rfl
  · next hallowed =>
    split
    · exact Or.inl rfl
    · next hconnected =>
      rw [Bool.not_eq_true, Bool.not_eq_false'] at hallowed hconnected
      unfold recordOrder
      cases hcreate : gateway.lifecycle.create (lifecycleRequest order) with
      | mk created success =>
        cases success with
        | false => exact Or.inl rfl
        | true =>
          refine Or.inr ⟨hallowed, hconnected, rfl, ?_⟩
          dsimp only
          split
          · next marked heq => rw [heq]
          · next marked heq => rw [heq]

end BrokerGateway

namespace System

variable {n : ℕ} (s : System n)

/-- The order that a dispatch records in the lifecycle store: none when the gateway is
not connected, the order cannot be normalized, the risk engine refuses it, or the
store refuses to create it. -/
def recordedOrder (i : Fin n) (isBuy : Bool) (units : Financial.Quantity)
    (requestedPrice : Financial.Price) (timestamp : ℕ) (strategyId : String) :
    Option NormalizedOrder :=
  let request := (s.engines i).brokerRequest isBuy units requestedPrice timestamp strategyId
  match s.gateway.normalizeOrder request with
  | .error _ => none
  | .ok order =>
    if s.gateway.isConnected && (ExecutionEngine.finalRisk s.portfolio s.risk isBuy).allowed
        && (s.gateway.lifecycle.create (BrokerGateway.lifecycleRequest order)).2 then some order
    else none

/-- Handing an order over changes the store of the gateway and no other book. -/
theorem handToGateway_books (i : Fin n) (order : NormalizedOrder) (finalRisk : RiskDecision) :
    (s.handToGateway i order finalRisk).1.books =
      s.books.withLifecycle (s.gateway.beginDispatch order finalRisk).1.lifecycle := by
  unfold handToGateway
  split
  · next gateway heq => rw [heq, books_withGateway]
  · next gateway result heq =>
    rw [heq]
    split
    · rw [books_block, books_reportApiError, books_withGateway]
    · rw [books_withGateway]

/-- What a dispatch can do to the books. -/
theorem beginDispatch_books (i : Fin n) (isBuy : Bool) (units : Financial.Quantity)
    (requestedPrice : Financial.Price) (timestamp : ℕ) (strategyId : String)
    (routeLatencyMs : ℚ) :
    let t := (s.beginDispatch i isBuy units requestedPrice timestamp strategyId routeLatencyMs).1
    t.books = s.books ∨ t.books = s.books.allocate i ∨
      ∃ placed, s.recordedOrder i isBuy units requestedPrice timestamp strategyId = some placed ∧
        t.books = (s.books.allocate i).withLifecycle
          (BrokerGateway.recordOrder s.gateway.lifecycle placed) := by
  intro t
  simp only [t, beginDispatch]
  split
  · exact Or.inl (s.books_block i)
  · right
    split
    · left
      rw [books_block, books_setEngine_allocate]
    · next placed hplaced =>
      generalize hu : (System.recordLatency _ i routeLatencyMs) = u
      have hbooks : u.books = s.books.allocate i := by
        rw [← hu, books_recordLatency]
        split
        · rw [books_setEngine_allocate]
        · rw [books_block, books_setEngine_allocate]
      have hgateway : u.gateway = s.gateway := by
        rw [← hu]
        change (if _ then _ else _ : System n).gateway = s.gateway
        split <;> rfl
      rw [handToGateway_books, hbooks, hgateway]
      rcases s.gateway.beginDispatch_lifecycle placed (ExecutionEngine.finalRisk
        s.portfolio s.risk isBuy) with hsame | ⟨hallowed, hconnected, hcreate, hrecord⟩
      · left
        change (s.books.allocate i).withLifecycle
          (s.gateway.beginDispatch placed (ExecutionEngine.finalRisk s.portfolio s.risk isBuy)
            ).1.lifecycle = s.books.allocate i
        rw [hsame]
        rfl
      · right
        refine ⟨placed, ?_, congrArg _ hrecord⟩
        change s.gateway.normalizeOrder _ = _ at hplaced
        simp only [recordedOrder, hplaced, hallowed, hconnected, hcreate, Bool.and_self, if_true]

/-- The order that an `execute` call of a bound engine records in the lifecycle store,
with its side. -/
def executeOrder (i : Fin n) (args : ExecuteArgs) : Option (Bool × NormalizedOrder) :=
  match (s.engines i).decideExecute s.portfolio s.risk s.gateway.isConnected args.signal
    args.marketPrice args.atr with
  | .enter marketPrice plan =>
    (s.recordedOrder i true plan.units marketPrice args.timestamp args.strategyId).map
      fun order => (true, order)
  | .exit marketPrice plan =>
    (s.recordedOrder i false plan.quantity marketPrice args.timestamp args.strategyId).map
      fun order => (false, order)
  | _ => none

/-- The order that is recorded depends on the book of the engine and nothing else of it. -/
theorem recordedOrder_setEngine (i : Fin n) {engine : ExecutionEngine}
    (h : engine.book = (s.engines i).book) (isBuy : Bool) (units : Financial.Quantity)
    (requestedPrice : Financial.Price) (timestamp : ℕ) (strategyId : String) :
    (s.setEngine i engine).recordedOrder i isBuy units requestedPrice timestamp strategyId =
      s.recordedOrder i isBuy units requestedPrice timestamp strategyId := by
  have hsymbol : engine.symbol = (s.engines i).symbol := congrArg EngineBook.symbol h
  have hnext : engine.nextLocalOrderId = (s.engines i).nextLocalOrderId :=
    congrArg EngineBook.nextLocalOrderId h
  have hrequest : ((s.setEngine i engine).engines i).brokerRequest isBuy units requestedPrice
      timestamp strategyId =
        (s.engines i).brokerRequest isBuy units requestedPrice timestamp strategyId := by
    simp only [setEngine, Function.update_self, ExecutionEngine.brokerRequest, hsymbol, hnext]
  simp only [recordedOrder, hrequest]
  rfl

/-- An order that an `execute` call records: it carries the engine's next identifier and
symbol, it is new in the store, a purchase is made without a position, and a sale is
of no more than is held. -/
structure Recorded (i : Fin n) (isBuy : Bool) (order : NormalizedOrder) : Prop where
  localOrderId_eq : order.request.localOrderId = (s.engines i).nextLocalOrderId
  symbol_eq : order.request.canonicalSymbol = (s.engines i).symbol
  side_eq : order.request.side = if isBuy then .buy else .sell
  created : (s.gateway.lifecycle.create (BrokerGateway.lifecycleRequest order)).2 = true
  buys_without_position : isBuy = true →
    s.portfolio.positions.lookup (s.engines i).symbol = none
  sells_held : isBuy = false → ∃ p held,
    s.portfolio.positions.lookup (s.engines i).symbol = some p ∧
      quantity p.quantity.toDouble .rejectUnaligned = some held ∧
      order.normalizedQuantity.toRat ≤ held.toRat

/-- What is known of an order that is recorded. -/
private theorem recordedOrder_eq_some {i : Fin n} {isBuy : Bool} {units : Financial.Quantity}
    {requestedPrice : Financial.Price} {timestamp : ℕ} {strategyId : String}
    {order : NormalizedOrder}
    (h : s.recordedOrder i isBuy units requestedPrice timestamp strategyId = some order) :
    order.request =
        (s.engines i).brokerRequest isBuy units requestedPrice timestamp strategyId ∧
      order.normalizedQuantity.toRat ≤ units.toRat ∧
      (s.gateway.lifecycle.create (BrokerGateway.lifecycleRequest order)).2 = true := by
  simp only [recordedOrder] at h
  split at h
  · cases h
  · next placed hplaced =>
    split at h
    · next hall =>
      cases h
      obtain ⟨hrequest, -, hle⟩ := BrokerGateway.normalizeOrder_spec hplaced
      rw [Bool.and_eq_true] at hall
      refine ⟨hrequest, ?_, hall.2⟩
      rw [ExecutionEngine.brokerRequest, Decimal64.toRat_units] at hle
      exact hle
    · cases h

/-- A signal that sends an order out records it. -/
theorem executeOrder_recorded {i : Fin n} {args : ExecuteArgs} {isBuy : Bool}
    {order : NormalizedOrder} (h : s.executeOrder i args = some (isBuy, order)) :
    s.Recorded i isBuy order := by
  unfold executeOrder at h
  split at h
  · next marketPrice plan hdecision =>
    obtain ⟨placed, hplaced, heq⟩ := Option.map_eq_some_iff.mp h
    cases heq
    obtain ⟨hrequest, -, hcreated⟩ := s.recordedOrder_eq_some hplaced
    obtain ⟨-, -, -, -, hposition, -⟩ := ExecutionEngine.decideExecute_eq_enter hdecision
    refine ⟨by rw [hrequest]; rfl, by rw [hrequest]; rfl, by rw [hrequest]; rfl, hcreated,
      fun _ => ExecutionEngine.lookup_of_not_hasPosition hposition, fun hsell => by cases hsell⟩
  · next marketPrice plan hdecision =>
    obtain ⟨placed, hplaced, heq⟩ := Option.map_eq_some_iff.mp h
    cases heq
    obtain ⟨hrequest, hle, hcreated⟩ := s.recordedOrder_eq_some hplaced
    obtain ⟨-, -, -, -, hposition, hplan⟩ := ExecutionEngine.decideExecute_eq_exit hdecision
    obtain ⟨p, hp⟩ := ExecutionEngine.lookup_of_hasPosition hposition
    obtain ⟨hheld, -⟩ := ExecutionEngine.planExit_eq_some hp hplan
    exact ⟨by rw [hrequest]; rfl, by rw [hrequest]; rfl, by rw [hrequest]; rfl, hcreated,
      fun hbuy => by (cases hbuy), fun _ => ⟨p, plan.quantity, hp, hheld, hle⟩⟩
  · cases h

/-- Only a signal to sell records a sale. -/
theorem executeOrder_signal {i : Fin n} {args : ExecuteArgs} {order : NormalizedOrder}
    (h : s.executeOrder i args = some (false, order)) : args.signal = .sell := by
  unfold executeOrder at h
  split at h
  · next marketPrice plan hdecision =>
    obtain ⟨placed, -, heq⟩ := Option.map_eq_some_iff.mp h
    cases heq
  · next marketPrice plan hdecision =>
    exact (ExecutionEngine.decideExecute_eq_exit hdecision).1
  · cases h

/-- An order that is recorded carries the key that its engine makes. -/
theorem executeOrder_key {i : Fin n} {args : ExecuteArgs} {isBuy : Bool} {order : NormalizedOrder}
    (h : s.executeOrder i args = some (isBuy, order)) :
    order.request.idempotencyKey = "execution-" ++ toString order.request.localOrderId := by
  unfold executeOrder at h
  split at h
  · obtain ⟨placed, hplaced, heq⟩ := Option.map_eq_some_iff.mp h
    cases heq
    rw [(s.recordedOrder_eq_some hplaced).1]
    rfl
  · obtain ⟨placed, hplaced, heq⟩ := Option.map_eq_some_iff.mp h
    cases heq
    rw [(s.recordedOrder_eq_some hplaced).1]
    rfl
  · cases h

/-- What an `execute` call of a bound engine can do to the books. -/
theorem beginExecute_books {i : Fin n} (hbound : (s.engines i).bound = true)
    (args : ExecuteArgs) :
    let t := (s.beginExecute i args).1
    t.books = s.books ∨ t.books = s.books.allocate i ∨
      ∃ isBuy placed, s.executeOrder i args = some (isBuy, placed) ∧
        t.books = (s.books.allocate i).withLifecycle
          (BrokerGateway.recordOrder s.gateway.lifecycle placed) := by
  intro t
  simp only [t, beginExecute, executeOrder]
  generalize hcounted : (if args.signal = .none then s else s.setEngine i { s.engines i with
    signalCount := (s.engines i).signalCount + 1 }) = counted
  have hbooks : counted.books = s.books := by
    rw [← hcounted]
    split
    · rfl
    · exact s.books_setEngine rfl
  have hgateway : counted.gateway = s.gateway := by
    rw [← hcounted]
    split <;> rfl
  have hrecorded (isBuy : Bool) (units : Financial.Quantity) (requestedPrice : Financial.Price) :
      counted.recordedOrder i isBuy units requestedPrice args.timestamp args.strategyId =
        s.recordedOrder i isBuy units requestedPrice args.timestamp args.strategyId := by
    rw [← hcounted]
    split
    · rfl
    · apply s.recordedOrder_setEngine
      rfl
  have hdispatch (isBuy : Bool) (units : Financial.Quantity) (requestedPrice : Financial.Price) :
      let t := (counted.beginDispatch i isBuy units requestedPrice args.timestamp args.strategyId
        args.routeLatencyMs).1
      t.books = s.books ∨ t.books = s.books.allocate i ∨
        ∃ side placed, (s.recordedOrder i isBuy units requestedPrice args.timestamp
            args.strategyId).map (fun order => (isBuy, order)) = some (side, placed) ∧
          t.books = (s.books.allocate i).withLifecycle
            (BrokerGateway.recordOrder s.gateway.lifecycle placed) := by
    have h := counted.beginDispatch_books i isBuy units requestedPrice args.timestamp
      args.strategyId args.routeLatencyMs
    rw [hbooks, hgateway, hrecorded] at h
    rcases h with h | h | ⟨placed, hplaced, h⟩
    · exact Or.inl h
    · exact Or.inr (Or.inl h)
    · exact Or.inr (Or.inr ⟨isBuy, placed, by rw [hplaced]; rfl, h⟩)
  split
  · exact Or.inl hbooks
  · exact Or.inl ((counted.books_block i).trans hbooks)
  · next marketPrice plan hdecision =>
    rw [if_pos hbound, hdecision]
    exact hdispatch true plan.units marketPrice
  · next marketPrice plan hdecision =>
    rw [if_pos hbound, hdecision]
    exact hdispatch false plan.quantity marketPrice

end System

end TradeBot
