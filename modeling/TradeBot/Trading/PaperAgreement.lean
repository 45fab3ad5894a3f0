import TradeBot.Trading.PaperDispatch

/-!
# The paper adapter and the lifecycle store agree

Over any calls of a PAPER gateway and any fault settings, an order that was dispatched is
filled, filled in part, rejected or canceled, and the adapter keeps an order waiting
exactly when the store has it filled in part.
-/

namespace TradeBot

open Library

namespace BrokerGateway

variable {gateway : BrokerGateway} {order : NormalizedOrder}

/-- A dispatch whose marks are always applied is refused and changes no record, or it hands
its marked order to the adapter. -/
theorem beginDispatch_cases (finalRiskDecision : RiskDecision)
    (hmarks : ∀ created, gateway.lifecycle.create (lifecycleRequest order) = (created, true) →
      ∃ marked, markDispatched created order.request = (marked, true)) :
    (∃ next result, gateway.beginDispatch order finalRiskDecision = (next, some result) ∧
        result.dispatched = false ∧ next.lifecycle = gateway.lifecycle ∧
        next.adapterConnected = gateway.adapterConnected) ∨
      ∃ created marked, gateway.isConnected = true ∧
        gateway.lifecycle.create (lifecycleRequest order) = (created, true) ∧
        markDispatched created order.request = (marked, true) ∧
        gateway.beginDispatch order finalRiskDecision = ({ gateway with
          lifecycle := marked
          totalOrdersSubmitted := gateway.totalOrdersSubmitted + 1 }, none) := by
  unfold beginDispatch
  split
  · exact Or.inl ⟨_, _, rfl, rfl, rfl, rfl⟩
  · split
    · exact Or.inl ⟨_, _, rfl, rfl, rfl, rfl⟩
    · next hconnected =>
      rw [Bool.not_eq_true, Bool.not_eq_false'] at hconnected
      rcases hcreate : gateway.lifecycle.create (lifecycleRequest order) with ⟨created, success⟩
      cases success with
      | false => exact Or.inl ⟨_, _, rfl, rfl, rfl, rfl⟩
      | true =>
        obtain ⟨marked, hmarked⟩ := hmarks created hcreate
        refine Or.inr ⟨created, marked, hconnected, rfl, hmarked, ?_⟩
        dsimp only
        rw [hmarked]

end BrokerGateway

namespace PaperBroker

variable {broker : PaperBroker} {order : NormalizedOrder}

/-- The states of orders that were dispatched over the paper adapter. -/
def settledStates : List OrderLifecycleState := [.filled, .partiallyFilled, .rejected, .canceled]

/-- The gateway and its adapter agree: on the connection, on which keys were made, and on
which orders wait for the rest of their fill. -/
structure Agreement (broker : PaperBroker) : Prop where
  connected_eq : broker.gateway.adapterConnected = broker.adapter.connected
  keys : ∀ (kind : EventKind) id, kind.key id ∈ broker.gateway.lifecycle.appliedEventKeys →
    ∃ record, broker.gateway.lifecycle.find id = some record ∧
      (kind = .cancelResult → record.state = .canceled)
  settled : ∀ id record, broker.gateway.lifecycle.find id = some record →
    record.state ∈ settledStates
  pending : ∀ id, id ∈ broker.adapter.pendingOrders ↔
    ∃ record, broker.gateway.lifecycle.find id = some record ∧ record.state = .partiallyFilled

/-- A newly made gateway agrees with its adapter. -/
theorem agreement_create (config : SystemConfig) : (create config).Agreement where
  connected_eq := rfl
  keys kind id h := by cases h
  settled id record h := by cases h
  pending id := ⟨fun h => absurd h (AList.notMem_empty id), fun ⟨_, h, _⟩ => by cases h⟩

/-- An order that is not in the store yet is fresh. -/
theorem Agreement.fresh (h : broker.Agreement)
    (hfind : broker.gateway.lifecycle.find order.request.localOrderId = none)
    (havoids : AvoidsInternal order.request.idempotencyKey) :
    broker.gateway.lifecycle.Fresh order := by
  refine ⟨fun kind hmem => ?_, havoids⟩
  obtain ⟨record, hrecord, -⟩ := h.keys kind _ hmem
  rw [hfind] at hrecord
  cases hrecord

/-- The dispatch of an order has reached the adapter: the order is new and has the state of
the adapter's answer. -/
structure Reached (broker next : PaperBroker) (order : NormalizedOrder) : Prop where
  new : broker.gateway.lifecycle.find order.request.localOrderId = none
  avoids : AvoidsInternal order.request.idempotencyKey
  connected_eq : next.gateway.adapterConnected = next.adapter.connected
  placed : ∃ made, .cancelResult ∉ made ∧
    broker.gateway.lifecycle.Placed next.gateway.lifecycle order made
      fun record => record.state = broker.adapter.outcome order
  pendingOrders_eq : next.adapter.pendingOrders =
    if broker.adapter.outcome order = .partiallyFilled then
      broker.adapter.pendingOrders.insert order.request.localOrderId order
    else broker.adapter.pendingOrders

/-- The adapter settles an order that reaches it, and never as canceled. -/
theorem outcome_settled (adapter : DeterministicBrokerAdapter) (order : NormalizedOrder) :
    adapter.outcome order ∈ settledStates ∧ adapter.outcome order ≠ .canceled := by
  unfold DeterministicBrokerAdapter.outcome
  split
  · split <;> decide
  · decide

/-- A dispatch that reaches the adapter keeps the agreement. -/
theorem Reached.agreement {next : PaperBroker} (hreached : Reached broker next order)
    (h : broker.Agreement) : next.Agreement := by
  obtain ⟨hnew, havoids, hconnected, ⟨made, hmade, ⟨placed, hplaced, hstate⟩, hothers,
    hkeys⟩, hpending⟩ := hreached
  obtain ⟨hsettled, -⟩ := outcome_settled broker.adapter order
  refine ⟨hconnected, fun kind id hmem => ?_, fun id record hrecord => ?_, fun id => ?_⟩
  · rcases (hkeys _).mp hmem with hold | hown | ⟨other, hother, heq⟩
    · obtain ⟨record, hrecord, hcanceled⟩ := h.keys kind id hold
      have hother : id ≠ order.request.localOrderId := by
        rintro rfl
        rw [hnew] at hrecord
        cases hrecord
      exact ⟨record, (hothers id hother).trans hrecord, hcanceled⟩
    · exact absurd hown.symm (havoids.ne_key kind id)
    · obtain ⟨rfl, rfl⟩ := EventKind.key_inj.mp heq
      refine ⟨placed, hplaced, ?_⟩
      rintro rfl
      exact absurd hother hmade
  · by_cases hid : id = order.request.localOrderId
    · rw [hid, hplaced] at hrecord
      cases hrecord
      rw [hstate]
      exact hsettled
    · rw [hothers id hid] at hrecord
      exact h.settled id record hrecord
  · rw [hpending]
    by_cases hid : id = order.request.localOrderId
    · have hwaits : id ∉ broker.adapter.pendingOrders := by
        rw [h.pending id, hid, hnew]
        rintro ⟨_, hrecord, -⟩
        cases hrecord
      rw [hid] at hwaits ⊢
      by_cases hpartly : broker.adapter.outcome order = .partiallyFilled
      · rw [if_pos hpartly]
        exact ⟨fun _ => ⟨placed, hplaced, hstate.trans hpartly⟩,
          fun _ => (AList.mem_insert _).mpr (Or.inl rfl)⟩
      · rw [if_neg hpartly]
        refine ⟨fun hmem => absurd hmem hwaits, fun ⟨record, hrecord, hfilled⟩ => ?_⟩
        rw [hplaced] at hrecord
        cases hrecord
        exact absurd (hstate.symm.trans hfilled) hpartly
    · rw [hothers id hid, ← h.pending id]
      split
      · rw [AList.mem_insert, or_iff_right hid]
      · rfl

/-- A dispatch is refused and leaves the store and the adapter alone, or it reaches the
adapter. -/
theorem dispatchOrder_cases (h : broker.Agreement)
    (havoids : AvoidsInternal order.request.idempotencyKey)
    (hsequence : order.request.sequence < 2 ^ 64) (finalRiskDecision : RiskDecision) :
    ((broker.dispatchOrder order finalRiskDecision).2.dispatched = false ∧
        (broker.dispatchOrder order finalRiskDecision).1.gateway.lifecycle =
          broker.gateway.lifecycle ∧
        (broker.dispatchOrder order finalRiskDecision).1.gateway.adapterConnected =
          broker.gateway.adapterConnected ∧
        (broker.dispatchOrder order finalRiskDecision).1.adapter = broker.adapter) ∨
      ((broker.dispatchOrder order finalRiskDecision).2 =
          { dispatched := true, localOrderId := order.request.localOrderId } ∧
        Reached broker (broker.dispatchOrder order finalRiskDecision).1 order) := by
  have hnew {created : OrderLifecycleStore} (hcreate : broker.gateway.lifecycle.create
      (BrokerGateway.lifecycleRequest order) = (created, true)) :
      broker.gateway.lifecycle.find order.request.localOrderId = none ∧
        order.normalizedQuantity.isPositive = true := by
    rcases OrderLifecycleStore.create_cases hcreate with ⟨-, hfalse⟩ | ⟨hfind, hpositive, -⟩
    · cases hfalse
    · exact ⟨hfind, hpositive⟩
  have hmarks : ∀ created, broker.gateway.lifecycle.create
      (BrokerGateway.lifecycleRequest order) = (created, true) →
      ∃ marked, BrokerGateway.markDispatched created order.request = (marked, true) ∧
        broker.gateway.lifecycle.Placed marked order [.submit, .risk]
          (OrderLifecycleRecord.Dispatched order .submitted 2) := fun created hcreate =>
    OrderLifecycleStore.placed_marks (OrderLifecycleStore.placed_create hcreate hsequence)
      (h.fresh (hnew hcreate).1 havoids)
  rcases BrokerGateway.beginDispatch_cases finalRiskDecision
    fun created hcreate => (hmarks created hcreate).imp fun _ hmarked => hmarked.1 with
    ⟨next, result, hbegin, hrefused, hlifecycle, hadapter⟩ |
    ⟨created, marked, hconnected, hcreate, hmarked, hbegin⟩
  · left
    simp only [dispatchOrder, hbegin]
    exact ⟨hrefused, hlifecycle, hadapter, trivial⟩
  · right
    obtain ⟨hfind, hpositive⟩ := hnew hcreate
    obtain ⟨_, hmarked', hplaced⟩ := hmarks created hcreate
    obtain rfl := congrArg Prod.fst (hmarked.symm.trans hmarked')
    have hadapter : broker.adapter.connected = true :=
      h.connected_eq.symm.trans (BrokerGateway.adapterConnected_of_isConnected hconnected)
    let submitted : PaperBroker := { broker with gateway := { broker.gateway with
      lifecycle := marked
      totalOrdersSubmitted := broker.gateway.totalOrdersSubmitted + 1 } }
    obtain ⟨next, events, hsubmit, hnext, hpending, hreported⟩ :=
      @report_submit submitted order _ hadapter hpositive (h.fresh hfind havoids) hplaced
    have hsubmit : broker.adapter.submit order = (next, some events) := hsubmit
    have hdispatch : broker.dispatchOrder order finalRiskDecision =
        (submitted.report next events,
          { dispatched := true, localOrderId := order.request.localOrderId }) := by
      simp only [dispatchOrder, hbegin, hsubmit]
      rfl
    rw [hdispatch]
    exact ⟨rfl, hfind, havoids, BrokerGateway.foldl_handle_adapter _ events, hreported, hpending⟩

/-- A dispatch keeps the agreement. -/
theorem Agreement.dispatchOrder (h : broker.Agreement)
    (havoids : AvoidsInternal order.request.idempotencyKey)
    (hsequence : order.request.sequence < 2 ^ 64) (finalRiskDecision : RiskDecision) :
    (broker.dispatchOrder order finalRiskDecision).1.Agreement := by
  rcases dispatchOrder_cases h havoids hsequence finalRiskDecision with
    ⟨-, hlifecycle, hconnected, hadapter⟩ | ⟨-, hreached⟩
  · refine ⟨?_, ?_, ?_, ?_⟩
    · rw [hconnected, hadapter, h.connected_eq]
    · rw [hlifecycle]
      exact h.keys
    · rw [hlifecycle]
      exact h.settled
    · rw [hlifecycle, hadapter]
      exact h.pending
  · exact hreached.agreement h

/-- The result that the adapter reports for the cancel of a waiting order. -/
def canceledResult (request : CancelRequest) : CancelResult where
  localOrderId := request.localOrderId
  disposition := .accepted
  timestampNs := request.timestampNs
  sequence := (request.sequence + 1) % 2 ^ 64
  eventKey := "cancel-result-" ++ toString request.localOrderId

/-- An applied request to cancel a partly filled order, followed by the adapter's result,
leaves the order canceled under the two keys. -/
theorem cancel_applied {store requested : OrderLifecycleStore} {request : CancelRequest}
    {record : OrderLifecycleRecord} (hfind : store.find request.localOrderId = some record)
    (hkey : EventKind.cancelResult.key request.localOrderId ∉ store.appliedEventKeys)
    (havoids : AvoidsInternal request.idempotencyKey) (hsequence : request.sequence < 2 ^ 64)
    (h : store.requestCancel request = (requested, .applied)) :
    ∃ next canceled, requested.applyCancelResult (canceledResult request) = (next, .applied) ∧
      canceled.state = .canceled ∧
      (∀ id, next.find id =
        if id = request.localOrderId then some canceled else store.find id) ∧
      ∀ key, key ∈ next.appliedEventKeys ↔
        key = EventKind.cancelResult.key request.localOrderId ∨
          key = request.idempotencyKey ∨ key ∈ store.appliedEventKeys := by
  rcases OrderLifecycleStore.handleEvent_cases h with ⟨-, hresult⟩ |
    ⟨found, pending, hfound, -, -, hdecision, rfl, -⟩
  · exact absurd rfl hresult
  · obtain rfl : found = record := Option.some.inj (hfound.symm.trans hfind)
    obtain ⟨-, -, hpending⟩ := OrderLifecycleStore.decideCancelRequest_eq_ok.mp hdecision
    have hstate : pending.state = .cancelRequested := by rw [hpending]; rfl
    have htime : pending.lastTimestampNs = request.timestampNs := by rw [hpending]; rfl
    have hlast : pending.lastSequence = (request.sequence + 0) % 2 ^ 64 := by
      rw [hpending, add_zero, Nat.mod_eq_of_lt hsequence]
      rfl
    have hfresh : EventKind.cancelResult.key request.localOrderId ∉ (store.commit
        request.localOrderId pending request.idempotencyKey).appliedEventKeys := by
      rw [OrderLifecycleStore.mem_commit, not_or]
      exact ⟨(havoids.ne_key .cancelResult _).symm, hkey⟩
    have hfound : (store.commit request.localOrderId pending request.idempotencyKey).find
        request.localOrderId = some pending := by
      rw [OrderLifecycleStore.find_commit]
      exact if_pos rfl
    obtain ⟨canceled, hcanceled, hdone⟩ : ∃ canceled,
        OrderLifecycleStore.decideCancelResult (canceledResult request) pending = .ok canceled ∧
          canceled.state = .canceled :=
      ⟨_, OrderLifecycleStore.decideCancelResult_eq_ok.mpr
        ⟨OrderLifecycleRecord.not_older_succ htime hlast, hstate, .canceled, rfl, rfl⟩, rfl⟩
    have hnext := OrderLifecycleStore.handleEvent_applied hfound (EventKind.key_ne_empty _ _)
      hfresh hcanceled
    rw [EventKind.key_cancelResult] at hnext
    refine ⟨_, canceled, hnext, hdone, fun id => ?_, fun key => ?_⟩
    · rw [OrderLifecycleStore.find_commit, OrderLifecycleStore.find_commit]
      split <;> rfl
    · rw [OrderLifecycleStore.mem_commit, OrderLifecycleStore.mem_commit,
        EventKind.key_cancelResult]

/-- Of the settled states only a partial fill can still be cancelled. -/
private theorem cancelable_settled {state : OrderLifecycleState} (h : state ∈ settledStates)
    (hcan : canTransition state .cancelRequested = true) : state = .partiallyFilled := by
  revert h hcan
  cases state <;> decide

/-- A cancel request is refused and changes nothing, or it cancels a partly filled order. -/
theorem requestCancel_cases (h : broker.Agreement) {request : CancelRequest}
    (havoids : AvoidsInternal request.idempotencyKey) (hsequence : request.sequence < 2 ^ 64) :
    (broker.requestCancel request).1 = broker ∨
      ∃ next canceled, canceled.state = .canceled ∧
        (broker.requestCancel request).1.adapter = { broker.adapter with
          pendingOrders := broker.adapter.pendingOrders.erase request.localOrderId } ∧
        (broker.requestCancel request).1.gateway.adapterConnected = broker.adapter.connected ∧
        (broker.requestCancel request).1.gateway.lifecycle = next ∧
        (∀ id, next.find id = if id = request.localOrderId then some canceled
          else broker.gateway.lifecycle.find id) ∧
        ∀ key, key ∈ next.appliedEventKeys ↔
          key = EventKind.cancelResult.key request.localOrderId ∨
            key = request.idempotencyKey ∨ key ∈ broker.gateway.lifecycle.appliedEventKeys := by
  by_cases hconnected : broker.gateway.isConnected = true
  swap
  · left
    simp only [PaperBroker.requestCancel, BrokerGateway.beginCancel, hconnected]
    rfl
  rcases hrequest : broker.gateway.lifecycle.requestCancel request with ⟨requested, answer⟩
  by_cases happlied : answer = .applied
  swap
  · left
    have hbegin : broker.gateway.beginCancel request = (broker.gateway, false) := by
      simp only [BrokerGateway.beginCancel, hconnected, hrequest]
      cases answer with
      | applied => exact absurd rfl happlied
      | _ => rfl
    simp only [PaperBroker.requestCancel, hbegin]
  right
  subst happlied
  rcases OrderLifecycleStore.handleEvent_cases hrequest with ⟨-, hrefused⟩ |
    ⟨record, _, hfind, -, -, hdecision, -, -⟩
  · exact absurd rfl hrefused
  obtain ⟨-, hcan, -⟩ := OrderLifecycleStore.decideCancelRequest_eq_ok.mp hdecision
  have hpartly : record.state = .partiallyFilled :=
    cancelable_settled (h.settled _ record hfind) hcan
  have hwaits : request.localOrderId ∈ broker.adapter.pendingOrders :=
    (h.pending _).mpr ⟨record, hfind, hpartly⟩
  have hkey : EventKind.cancelResult.key request.localOrderId ∉
      broker.gateway.lifecycle.appliedEventKeys := by
    intro hmem
    obtain ⟨found, hfound, hcanceled⟩ := h.keys _ _ hmem
    rw [hfind] at hfound
    cases hfound
    rw [hpartly] at hcanceled
    exact absurd (hcanceled rfl) (by decide)
  obtain ⟨next, canceled, hresult, hstate, hfinds, hkeys⟩ :=
    cancel_applied hfind hkey havoids hsequence hrequest
  have hadapter : broker.adapter.connected = true :=
    h.connected_eq.symm.trans (BrokerGateway.adapterConnected_of_isConnected hconnected)
  have hcancel : broker.adapter.cancel request = ({ broker.adapter with
      pendingOrders := broker.adapter.pendingOrders.erase request.localOrderId },
      some [.cancelResult (canceledResult request)]) := by
    simp only [DeterministicBrokerAdapter.cancel, hadapter, if_pos hwaits]
    rfl
  have hbegin : broker.gateway.beginCancel request =
      ({ broker.gateway with lifecycle := requested }, true) := by
    simp only [BrokerGateway.beginCancel, hconnected, hrequest]
    rfl
  simp only [PaperBroker.requestCancel, hbegin, hcancel]
  refine ⟨next, canceled, hstate, rfl, ?_, ?_, hfinds, hkeys⟩
  · exact BrokerGateway.foldl_handle_adapter _ _
  · exact (BrokerGateway.handle_cancelResult _ _).trans (congrArg Prod.fst hresult)

/-- A cancel request keeps the agreement: only a partly filled order can be canceled, and
the adapter waits for it. -/
theorem Agreement.requestCancel (h : broker.Agreement) {request : CancelRequest}
    (havoids : AvoidsInternal request.idempotencyKey) (hsequence : request.sequence < 2 ^ 64) :
    (broker.requestCancel request).1.Agreement := by
  rcases requestCancel_cases h havoids hsequence with hsame |
    ⟨next, canceled, hstate, hadapter, hconnected, hnext, hfinds, hkeys⟩
  · rw [hsame]
    exact h
  · refine ⟨?_, fun kind id hmem => ?_, fun id record hrecord => ?_, fun id => ?_⟩
    · rw [hconnected, hadapter]
    · rw [hnext, hkeys] at hmem
      rw [hnext, hfinds]
      by_cases hid : id = request.localOrderId
      · rw [if_pos hid]
        exact ⟨canceled, rfl, fun _ => hstate⟩
      · rw [if_neg hid]
        rcases hmem with heq | hown | hold
        · exact absurd (EventKind.key_inj.mp heq).2 hid
        · exact absurd hown.symm (havoids.ne_key kind id)
        · exact h.keys kind id hold
    · rw [hnext, hfinds] at hrecord
      by_cases hid : id = request.localOrderId
      · rw [if_pos hid] at hrecord
        cases hrecord
        rw [hstate]
        decide
      · rw [if_neg hid] at hrecord
        exact h.settled id record hrecord
    · rw [hnext, hfinds, hadapter]
      change id ∈ broker.adapter.pendingOrders.erase request.localOrderId ↔ _
      rw [AList.mem_erase, h.pending id]
      by_cases hid : id = request.localOrderId
      · rw [if_pos hid]
        refine ⟨fun hmem => absurd hid hmem.1, fun ⟨record, hrecord, hfilled⟩ => ?_⟩
        cases hrecord
        rw [hstate] at hfilled
        cases hfilled
      · rw [if_neg hid, and_iff_right hid]

/-- Reports about the connection keep the agreement. -/
theorem Agreement.report (h : broker.Agreement) {adapter : DeterministicBrokerAdapter}
    {events : List BrokerEvent} (hpending : adapter.pendingOrders = broker.adapter.pendingOrders)
    (hhealth : ∀ event ∈ events, event.isHealth = true) :
    (broker.report adapter events).Agreement := by
  have hlifecycle : (broker.report adapter events).gateway.lifecycle = broker.gateway.lifecycle :=
    BrokerGateway.foldl_handle_health _ hhealth
  refine ⟨BrokerGateway.foldl_handle_adapter _ events, ?_, ?_, ?_⟩
  · rw [hlifecycle]
    exact h.keys
  · rw [hlifecycle]
    exact h.settled
  · rw [hlifecycle]
    exact fun id => (iff_of_eq (congrArg (id ∈ ·) hpending)).trans (h.pending id)

/-- Connecting reports the health of the connection and leaves the pending orders. -/
private theorem connect_reports (adapter : DeterministicBrokerAdapter) :
    adapter.connect.1.pendingOrders = adapter.pendingOrders ∧
      ∀ event ∈ adapter.connect.2, event.isHealth = true := by
  unfold DeterministicBrokerAdapter.connect
  split
  · exact ⟨rfl, fun event hevent => by cases hevent⟩
  · exact ⟨rfl, fun event hevent => by rw [List.mem_singleton.mp hevent]; rfl⟩

/-- So does disconnecting. -/
private theorem disconnect_reports (adapter : DeterministicBrokerAdapter) :
    adapter.disconnect.1.pendingOrders = adapter.pendingOrders ∧
      ∀ event ∈ adapter.disconnect.2, event.isHealth = true := by
  unfold DeterministicBrokerAdapter.disconnect
  split
  · exact ⟨rfl, fun event hevent => by cases hevent⟩
  · exact ⟨rfl, fun event hevent => by rw [List.mem_singleton.mp hevent]; rfl⟩

/-- Health reports do not reach the store. -/
theorem lifecycle_connect (broker : PaperBroker) :
    broker.connect.gateway.lifecycle = broker.gateway.lifecycle := by
  unfold PaperBroker.connect
  split
  · rfl
  · exact BrokerGateway.foldl_handle_health _ (connect_reports broker.adapter).2

/-- Neither when the connection is lost. -/
theorem lifecycle_disconnect (broker : PaperBroker) :
    broker.disconnect.gateway.lifecycle = broker.gateway.lifecycle :=
  BrokerGateway.foldl_handle_health _ (disconnect_reports broker.adapter).2

/-- The agreement between adapter and store holds across a connect. -/
theorem Agreement.connect (h : broker.Agreement) : broker.connect.Agreement := by
  obtain ⟨hpending, hhealth⟩ := connect_reports broker.adapter
  unfold PaperBroker.connect
  split
  · exact ⟨h.connected_eq, h.keys, h.settled, h.pending⟩
  · exact h.report hpending hhealth

/-- And across a disconnect. -/
theorem Agreement.disconnect (h : broker.Agreement) : broker.disconnect.Agreement := by
  obtain ⟨hpending, hhealth⟩ := disconnect_reports broker.adapter
  exact h.report hpending hhealth

/-- The caller's key avoids the internal prefixes, and its sequence number has 64 bits. -/
def Input.Callable : Input → Prop
  | .dispatchOrder order _ =>
    AvoidsInternal order.request.idempotencyKey ∧ order.request.sequence < 2 ^ 64
  | .requestCancel request =>
    AvoidsInternal request.idempotencyKey ∧ request.sequence < 2 ^ 64
  | _ => True

instance (input : Input) : Decidable input.Callable := by
  cases input <;> unfold Input.Callable <;> infer_instance

/-- Every call keeps the agreement. -/
theorem Agreement.next (h : broker.Agreement) {input : Input} (hcallable : input.Callable) :
    (paper.next broker input).Agreement := by
  cases input with
  | connect => exact h.connect
  | disconnect => exact h.disconnect
  | dispatchOrder order finalRiskDecision =>
    exact h.dispatchOrder hcallable.1 hcallable.2 finalRiskDecision
  | requestCancel request => exact h.requestCancel hcallable.1 hcallable.2
  | setPaperSimulationCosts feeRate slippageBps =>
    change Agreement { broker with
      adapter := (broker.adapter.setSimulationCosts feeRate slippageBps).1 }
    unfold DeterministicBrokerAdapter.setSimulationCosts
    split <;> exact ⟨h.connected_eq, h.keys, h.settled, h.pending⟩
  | _ => exact ⟨h.connected_eq, h.keys, h.settled, h.pending⟩

/-- The orders that the gateway reported as dispatched. -/
def reportedOrders (replies : List Reply) : List ℕ :=
  replies.filterMap fun
    | .dispatched result => if result.dispatched then some result.localOrderId else none
    | _ => none

/-- The store has a record of the order. -/
def Knows (broker : PaperBroker) (id : ℕ) : Prop :=
  ∃ record, broker.gateway.lifecycle.find id = some record

/-- An order whose dispatch has reached the adapter is known from then on. -/
theorem Reached.knows {next : PaperBroker} (hreached : Reached broker next order) :
    next.Knows order.request.localOrderId := by
  obtain ⟨_, -, ⟨record, hrecord, -⟩, -⟩ := hreached.placed
  exact ⟨record, hrecord⟩

/-- A known order stays known, and a dispatched one becomes known. -/
theorem Agreement.knows_next (h : broker.Agreement) {input : Input}
    (hcallable : input.Callable) {id : ℕ}
    (hid : broker.Knows id ∨ id ∈ reportedOrders [paper.output broker input]) :
    (paper.next broker input).Knows id := by
  cases input with
  | dispatchOrder order finalRiskDecision =>
    change (broker.dispatchOrder order finalRiskDecision).1.Knows id
    change _ ∨ id ∈ reportedOrders
      [.dispatched (broker.dispatchOrder order finalRiskDecision).2] at hid
    rcases dispatchOrder_cases h hcallable.1 hcallable.2 finalRiskDecision with
      ⟨hrefused, hlifecycle, -⟩ | ⟨hresult, hreached⟩
    · rw [reportedOrders, List.filterMap_cons] at hid
      simp only [hrefused] at hid
      rcases hid with hknown | hnone
      · rw [Knows, hlifecycle]
        exact hknown
      · cases hnone
    · by_cases hown : id = order.request.localOrderId
      · rw [hown]
        exact hreached.knows
      · rw [hresult] at hid
        rcases hid with ⟨record, hrecord⟩ | hreported
        · obtain ⟨_, -, hplaced⟩ := hreached.placed
          exact ⟨record, (hplaced.others id hown).trans hrecord⟩
        · exact absurd (List.mem_singleton.mp hreported) hown
  | requestCancel request =>
    have hknown : broker.Knows id := hid.resolve_right fun hnone => by cases hnone
    change (broker.requestCancel request).1.Knows id
    rcases requestCancel_cases h hcallable.1 hcallable.2 with hsame |
      ⟨next, canceled, -, -, -, hnext, hfinds, -⟩
    · rw [hsame]
      exact hknown
    · rw [Knows, hnext, hfinds]
      split
      · exact ⟨canceled, rfl⟩
      · exact hknown
  | connect =>
    have hknown : broker.Knows id := hid.resolve_right fun hnone => by cases hnone
    change broker.connect.Knows id
    rw [Knows, lifecycle_connect]
    exact hknown
  | disconnect =>
    have hknown : broker.Knows id := hid.resolve_right fun hnone => by cases hnone
    change broker.disconnect.Knows id
    rw [Knows, lifecycle_disconnect]
    exact hknown
  | _ =>
    have hknown : broker.Knows id := hid.resolve_right fun hnone => by cases hnone
    exact hknown

/-- Every order that was reported as dispatched is known at the end of the run. -/
theorem Agreement.knows_reported (h : broker.Agreement) {inputs : List Input}
    (hcallable : ∀ input ∈ inputs, input.Callable) {id : ℕ}
    (hid : broker.Knows id ∨ id ∈ reportedOrders (paper.outputs broker inputs)) :
    (paper.run broker inputs).Agreement ∧ (paper.run broker inputs).Knows id := by
  induction inputs generalizing broker with
  | nil => exact ⟨h, hid.resolve_right fun hnone => by cases hnone⟩
  | cons input inputs ih =>
    have hinput := hcallable input List.mem_cons_self
    refine ih (h.next hinput)
      (fun other hother => hcallable other (List.mem_cons_of_mem input hother)) ?_
    rw [Machine.outputs_cons, ← List.singleton_append, reportedOrders, List.filterMap_append,
      List.mem_append, ← or_assoc] at hid
    exact hid.imp_left (h.knows_next hinput)

/-- **The paper adapter and the lifecycle store agree.** -/
theorem agrees_run (config : SystemConfig) {inputs : List Input}
    (hcallable : ∀ input ∈ inputs, input.Callable) :
    (∀ id ∈ reportedOrders (paper.outputs (create config) inputs),
      ∃ record, (paper.run (create config) inputs).gateway.orderLifecycle id = some record ∧
        record.state ∈ settledStates) ∧
      ∀ id, id ∈ (paper.run (create config) inputs).adapter.pendingOrders ↔
        ∃ record, (paper.run (create config) inputs).gateway.orderLifecycle id = some record ∧
          record.state = .partiallyFilled := by
  have hagreement : (paper.run (create config) inputs).Agreement :=
    Machine.invariant_run_of_along (fun _ _ h hinput => h.next hinput) (agreement_create config)
      (Machine.along_of_forall hcallable _)
  refine ⟨fun id hid => ?_, hagreement.pending⟩
  obtain ⟨-, record, hrecord⟩ :=
    (agreement_create config).knows_reported hcallable (Or.inr hid)
  exact ⟨record, hrecord, hagreement.settled id record hrecord⟩

/-- An order to buy ten units near a price of one hundred, with the greatest sequence
number. -/
def tenUnits (localOrderId : ℕ) : NormalizedOrder where
  request := {
    localOrderId := localOrderId
    canonicalSymbol := "BTCUSDT"
    quantity := ⟨10, 0⟩
    referencePrice := some ⟨100, 0⟩
    sequence := 2 ^ 64 - 1
    idempotencyKey := "order-" ++ toString localOrderId }
  executionSymbol := "BTCUSDT"
  normalizedQuantity := ⟨10, 0⟩
  normalizedLimitPrice := none
  normalizedStopPrice := none
  normalizedReferencePrice := some ⟨100, 0⟩
  instrumentVersion := 1

/-- Three orders under injected faults: one filled by half and then canceled, one rejected,
one filled by half. -/
def faultyCalls : List Input := [
  .connect,
  .injectNextPartialFill (.finite (1 / 2)),
  .dispatchOrder (tenUnits 1) { allowed := true },
  .requestCancel {
    localOrderId := 1
    sequence := 2 ^ 64 - 1
    idempotencyKey := "cancel-1" },
  .injectNextOrderError "no margin",
  .dispatchOrder (tenUnits 2) { allowed := true },
  .injectNextPartialFill (.finite (1 / 2)),
  .dispatchOrder (tenUnits 3) { allowed := true }]

/-- The agreement over three orders: all are reported, and the first is canceled. -/
theorem agrees_run_faulty :
    reportedOrders (paper.outputs (create { mode := .paper }) faultyCalls) = [1, 2, 3] ∧
      ((paper.run (create { mode := .paper }) faultyCalls).gateway.orderLifecycle 1).map
        OrderLifecycleRecord.state = some .canceled ∧
      ((∀ id ∈ reportedOrders (paper.outputs (create { mode := .paper }) faultyCalls),
        ∃ record, (paper.run (create { mode := .paper }) faultyCalls).gateway.orderLifecycle id =
          some record ∧ record.state ∈ settledStates) ∧
        ∀ id, id ∈ (paper.run (create { mode := .paper }) faultyCalls).adapter.pendingOrders ↔
          ∃ record, (paper.run (create { mode := .paper }) faultyCalls).gateway.orderLifecycle id =
            some record ∧ record.state = .partiallyFilled) :=
  ⟨by decide +kernel, by decide +kernel,
    agrees_run { mode := .paper } (by decide +kernel)⟩

end PaperBroker

end TradeBot
