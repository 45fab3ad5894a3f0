import TradeBot.Trading.PaperAnswers

/-!
# A dispatch over the paper adapter

The marks of `dispatchOrder` and the reports of the adapter carry consecutive sequence
numbers and one timestamp, so the lifecycle store applies them all, even where the
number wraps. A dispatch that reaches the adapter therefore ends with its order filled,
filled in part, or rejected.
-/

namespace TradeBot

open Library

/-- The record of a dispatched order after `k` of the events that its dispatch makes,
before any fill. -/
structure OrderLifecycleRecord.Dispatched (order : NormalizedOrder) (state : OrderLifecycleState)
    (k : ℕ) (record : OrderLifecycleRecord) : Prop where
  request_eq : record.request = BrokerGateway.lifecycleRequest order
  state_eq : record.state = state
  filled_eq : record.filledQuantity = ⟨0, order.normalizedQuantity.scale⟩
  time_eq : record.lastTimestampNs = order.request.timestampNs
  sequence_eq : record.lastSequence = (order.request.sequence + k) % 2 ^ 64

namespace OrderLifecycleStore

open DeterministicBrokerAdapter

variable {order : NormalizedOrder} {record : OrderLifecycleRecord} {state : OrderLifecycleState}
  {k : ℕ}

/-- The record of an order starts as dispatched, in state `created`. -/
theorem dispatched_newRecord (hsequence : order.request.sequence < 2 ^ 64) :
    (newRecord (BrokerGateway.lifecycleRequest order)).Dispatched order .created 0 :=
  ⟨rfl, rfl, rfl, rfl, (Nat.mod_eq_of_lt hsequence).symm⟩

/-- A mark of the gateway is applied, and the record is in the next state. -/
theorem dispatched_transition (h : record.Dispatched order state k)
    (target : OrderLifecycleState) (hcan : canTransition state target = true)
    (eventKey : String) :
    ∃ next, decideTransition target eventKey order.request.timestampNs
        ((order.request.sequence + (k + 1)) % 2 ^ 64) record = .ok next ∧
      next.Dispatched order target (k + 1) := by
  refine ⟨_, decideTransition_eq_ok.mpr ⟨?_, ?_, rfl⟩, ?_⟩
  · exact OrderLifecycleRecord.not_older_succ h.time_eq h.sequence_eq
  · rw [h.state_eq, hcan]
  · exact ⟨h.request_eq, rfl, h.filled_eq, rfl, rfl⟩

/-- An acknowledgement of a submitted order is applied. -/
theorem dispatched_acknowledgement (h : record.Dispatched order .submitted 2)
    (ack : OrderAcknowledgement) (htime : ack.timestampNs = order.request.timestampNs)
    (hsequence : ack.sequence = (order.request.sequence + 3) % 2 ^ 64)
    (hid : ack.accepted = true → ack.externalOrderId ≠ "") :
    ∃ next, decideAcknowledgement ack record = .ok next ∧
      next.Dispatched order (if ack.accepted then .accepted else .rejected) 3 := by
  refine ⟨_, decideAcknowledgement_eq_ok.mpr ⟨?_, hid, ?_, rfl⟩, ?_⟩
  · rw [htime, hsequence]
    exact OrderLifecycleRecord.not_older_succ h.time_eq h.sequence_eq
  · rw [h.state_eq]
    split <;> rfl
  · exact ⟨h.request_eq, rfl, h.filled_eq, htime, hsequence⟩

/-- A fill of an accepted order that splits its quantity is applied. -/
theorem dispatched_execution (h : record.Dispatched order .accepted 3)
    {filled remaining : Decimal64} (hsplits : Splits order.normalizedQuantity filled remaining)
    (slippedPrice : Financial.Price) (fillFee : Financial.Money) :
    ∃ next, decideExecution (executionOf order filled remaining slippedPrice fillFee) record =
        .ok next ∧
      next.state = (if remaining.isZero then .filled else .partiallyFilled) := by
  have hquantity : record.request.quantity = order.normalizedQuantity := by
    rw [h.request_eq]
    rfl
  refine ⟨_, decideExecution_eq_ok.mpr ⟨?_, ?_, ?_, ?_, rfl⟩, rfl⟩
  · exact OrderLifecycleRecord.not_older_succ h.time_eq h.sequence_eq
  · rw [OrderLifecycleRecord.validQuantities_iff, hquantity]
    exact ⟨hsplits.filled_scale, hsplits.remaining_scale, hsplits.filled_pos.le,
      hsplits.remaining_nonneg, hsplits.sum_eq⟩
  · rw [h.filled_eq, Int64.lt_iff_toInt_lt, not_lt]
    exact hsplits.filled_pos.le
  · rw [h.state_eq]
    change canTransition .accepted (if remaining.isZero then .filled else .partiallyFilled) = true
    split <;> rfl

/-- A dispatch has brought its order into the store, with a record of the kind `P`. Other
orders are as they were; the only new keys are the request's own and those of the given
kinds. -/
structure Placed (store store' : OrderLifecycleStore) (order : NormalizedOrder)
    (made : List EventKind) (P : OrderLifecycleRecord → Prop) : Prop where
  found : ∃ record, store'.find order.request.localOrderId = some record ∧ P record
  others : ∀ other, other ≠ order.request.localOrderId → store'.find other = store.find other
  keys : ∀ key, key ∈ store'.appliedEventKeys ↔ key ∈ store.appliedEventKeys ∨
    key = order.request.idempotencyKey ∨
      ∃ kind ∈ made, key = kind.key order.request.localOrderId

/-- The order's identifier and the keys made from it are new, and its own key is none of
those that are made. -/
structure Fresh (store : OrderLifecycleStore) (order : NormalizedOrder) : Prop where
  keys : ∀ kind : EventKind, kind.key order.request.localOrderId ∉ store.appliedEventKeys
  avoids : AvoidsInternal order.request.idempotencyKey

variable {store store' : OrderLifecycleStore} {made : List EventKind}
  {P Q : OrderLifecycleRecord → Prop}

/-- A created order is placed in the store, before any report about it. -/
theorem placed_create (hcreate : store.create (BrokerGateway.lifecycleRequest order) =
    (store', true)) (hsequence : order.request.sequence < 2 ^ 64) :
    store.Placed store' order [] (OrderLifecycleRecord.Dispatched order .created 0) := by
  rcases create_cases hcreate with ⟨-, hfalse⟩ | ⟨-, -, -, -, -, rfl, -⟩
  · cases hfalse
  · refine ⟨⟨_, ?_, dispatched_newRecord hsequence⟩, fun other hother => ?_, fun key => ?_⟩
    · rw [find_commit]
      exact if_pos rfl
    · rw [find_commit]
      exact if_neg hother
    · rw [mem_commit]
      simp only [List.not_mem_nil, false_and, exists_false, or_false]
      exact or_comm

/-- An applied event moves the order's record. -/
theorem Placed.of_event (h : store.Placed store' order made P) {kind : EventKind}
    {decision : OrderLifecycleRecord → Except Refusal OrderLifecycleRecord}
    {last : OrderLifecycleStore}
    (hevent : store'.handleEvent order.request.localOrderId
      (kind.key order.request.localOrderId) decision = (last, .applied))
    (hdecision : ∀ record next, P record → decision record = .ok next → Q next) :
    store.Placed last order (kind :: made) Q := by
  rcases handleEvent_cases hevent with ⟨-, hrefused⟩ |
    ⟨record, next, hfind, -, -, hnext, rfl, -⟩
  · exact absurd rfl hrefused
  obtain ⟨⟨found, hfound, hP⟩, hothers, hkeys⟩ := h
  obtain rfl : found = record := Option.some.inj (hfound.symm.trans hfind)
  refine ⟨⟨next, ?_, hdecision found next hP hnext⟩, fun other hother => ?_, fun key => ?_⟩
  · rw [find_commit]
    exact if_pos rfl
  · rw [find_commit, if_neg hother]
    exact hothers other hother
  · rw [mem_commit, hkeys]
    simp only [List.mem_cons, exists_eq_or_imp]
    constructor
    · rintro (heq | hold | hown | hmade)
      · exact Or.inr (Or.inr (Or.inl heq))
      · exact Or.inl hold
      · exact Or.inr (Or.inl hown)
      · exact Or.inr (Or.inr (Or.inr hmade))
    · rintro (hold | hown | heq | hmade)
      · exact Or.inr (Or.inl hold)
      · exact Or.inr (Or.inr (Or.inl hown))
      · exact Or.inl heq
      · exact Or.inr (Or.inr (Or.inr hmade))

/-- An event whose key is new and which the record accepts is applied. -/
theorem Placed.event (h : store.Placed store' order made P)
    (havoids : AvoidsInternal order.request.idempotencyKey) {kind : EventKind}
    (hkey : kind.key order.request.localOrderId ∉ store.appliedEventKeys) (hnew : kind ∉ made)
    {decision : OrderLifecycleRecord → Except Refusal OrderLifecycleRecord}
    (hdecision : ∀ record, P record → ∃ next, decision record = .ok next ∧ Q next) :
    ∃ last, store'.handleEvent order.request.localOrderId
        (kind.key order.request.localOrderId) decision = (last, .applied) ∧
      store.Placed last order (kind :: made) Q := by
  obtain ⟨record, hfind, hP⟩ := h.found
  obtain ⟨next, hnext, -⟩ := hdecision record hP
  have hfresh : kind.key order.request.localOrderId ∉ store'.appliedEventKeys := by
    rw [h.keys]
    rintro (hold | hown | ⟨other, hother, heq⟩)
    · exact hkey hold
    · exact havoids.ne_key kind _ hown.symm
    · obtain ⟨rfl, -⟩ := EventKind.key_inj.mp heq
      exact hnew hother
  have hevent := handleEvent_applied hfind (kind.key_ne_empty _) hfresh hnext
  refine ⟨_, hevent, h.of_event hevent fun found last hfound hlast => ?_⟩
  obtain ⟨accepted, haccepted, hQ⟩ := hdecision found hfound
  rw [hlast] at haccepted
  cases haccepted
  exact hQ

/-- The marks of a dispatch are applied. -/
theorem placed_marks (h : store.Placed store' order []
    (OrderLifecycleRecord.Dispatched order .created 0)) (hfresh : store.Fresh order) :
    ∃ marked, BrokerGateway.markDispatched store' order.request = (marked, true) ∧
      store.Placed marked order [.submit, .risk]
        (OrderLifecycleRecord.Dispatched order .submitted 2) := by
  obtain ⟨checked, hchecked, hplaced⟩ := h.event hfresh.avoids
    (hfresh.keys .risk) (by decide) fun record hrecord =>
      dispatched_transition hrecord .riskChecked rfl _
  obtain ⟨marked, hmarked, hplaced⟩ := hplaced.event hfresh.avoids
    (hfresh.keys .submit) (by decide) fun record hrecord =>
      dispatched_transition hrecord .submitted rfl _
  rw [EventKind.key_risk] at hchecked
  rw [EventKind.key_submit] at hmarked
  refine ⟨marked, ?_, hplaced⟩
  simp only [BrokerGateway.markDispatched, markRiskChecked, markSubmitted, transition]
  rw [hchecked]
  dsimp only
  rw [hmarked]

/-- Marks that are applied leave a submitted record. -/
theorem placed_of_marks (h : store.Placed store' order []
    (OrderLifecycleRecord.Dispatched order .created 0)) {marked : OrderLifecycleStore}
    (hmarks : BrokerGateway.markDispatched store' order.request = (marked, true)) :
    store.Placed marked order [.submit, .risk]
      (OrderLifecycleRecord.Dispatched order .submitted 2) := by
  have hmoves {target : OrderLifecycleState} {eventKey : String}
      {record next : OrderLifecycleRecord} {state : OrderLifecycleState} {k : ℕ}
      (hrecord : record.Dispatched order state k)
      (hnext : decideTransition target eventKey order.request.timestampNs
        ((order.request.sequence + (k + 1)) % 2 ^ 64) record = .ok next) :
      next.Dispatched order target (k + 1) := by
    obtain ⟨-, -, rfl⟩ := decideTransition_eq_ok.mp hnext
    exact ⟨hrecord.request_eq, rfl, hrecord.filled_eq, rfl, rfl⟩
  unfold BrokerGateway.markDispatched at hmarks
  split at hmarks
  · next checked hchecked =>
    split at hmarks
    · next submitted hsubmitted =>
      cases hmarks
      rw [← EventKind.key_risk] at hchecked
      rw [← EventKind.key_submit] at hsubmitted
      exact (h.of_event hchecked fun _ _ => hmoves).of_event hsubmitted fun _ _ => hmoves
    · cases hmarks
  · cases hmarks

end OrderLifecycleStore

namespace BrokerGateway

variable {gateway : BrokerGateway}

/-- A connected gateway has a connected adapter. -/
theorem adapterConnected_of_isConnected (h : gateway.isConnected = true) :
    gateway.adapterConnected = true := by
  rw [isConnected, Bool.and_eq_true] at h
  exact h.2

/-- No report changes what the gateway knows of the connection: it asks the adapter. -/
theorem handle_adapter (gateway : BrokerGateway) (event : BrokerEvent) :
    (gateway.handle event).adapterConnected = gateway.adapterConnected := by
  cases event with
  | acknowledgement ack =>
    change (gateway.handleAcknowledgement ack).1.adapterConnected = _
    unfold handleAcknowledgement
    split <;> rfl
  | execution execution =>
    change (gateway.handleExecution execution).1.adapterConnected = _
    unfold handleExecution
    split <;> rfl
  | cancelResult result =>
    change (gateway.handleCancel result).adapterConnected = _
    unfold handleCancel
    split <;> rfl
  | health health => rfl

/-- The store that an acknowledgement leaves. -/
theorem handle_acknowledgement (gateway : BrokerGateway) (ack : OrderAcknowledgement) :
    (gateway.handle (.acknowledgement ack)).lifecycle =
      (gateway.lifecycle.applyAcknowledgement ack).1 := by
  rcases happly : gateway.lifecycle.applyAcknowledgement ack with ⟨store, result⟩
  simp only [handle, handleAcknowledgement, happly]
  rcases OrderLifecycleStore.handleEvent_cases happly with ⟨rfl, -⟩ | ⟨_, _, -, -, -, -, -, rfl⟩
  · cases result <;> rfl
  · rfl

/-- The store that an execution leaves. -/
theorem handle_execution (gateway : BrokerGateway) (execution : ExecutionEvent) :
    (gateway.handle (.execution execution)).lifecycle =
      (gateway.lifecycle.applyExecution execution).1 := by
  rcases happly : gateway.lifecycle.applyExecution execution with ⟨store, result⟩
  simp only [handle, handleExecution, happly]
  rcases OrderLifecycleStore.handleEvent_cases happly with ⟨rfl, -⟩ | ⟨_, _, -, -, -, -, -, rfl⟩
  · cases result <;> rfl
  · rfl

/-- The store that the result of a cancel leaves. -/
theorem handle_cancelResult (gateway : BrokerGateway) (result : CancelResult) :
    (gateway.handle (.cancelResult result)).lifecycle =
      (gateway.lifecycle.applyCancelResult result).1 := by
  rcases happly : gateway.lifecycle.applyCancelResult result with ⟨store, answer⟩
  simp only [handle, handleCancel, happly]
  rcases OrderLifecycleStore.handleEvent_cases happly with ⟨rfl, -⟩ | ⟨_, _, -, -, -, -, -, rfl⟩
  · cases answer <;> rfl
  · rfl

/-- Nor does a list of reports. -/
theorem foldl_handle_adapter (gateway : BrokerGateway) (events : List BrokerEvent) :
    (events.foldl handle gateway).adapterConnected = gateway.adapterConnected := by
  induction events generalizing gateway with
  | nil => rfl
  | cons event events ih => exact (ih _).trans (gateway.handle_adapter event)

/-- Reports about the connection leave the store alone. -/
theorem foldl_handle_health (gateway : BrokerGateway) {events : List BrokerEvent}
    (h : ∀ event ∈ events, event.isHealth = true) :
    (events.foldl handle gateway).lifecycle = gateway.lifecycle := by
  induction events generalizing gateway with
  | nil => rfl
  | cons event events ih =>
    refine (ih (gateway.handle event) fun other hother =>
      h other (List.mem_cons_of_mem event hother)).trans ?_
    have hevent := h event List.mem_cons_self
    cases event with
    | health health => rfl
    | _ => cases hevent

end BrokerGateway

/-- The state in which the adapter's answer leaves a submitted order. -/
def DeterministicBrokerAdapter.outcome (adapter : DeterministicBrokerAdapter)
    (order : NormalizedOrder) : OrderLifecycleState :=
  if adapter.Accepts order then
    if (adapter.fillQuantities order.normalizedQuantity).2.isZero then .filled else .partiallyFilled
  else .rejected

namespace PaperBroker

open OrderLifecycleStore DeterministicBrokerAdapter

variable {broker : PaperBroker} {order : NormalizedOrder} {store : OrderLifecycleStore}

/-- Reports that begin with the connection and an acknowledgement. -/
private theorem reported_acknowledgement (gateway : BrokerGateway) {health : List BrokerEvent}
    (hhealth : ∀ event ∈ health, event.isHealth = true) (ack : OrderAcknowledgement)
    (rest : List BrokerEvent) :
    ∃ gateway' : BrokerGateway,
      gateway'.lifecycle = (gateway.lifecycle.applyAcknowledgement ack).1 ∧
      (health ++ .acknowledgement ack :: rest).foldl BrokerGateway.handle gateway =
        rest.foldl BrokerGateway.handle gateway' := by
  refine ⟨(health.foldl BrokerGateway.handle gateway).handle (.acknowledgement ack), ?_, ?_⟩
  · rw [BrokerGateway.handle_acknowledgement, gateway.foldl_handle_health hhealth]
  · rw [List.foldl_append, List.foldl_cons]

/-- An acceptance and its fill are applied. -/
private theorem report_accepted (hconnected : broker.adapter.connected = true)
    (haccepts : broker.adapter.Accepts order)
    (hpositive : order.normalizedQuantity.isPositive = true) (hfresh : store.Fresh order)
    (hplaced : store.Placed broker.gateway.lifecycle order [.submit, .risk]
      (OrderLifecycleRecord.Dispatched order .submitted 2)) :
    ∃ next events, broker.adapter.submit order = (next, some events) ∧
      next.connected = true ∧
      next.pendingOrders = waiting broker.adapter.pendingOrders order
        (broker.adapter.fillQuantities order.normalizedQuantity).2 ∧
      ∃ made, .cancelResult ∉ made ∧
        store.Placed (broker.report next events).gateway.lifecycle order made
          fun record => record.state =
            if (broker.adapter.fillQuantities order.normalizedQuantity).2.isZero then .filled
            else .partiallyFilled := by
  obtain ⟨next, health, slippedPrice, fillFee, hsubmit, hhealth, hnext, hpending⟩ :=
    submit_of_accepts hconnected haccepts
  obtain ⟨acked, hacked, hplaced⟩ := hplaced.event hfresh.avoids
    (hfresh.keys .acknowledgement) (by decide) fun record hrecord =>
      dispatched_acknowledgement hrecord (acceptanceOf order) rfl rfl fun _ => by
        simp [acceptanceOf]
  obtain ⟨filled, hfilled, hplaced⟩ := hplaced.event hfresh.avoids
    (hfresh.keys .fill) (by decide) fun record hrecord => dispatched_execution hrecord
      (broker.adapter.splits_fillQuantities hpositive) slippedPrice fillFee
  have happlied : broker.gateway.lifecycle.applyAcknowledgement (acceptanceOf order) =
      (acked, .applied) := by
    rw [EventKind.key_acknowledgement] at hacked
    exact hacked
  refine ⟨next, _, hsubmit, hnext, hpending, [.fill, .acknowledgement, .submit, .risk], by decide,
    ?_⟩
  obtain ⟨gateway, hgateway, hreported⟩ := reported_acknowledgement
    { broker.gateway with adapterConnected := next.connected } hhealth (acceptanceOf order)
    [.execution (broker.adapter.fillOf order slippedPrice fillFee)]
  have hexecution : (gateway.handle (.execution
      (broker.adapter.fillOf order slippedPrice fillFee))).lifecycle = filled := by
    rw [BrokerGateway.handle_execution, hgateway, happlied]
    exact congrArg Prod.fst hfilled
  rw [report, hreported, List.foldl_cons, List.foldl_nil, hexecution]
  exact hplaced

/-- A rejection is applied. -/
theorem report_rejected (hconnected : broker.adapter.connected = true)
    (hrejects : ¬broker.adapter.Accepts order)
    (havoids : AvoidsInternal order.request.idempotencyKey)
    (hkey : EventKind.acknowledgement.key order.request.localOrderId ∉ store.appliedEventKeys)
    (hplaced : store.Placed broker.gateway.lifecycle order [.submit, .risk]
      (OrderLifecycleRecord.Dispatched order .submitted 2)) :
    ∃ next events, broker.adapter.submit order = (next, some events) ∧
      next.connected = true ∧ next.pendingOrders = broker.adapter.pendingOrders ∧
      ∃ made, .cancelResult ∉ made ∧
        store.Placed (broker.report next events).gateway.lifecycle order made
          fun record => record.state = .rejected := by
  obtain ⟨next, health, failure, reason, hsubmit, hhealth, hnext, hpending⟩ :=
    submit_of_not_accepts hconnected hrejects
  obtain ⟨acked, hacked, hplaced⟩ := hplaced.event havoids hkey (by decide)
    fun record hrecord => dispatched_acknowledgement hrecord
      (rejectionOf order failure reason) rfl rfl fun h => by cases h
  have happlied : broker.gateway.lifecycle.applyAcknowledgement
      (rejectionOf order failure reason) = (acked, .applied) := by
    rw [EventKind.key_acknowledgement] at hacked
    exact hacked
  refine ⟨next, _, hsubmit, hnext, hpending, [.acknowledgement, .submit, .risk], by decide, ?_⟩
  obtain ⟨gateway, hgateway, hreported⟩ := reported_acknowledgement
    { broker.gateway with adapterConnected := next.connected } hhealth
    (rejectionOf order failure reason) []
  rw [report, hreported, List.foldl_nil, hgateway, happlied]
  obtain ⟨⟨record, hfind, hrecord⟩, hothers, hkeys⟩ := hplaced
  exact ⟨⟨record, hfind, hrecord.state_eq⟩, hothers, hkeys⟩

/-- What the adapter reports about a submitted order is applied. -/
theorem report_submit (hconnected : broker.adapter.connected = true)
    (hpositive : order.normalizedQuantity.isPositive = true) (hfresh : store.Fresh order)
    (hplaced : store.Placed broker.gateway.lifecycle order [.submit, .risk]
      (OrderLifecycleRecord.Dispatched order .submitted 2)) :
    ∃ next events, broker.adapter.submit order = (next, some events) ∧
      next.connected = true ∧
      next.pendingOrders = (if broker.adapter.outcome order = .partiallyFilled then
        broker.adapter.pendingOrders.insert order.request.localOrderId order
        else broker.adapter.pendingOrders) ∧
      ∃ made, .cancelResult ∉ made ∧
        store.Placed (broker.report next events).gateway.lifecycle order made
          fun record => record.state = broker.adapter.outcome order := by
  unfold outcome
  by_cases haccepts : broker.adapter.Accepts order
  · obtain ⟨next, events, hsubmit, hnext, hpending, hplaced⟩ :=
      report_accepted hconnected haccepts hpositive hfresh hplaced
    rw [if_pos haccepts]
    refine ⟨next, events, hsubmit, hnext, ?_, hplaced⟩
    rw [hpending, waiting]
    by_cases hzero : (broker.adapter.fillQuantities order.normalizedQuantity).2.isZero = true
    · rw [if_pos hzero, if_pos hzero, if_neg (by decide)]
    · rw [if_neg hzero, if_neg hzero, if_pos rfl]
  · obtain ⟨next, events, hsubmit, hnext, hpending, hplaced⟩ :=
      report_rejected hconnected haccepts hfresh.avoids (hfresh.keys .acknowledgement) hplaced
    rw [if_neg haccepts]
    exact ⟨next, events, hsubmit, hnext, hpending, hplaced⟩

/-- A report that cannot make an order rejected. -/
def harmless : BrokerEvent → Bool
  | .acknowledgement ack => ack.accepted
  | .execution _ | .health _ => true
  | .cancelResult _ => false

/-- The store has the order, and not as rejected. -/
def Stands (store : OrderLifecycleStore) (localOrderId : ℕ) : Prop :=
  ∃ record, store.find localOrderId = some record ∧ record.state ≠ .rejected

/-- An order that stands survives any event whose decision does not reject an order. -/
theorem stands_handleEvent {store : OrderLifecycleStore} {id : ℕ} (h : Stands store id)
    (localOrderId : ℕ) (eventKey : String)
    {decision : OrderLifecycleRecord → Except Refusal OrderLifecycleRecord}
    (hdecision : ∀ record next, decision record = .ok next → next.state ≠ .rejected) :
    Stands (store.handleEvent localOrderId eventKey decision).1 id := by
  rcases hevent : store.handleEvent localOrderId eventKey decision with ⟨next, answer⟩
  rcases handleEvent_cases hevent with ⟨hsame, -⟩ | ⟨found, last, -, -, -, hlast, hnext, -⟩
  · rw [hsame]
    exact h
  · rw [hnext, Stands, find_commit]
    split
    · exact ⟨last, rfl, hdecision found last hlast⟩
    · exact h

/-- An order that stands survives every harmless report. -/
theorem stands_handle {gateway : BrokerGateway} {id : ℕ} (h : Stands gateway.lifecycle id)
    {event : BrokerEvent} (hevent : harmless event = true) :
    Stands (gateway.handle event).lifecycle id := by
  cases event with
  | acknowledgement ack =>
    have haccepted : ack.accepted = true := hevent
    rw [BrokerGateway.handle_acknowledgement]
    refine stands_handleEvent h _ _ fun record next hnext => ?_
    obtain ⟨-, -, -, rfl⟩ := decideAcknowledgement_eq_ok.mp hnext
    change (if ack.accepted then OrderLifecycleState.accepted else .rejected) ≠ _
    rw [haccepted]
    decide
  | execution execution =>
    rw [BrokerGateway.handle_execution]
    refine stands_handleEvent h _ _ fun record next hnext => ?_
    obtain ⟨-, -, -, -, rfl⟩ := decideExecution_eq_ok.mp hnext
    change (if execution.remainingQuantity.isZero then OrderLifecycleState.filled
      else .partiallyFilled) ≠ _
    split <;> decide
  | health health => exact h
  | cancelResult result => cases hevent

/-- And any list of harmless reports. -/
theorem stands_foldl_handle {gateway : BrokerGateway} {id : ℕ} (h : Stands gateway.lifecycle id)
    {events : List BrokerEvent} (hevents : ∀ event ∈ events, harmless event = true) :
    Stands (events.foldl BrokerGateway.handle gateway).lifecycle id := by
  induction events generalizing gateway with
  | nil => exact h
  | cons event events ih =>
    exact ih (stands_handle h (hevents event List.mem_cons_self))
      fun other hother => hevents other (List.mem_cons_of_mem event hother)

/-- Health reports are harmless. -/
theorem harmless_of_isHealth {event : BrokerEvent} (h : event.isHealth = true) :
    harmless event = true := by
  cases event with
  | health health => rfl
  | _ => cases h

/-- **Whether a submitted order stands** after the adapter's reports: the adapter accepts it,
or the key of its acknowledgement was used before. -/
theorem report_stands (hconnected : broker.adapter.connected = true)
    (havoids : AvoidsInternal order.request.idempotencyKey)
    (hplaced : store.Placed broker.gateway.lifecycle order [.submit, .risk]
      (OrderLifecycleRecord.Dispatched order .submitted 2)) :
    ∃ next events, broker.adapter.submit order = (next, some events) ∧
      next.connected = true ∧
      (Stands (broker.report next events).gateway.lifecycle order.request.localOrderId ↔
        broker.adapter.Accepts order ∨
          EventKind.acknowledgement.key order.request.localOrderId ∈ store.appliedEventKeys) := by
  obtain ⟨record, hfind, hrecord⟩ := hplaced.found
  have hstands : Stands broker.gateway.lifecycle order.request.localOrderId :=
    ⟨record, hfind, by rw [hrecord.state_eq]; decide⟩
  by_cases haccepts : broker.adapter.Accepts order
  · obtain ⟨next, health, slippedPrice, fillFee, hsubmit, hhealth, hnext, -⟩ :=
      submit_of_accepts hconnected haccepts
    refine ⟨next, _, hsubmit, hnext, iff_of_true ?_ (Or.inl haccepts)⟩
    have hsynced : Stands { broker.gateway with
        adapterConnected := next.connected }.lifecycle order.request.localOrderId := hstands
    refine stands_foldl_handle hsynced fun event hevent => ?_
    rcases List.mem_append.mp hevent with hevent | hevent
    · exact harmless_of_isHealth (hhealth event hevent)
    · rcases List.mem_pair.mp hevent with rfl | rfl <;> rfl
  · by_cases hkey : EventKind.acknowledgement.key order.request.localOrderId ∈
        store.appliedEventKeys
    · obtain ⟨next, health, failure, reason, hsubmit, hhealth, hnext, -⟩ :=
        submit_of_not_accepts hconnected haccepts
      refine ⟨next, _, hsubmit, hnext, iff_of_true ?_ (Or.inr hkey)⟩
      obtain ⟨gateway, hgateway, hreported⟩ := reported_acknowledgement
        { broker.gateway with adapterConnected := next.connected } hhealth
        (rejectionOf order failure reason) []
      have hknown : EventKind.acknowledgement.key order.request.localOrderId ∈
          broker.gateway.lifecycle.appliedEventKeys := (hplaced.keys _).mpr (Or.inl hkey)
      have hfound : (broker.gateway.lifecycle.find order.request.localOrderId).isSome := by
        rw [hfind]
        rfl
      have hduplicate : broker.gateway.lifecycle.applyAcknowledgement
          (rejectionOf order failure reason) = (broker.gateway.lifecycle, .duplicate) := by
        have h := handleEvent_duplicate
          (decideAcknowledgement (rejectionOf order failure reason)) hfound
          (EventKind.key_ne_empty _ _) hknown
        rwa [EventKind.key_acknowledgement] at h
      rw [report, hreported, List.foldl_nil, hgateway, hduplicate]
      exact hstands
    · obtain ⟨next, events, hsubmit, hnext, -, made, -, hreported⟩ :=
        report_rejected hconnected haccepts havoids hkey hplaced
      refine ⟨next, events, hsubmit, hnext, iff_of_false ?_ (not_or.mpr ⟨haccepts, hkey⟩)⟩
      obtain ⟨last, hlast, hrejected⟩ := hreported.found
      rintro ⟨found, hfound, hstate⟩
      rw [hlast] at hfound
      cases hfound
      exact hstate hrejected

end PaperBroker

end TradeBot
