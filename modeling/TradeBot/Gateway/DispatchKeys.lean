import TradeBot.Gateway.Normalization
import TradeBot.Gateway.RecordedKeys

/-!
# A refused dispatch leaves no order behind

The two marks of a dispatch carry keys made from the order's identifier. The store knows such a
key only when it has an order of that identifier, so an order that it has just created takes
both marks, whatever its sequence number: no dispatch stops between the creation of its order
and the adapter.
-/

namespace TradeBot

open Library

namespace OrderLifecycleStore

variable {store : OrderLifecycleStore} {localOrderId : ℕ} {eventKey : String}

/-- The key marks the dispatch of no other order. -/
def MarksOnly (localOrderId : ℕ) (eventKey : String) : Prop :=
  ∀ kind ∈ [EventKind.risk, .submit], ∀ other, kind.key other = eventKey → other = localOrderId

/-- A key marks no order but its own. -/
theorem marksOnly_key (kind : EventKind) (localOrderId : ℕ) :
    MarksOnly localOrderId (kind.key localOrderId) := by
  intro other _ otherId heq
  exact (EventKind.key_inj.mp heq).2

/-- A key marks no dispatch when its beginning and the beginnings of the marks exclude each
other. -/
theorem marksOnly_of_beginsWith {stem : String} (hstem : BeginsWith stem eventKey)
    (hrisk : ¬BeginsWith stem EventKind.risk.stem ∧ ¬BeginsWith EventKind.risk.stem stem)
    (hsubmit : ¬BeginsWith stem EventKind.submit.stem ∧ ¬BeginsWith EventKind.submit.stem stem) :
    MarksOnly localOrderId eventKey := by
  rintro kind hkind other rfl
  rcases hstem.comparable (kind.stem_beginsWith other) with h | h
  · rcases List.mem_pair.mp hkind with rfl | rfl
    · exact absurd h hrisk.1
    · exact absurd h hsubmit.1
  · rcases List.mem_pair.mp hkind with rfl | rfl
    · exact absurd h hrisk.2
    · exact absurd h hsubmit.2

/-- Both keys that mark a dispatch begin with the prefix of the gateway. -/
theorem beginsWith_gateway {kind : EventKind} (hkind : kind ∈ [EventKind.risk, .submit])
    (localOrderId : ℕ) : BeginsWith "gateway-" (kind.key localOrderId) := by
  have hstem : BeginsWith "gateway-" kind.stem := by
    rcases List.mem_pair.mp hkind with rfl | rfl
    · decide
    · decide
  exact hstem.trans (kind.stem_beginsWith localOrderId)

/-- A key without this prefix marks no dispatch at all. -/
theorem marksOnly_of_avoids (h : ¬BeginsWith "gateway-" eventKey) :
    MarksOnly localOrderId eventKey := by
  rintro kind hkind other rfl
  exact absurd (beginsWith_gateway hkind other) h

/-- Every order whose dispatch was marked is in the store. -/
def MarksRecorded (store : OrderLifecycleStore) : Prop :=
  ∀ kind ∈ [EventKind.risk, .submit], ∀ localOrderId,
    kind.key localOrderId ∈ store.appliedEventKeys → (store.find localOrderId).isSome

/-- In the empty store no dispatch is marked. -/
theorem marksRecorded_empty : empty.MarksRecorded := fun kind _ => records_empty kind.key

/-- Applying an event under a key that marks its own order at most keeps the marks recorded. -/
theorem MarksRecorded.handleEvent (h : store.MarksRecorded)
    (hkey : MarksOnly localOrderId eventKey)
    (decision : OrderLifecycleRecord → Except Refusal OrderLifecycleRecord) :
    (store.handleEvent localOrderId eventKey decision).1.MarksRecorded := fun kind hkind =>
  Records.handleEvent (h kind hkind) (hkey kind hkind) decision

/-- So does marking an order unknown. -/
theorem MarksRecorded.markUnknown (h : store.MarksRecorded)
    (hkey : MarksOnly localOrderId eventKey) (failure : FailureCategory) (reason : String)
    (timestampNs sequence : ℕ) :
    (store.markUnknown localOrderId eventKey failure reason timestampNs
      sequence).1.MarksRecorded := fun kind hkind =>
  Records.markUnknown (h kind hkind) (hkey kind hkind) failure reason timestampNs sequence

/-- Recording an order first creates it and then marks its dispatch. -/
theorem MarksRecorded.recordOrder (h : store.MarksRecorded) {order : NormalizedOrder}
    (hkey : ¬BeginsWith "gateway-" order.request.idempotencyKey)
    (hcreate : (store.create (BrokerGateway.lifecycleRequest order)).2 = true) :
    (BrokerGateway.recordOrder store order).MarksRecorded := fun kind hkind =>
  Records.recordOrder (h kind hkind) (marksOnly_of_avoids hkey kind hkind)
    (fun mark _ => marksOnly_key mark _ kind hkind) hcreate

/-- A mark with a fresh key applies to a record in the state before it. -/
theorem transition_applied {record : OrderLifecycleRecord} {target : OrderLifecycleState}
    {timestampNs sequence : ℕ} (hfind : store.find localOrderId = some record)
    (hkey : eventKey ≠ "") (hfresh : eventKey ∉ store.appliedEventKeys)
    (hage : record.eventIsOlder timestampNs sequence = false)
    (hstate : canTransition record.state target = true) :
    ∃ next, next.state = target ∧ next.lastTimestampNs = timestampNs ∧
      next.lastSequence = sequence ∧
      store.transition localOrderId target eventKey timestampNs sequence =
        (store.commit localOrderId next eventKey, .applied) :=
  ⟨_, rfl, rfl, rfl,
    handleEvent_applied hfind hkey hfresh (decideTransition_eq_ok.mpr ⟨hage, hstate, rfl⟩)⟩

end OrderLifecycleStore

namespace BrokerGateway

open OrderLifecycleStore Machine

variable {gateway : BrokerGateway} {store : OrderLifecycleStore} {order : NormalizedOrder}

/-- A dispatch that is marked has passed the risk check and the submission, in this order. -/
theorem markDispatched_eq {request : OrderRequest} {checked submitted : OrderLifecycleStore}
    (hrisk : store.transition request.localOrderId .riskChecked (riskKey request.localOrderId)
      request.timestampNs ((request.sequence + 1) % 2 ^ 64) = (checked, .applied))
    (hsubmit : checked.transition request.localOrderId .submitted (submitKey request.localOrderId)
      request.timestampNs ((request.sequence + 2) % 2 ^ 64) = (submitted, .applied)) :
    markDispatched store request = (submitted, true) := by
  simp only [markDispatched, markRiskChecked, markSubmitted, hrisk, hsubmit]

/-- **Both marks are set.** They apply to every order that the store has just created. -/
theorem markDispatched_created (h : store.MarksRecorded)
    (hkey : ¬BeginsWith "gateway-" order.request.idempotencyKey)
    (hsequence : order.request.sequence < 2 ^ 64)
    (hcreate : (store.create (lifecycleRequest order)).2 = true) :
    (markDispatched (store.create (lifecycleRequest order)).1 order.request).2 = true := by
  rcases hcreated : store.create (lifecycleRequest order) with ⟨created, success⟩
  rw [hcreated] at hcreate
  rcases create_cases hcreated with ⟨-, hfalse⟩ | ⟨hnone, -, -, -, -, rfl, -⟩
  · exact absurd (hcreate.symm.trans hfalse) (by decide)
  let localOrderId := order.request.localOrderId
  let record := newRecord (lifecycleRequest order)
  let created := store.commit localOrderId record order.request.idempotencyKey
  have hfresh (kind : EventKind) (hkind : kind ∈ [EventKind.risk, .submit]) :
      kind.key localOrderId ∉ created.appliedEventKeys := by
    rw [mem_commit, not_or]
    constructor
    · intro heq
      exact hkey (heq ▸ beginsWith_gateway hkind localOrderId)
    · intro hmem
      have hfound := h kind hkind localOrderId hmem
      rw [show store.find localOrderId = none from hnone] at hfound
      cases hfound
  have hfind : created.find localOrderId = some record := by
    rw [find_commit, if_pos rfl]
  have hage : record.eventIsOlder order.request.timestampNs
      ((order.request.sequence + 1) % 2 ^ 64) = false :=
    @OrderLifecycleRecord.not_older_succ record _ order.request.sequence 0 rfl
      (Nat.mod_eq_of_lt hsequence).symm
  obtain ⟨checked, hstate, htime, hchecked, hrisk⟩ :=
    transition_applied hfind (EventKind.risk.key_ne_empty localOrderId)
      (hfresh .risk (by decide)) hage (by rfl : canTransition _ .riskChecked = true)
  have hage := OrderLifecycleRecord.not_older_succ htime hchecked
  have hfind : (created.commit localOrderId checked (EventKind.risk.key localOrderId)).find
      localOrderId = some checked := by
    rw [find_commit, if_pos rfl]
  have hsubmitFresh : EventKind.submit.key localOrderId ∉
      (created.commit localOrderId checked (EventKind.risk.key localOrderId)).appliedEventKeys := by
    rw [mem_commit, not_or, EventKind.key_inj]
    exact ⟨fun heq => (nomatch heq.1), hfresh .submit (by decide)⟩
  obtain ⟨submitted, -, -, -, hsubmit⟩ :=
    transition_applied hfind (EventKind.submit.key_ne_empty localOrderId) hsubmitFresh hage
      (by rw [hstate]; rfl : canTransition _ .submitted = true)
  rw [EventKind.key_risk] at hrisk hsubmit
  rw [EventKind.key_submit] at hsubmit
  change (markDispatched created order.request).2 = true
  rw [markDispatched_eq hrisk hsubmit]

/-- A dispatch that ends before the adapter's `submit` has changed no order. -/
theorem beginDispatch_refused (h : gateway.lifecycle.MarksRecorded)
    (hkey : ¬BeginsWith "gateway-" order.request.idempotencyKey)
    (hsequence : order.request.sequence < 2 ^ 64) {decision : RiskDecision}
    (hrefused : (gateway.beginDispatch order decision).2.isSome = true) :
    (gateway.beginDispatch order decision).1.lifecycle = gateway.lifecycle := by
  revert hrefused
  unfold beginDispatch
  split
  · exact fun _ => rfl
  · split
    · exact fun _ => rfl
    · have hmarks := markDispatched_created h hkey hsequence
      rcases hcreate : gateway.lifecycle.create (lifecycleRequest order) with ⟨created, success⟩
      rw [hcreate] at hmarks
      cases success with
      | false => exact fun _ => rfl
      | true =>
        dsimp only
        split
        · next marked hmarked =>
          have hboth := hmarks rfl
          rw [hmarked] at hboth
          cases hboth
        · intro hrefused
          cases hrefused

/-- What happens to a gateway. A dispatch and a cancel request are in two parts, before and
after the adapter's own call, and anything may happen in between. -/
inductive Input where
  | setSymbolAlias (canonicalSymbol executionAlias : String)
  | setInstrumentSpec (spec : InstrumentSpec)
  | adapterConnection (connected : Bool)
  | dispatchOrder (order : NormalizedOrder) (finalRiskDecision : RiskDecision)
  | submitReturned (order : NormalizedOrder) (submitted : Bool)
  | requestCancel (request : CancelRequest)
  | cancelReturned (request : CancelRequest) (canceled : Bool)
  | deliver (event : BrokerEvent)

/-- What a dispatch returns, as soon as it returns. -/
abbrev Reply := Option GatewayDispatchResult

/-- A gateway under its inputs. -/
def gateways : Machine BrokerGateway Input Reply where
  step gateway
    | .setSymbolAlias canonicalSymbol executionAlias =>
      (gateway.setSymbolAlias canonicalSymbol executionAlias, none)
    | .setInstrumentSpec spec => (gateway.setInstrumentSpec spec, none)
    | .adapterConnection connected => ({ gateway with adapterConnected := connected }, none)
    | .dispatchOrder order finalRiskDecision => gateway.beginDispatch order finalRiskDecision
    | .submitReturned order submitted => (gateway.finishDispatch order submitted).map id some
    | .requestCancel request => ((gateway.beginCancel request).1, none)
    | .cancelReturned request canceled => ((gateway.finishCancel request canceled).1, none)
    | .deliver (.acknowledgement acknowledgement) =>
      ((gateway.handleAcknowledgement acknowledgement).1, none)
    | .deliver (.execution execution) => ((gateway.handleExecution execution).1, none)
    | .deliver (.cancelResult result) => (gateway.handleCancel result, none)
    | .deliver (.health health) => (gateway.handleHealth health, none)

/-- The key that comes with an input. -/
def Input.suppliedKey : Input → Option String
  | .dispatchOrder order _ => some order.request.idempotencyKey
  | .requestCancel request => some request.idempotencyKey
  | .deliver (.acknowledgement acknowledgement) => some acknowledgement.eventKey
  | .deliver (.execution execution) => some execution.eventKey
  | .deliver (.cancelResult result) => some result.eventKey
  | .deliver (.health health) => some health.eventKey
  | _ => none

/-- The input comes with no key of the gateway's own. -/
def Input.AvoidsGateway (input : Input) : Prop :=
  ∀ eventKey ∈ input.suppliedKey, ¬BeginsWith "gateway-" eventKey

instance (input : Input) : Decidable input.AvoidsGateway :=
  inferInstanceAs (Decidable (∀ eventKey ∈ input.suppliedKey, ¬_))

/-- The keys of the two failures mark no dispatch. -/
private theorem marksOnly_failed (localOrderId : ℕ) :
    MarksOnly localOrderId ("gateway-dispatch-failed-" ++ toString localOrderId) ∧
      MarksOnly localOrderId ("gateway-cancel-dispatch-failed-" ++ toString localOrderId) :=
  ⟨marksOnly_of_beginsWith (beginsWith_append _ _) (by decide) (by decide),
    marksOnly_of_beginsWith (beginsWith_append _ _) (by decide) (by decide)⟩

/-- One step records the order of every mark that it sets. -/
theorem marksRecorded_next (h : gateway.lifecycle.MarksRecorded) {input : Input}
    (havoids : input.AvoidsGateway) : (gateways.next gateway input).lifecycle.MarksRecorded := by
  have hevent (localOrderId : ℕ) {eventKey : String} (hkey : eventKey ∈ input.suppliedKey)
      (decision : OrderLifecycleRecord → Except Refusal OrderLifecycleRecord) :
      (gateway.lifecycle.handleEvent localOrderId eventKey decision).1.MarksRecorded :=
    h.handleEvent (marksOnly_of_avoids (havoids eventKey hkey)) decision
  cases input with
  | setSymbolAlias canonicalSymbol executionAlias => exact h
  | setInstrumentSpec spec => exact h
  | adapterConnection connected => exact h
  | dispatchOrder order decision =>
    change (gateway.beginDispatch order decision).1.lifecycle.MarksRecorded
    rcases gateway.beginDispatch_lifecycle order decision with hsame | ⟨-, -, hcreate, hrecord⟩
    · rw [hsame]
      exact h
    · rw [hrecord]
      exact h.recordOrder (havoids _ rfl) hcreate
  | submitReturned order submitted =>
    change (gateway.finishDispatch order submitted).1.lifecycle.MarksRecorded
    unfold finishDispatch
    split
    · exact h
    · exact h.markUnknown (marksOnly_failed _).1 _ _ _ _
  | requestCancel request =>
    change (gateway.beginCancel request).1.lifecycle.MarksRecorded
    have hcancel := hevent request.localOrderId rfl (decideCancelRequest request)
    unfold beginCancel
    split
    · exact h
    · split
      · next store heq =>
        rw [← OrderLifecycleStore.requestCancel, heq] at hcancel
        exact hcancel
      · exact h
  | cancelReturned request canceled =>
    change (gateway.finishCancel request canceled).1.lifecycle.MarksRecorded
    unfold finishCancel
    split
    · exact h
    · exact h.markUnknown (marksOnly_failed _).2 _ _ _ _
  | deliver event =>
    cases event with
    | acknowledgement acknowledgement =>
      change (gateway.handleAcknowledgement acknowledgement).1.lifecycle.MarksRecorded
      have happlied := hevent acknowledgement.localOrderId rfl
        (decideAcknowledgement acknowledgement)
      unfold handleAcknowledgement
      split
      · next store heq =>
        rw [← applyAcknowledgement, heq] at happlied
        exact happlied
      · exact h
    | execution execution =>
      change (gateway.handleExecution execution).1.lifecycle.MarksRecorded
      have happlied := hevent execution.localOrderId rfl (decideExecution execution)
      unfold handleExecution
      split
      · next store heq =>
        rw [← applyExecution, heq] at happlied
        exact happlied
      · exact h
      · exact h
    | cancelResult result =>
      change (gateway.handleCancel result).lifecycle.MarksRecorded
      have happlied := hevent result.localOrderId rfl (decideCancelResult result)
      unfold handleCancel
      split
      · next store heq =>
        rw [← applyCancelResult, heq] at happlied
        exact happlied
      · exact h
    | health health => exact h

/-- **Failed dispatches.** In every run without foreign keys of the gateway's own form, a dispatch
that ends before the adapter's `submit` leaves the store of orders as it was. -/
theorem failed_dispatch_keeps_orders (hnew : gateway.lifecycle = .empty) {inputs : List Input}
    (havoids : ∀ input ∈ inputs, input.AvoidsGateway)
    (hkey : ¬BeginsWith "gateway-" order.request.idempotencyKey)
    (hsequence : order.request.sequence < 2 ^ 64) {decision : RiskDecision}
    (hfailed : ((gateways.run gateway inputs).beginDispatch order decision).2.isSome = true) :
    ((gateways.run gateway inputs).beginDispatch order decision).1.lifecycle =
      (gateways.run gateway inputs).lifecycle := by
  have hempty : gateway.lifecycle.MarksRecorded := by
    rw [hnew]
    exact marksRecorded_empty
  have hstep (gateway : BrokerGateway) (input : Input) (h : gateway.lifecycle.MarksRecorded)
      (havoids : input.AvoidsGateway) : (gateways.next gateway input).lifecycle.MarksRecorded :=
    marksRecorded_next h havoids
  have halong := gateways.along_of_forall havoids gateway
  have hrun := gateways.invariant_run_of_along hstep hempty halong
  exact beginDispatch_refused hrun hkey hsequence hfailed

/-- An order with the highest sequence number, so that both marks wrap. -/
def wrappingOrder : NormalizedOrder where
  request := { marketRequest ⟨120, 2⟩ ⟨10012, 2⟩ with sequence := 2 ^ 64 - 1 }
  executionSymbol := "SYNTH-USD"
  normalizedQuantity := ⟨120, 2⟩
  normalizedLimitPrice := none
  normalizedStopPrice := none
  normalizedReferencePrice := some ⟨10012, 2⟩
  instrumentVersion := 1

/-- The order is dispatched once; the second dispatch fails and changes no order. -/
theorem failed_dispatch_keeps_orders_wrapping :
    let gateway : BrokerGateway := { adapter := .external, adapterConnected := true }
    let dispatched := gateways.run gateway [.dispatchOrder wrappingOrder { allowed := true }]
    (dispatched.beginDispatch wrappingOrder { allowed := true }).1.lifecycle =
      dispatched.lifecycle := by
  intro gateway dispatched
  apply @failed_dispatch_keeps_orders gateway wrappingOrder rfl
    [.dispatchOrder wrappingOrder { allowed := true }]
  · decide +kernel
  · decide +kernel
  · decide +kernel
  · decide +kernel

end BrokerGateway

end TradeBot
