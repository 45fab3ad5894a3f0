import TradeBot.BrokerAdapterContracts
import TradeBot.Library.KeyedTotals
import TradeBot.Library.Machine
import Mathlib.Data.Finset.Insert

/-!
# The order lifecycle store

`OrderLifecycleStore.cpp`: one record for each local order and the set of event
keys that were applied. Every event handler first looks the order up, refuses an
empty key and answers a known key as a duplicate; then it decides from the record,
and commits the new record together with the key or commits nothing.
-/

namespace TradeBot

open Library

/-- `LifecycleApplyResult` -/
inductive LifecycleApplyResult where
  | applied
  | duplicate
  | unknownOrder
  | invalidEvent
  | invalidTransition
  deriving DecidableEq

/-- `LifecycleAuditEntry` -/
structure LifecycleAuditEntry where
  state : OrderLifecycleState
  reconciledState : Option OrderLifecycleState
  eventKey : String
  failure : FailureCategory
  reason : String
  timestampNs : ℕ
  sequence : ℕ
  deriving DecidableEq

/-- `OrderLifecycleRecord` -/
structure OrderLifecycleRecord where
  request : OrderRequest
  state : OrderLifecycleState := .created
  preCancelState : OrderLifecycleState := .created
  externalOrderId : String := ""
  filledQuantity : Decimal64 := {}
  remainingQuantity : Decimal64 := {}
  failure : FailureCategory := .none
  reason : String := ""
  lastTimestampNs : ℕ := 0
  lastSequence : ℕ := 0
  reconciledState : Option OrderLifecycleState := none
  auditHistory : List LifecycleAuditEntry := []
  deriving DecidableEq

/-- `isTerminal` -/
def isTerminal (state : OrderLifecycleState) : Bool :=
  match state with
  | .filled | .canceled | .expired | .rejected | .reconciled => true
  | _ => false

/-- `canTransition` -/
def canTransition (origin target : OrderLifecycleState) : Bool :=
  !isTerminal origin &&
    match target with
    | .riskChecked => decide (origin = .created)
    | .submitted => decide (origin = .riskChecked)
    | .accepted | .rejected => decide (origin = .submitted)
    | .partiallyFilled | .filled => decide (origin ∈
        [.submitted, .accepted, .partiallyFilled, .cancelRequested, .timeout, .unknown])
    | .cancelRequested => decide (origin ∈ [.accepted, .partiallyFilled])
    | .canceled | .expired => decide (origin ∈
        [.accepted, .partiallyFilled, .cancelRequested, .unknown])
    | .timeout | .unknown => decide (origin ∈
        [.submitted, .accepted, .partiallyFilled, .cancelRequested, .timeout])
    | .reconciled => decide (origin ∈ [.unknown, .timeout, .cancelRequested, .partiallyFilled])
    | .created => false

namespace OrderLifecycleRecord

/-- `eventIsOlder` -/
def eventIsOlder (record : OrderLifecycleRecord) (timestampNs sequence : ℕ) : Bool :=
  if 0 < sequence ∧ 0 < record.lastSequence then decide (sequence ≤ record.lastSequence)
  else decide (0 < timestampNs ∧ 0 < record.lastTimestampNs ∧ timestampNs < record.lastTimestampNs)

/-- `validQuantities` -/
def validQuantities (record : OrderLifecycleRecord) (cumulativeFilled remaining : Decimal64) :
    Bool :=
  if cumulativeFilled.scale ≠ record.request.quantity.scale
      ∨ remaining.scale ≠ record.request.quantity.scale
      ∨ cumulativeFilled.units < 0 ∨ remaining.units < 0 then false
  else if Int64.maxValue - remaining.units < cumulativeFilled.units then false
  else decide (cumulativeFilled.units + remaining.units = record.request.quantity.units)

/-- `appendAudit` -/
def appendAudit (record : OrderLifecycleRecord) (eventKey : String)
    (timestampNs sequence : ℕ) (reconciledState : Option OrderLifecycleState := none) :
    OrderLifecycleRecord :=
  { record with auditHistory := record.auditHistory ++ [{
      state := record.state
      reconciledState := reconciledState
      eventKey := eventKey
      failure := record.failure
      reason := record.reason
      timestampNs := timestampNs
      sequence := sequence }] }

end OrderLifecycleRecord

/-- Why a handler refuses an event after the checks that all handlers share. -/
inductive Refusal where
  | invalidEvent
  | invalidTransition
  deriving DecidableEq

/-- The answer that reports a refusal. -/
def Refusal.toResult : Refusal → LifecycleApplyResult
  | .invalidEvent => .invalidEvent
  | .invalidTransition => .invalidTransition

/-- The records and the applied event keys. -/
structure OrderLifecycleStore where
  records : KeyedMap ℕ OrderLifecycleRecord
  appliedEventKeys : Finset String

namespace OrderLifecycleStore

/-- A newly constructed store. -/
def empty : OrderLifecycleStore := ⟨∅, ∅⟩

/-- `find` -/
def find (store : OrderLifecycleStore) (localOrderId : ℕ) : Option OrderLifecycleRecord :=
  store.records.lookup localOrderId

/-- The record that `create` makes. -/
def newRecord (request : OrderRequest) : OrderLifecycleRecord :=
  ({ request := request
     filledQuantity := ⟨0, request.quantity.scale⟩
     remainingQuantity := request.quantity
     lastTimestampNs := request.timestampNs
     lastSequence := request.sequence } : OrderLifecycleRecord).appendAudit
    request.idempotencyKey request.timestampNs request.sequence

/-- A record and its event key are written together. -/
def commit (store : OrderLifecycleStore) (localOrderId : ℕ) (record : OrderLifecycleRecord)
    (eventKey : String) : OrderLifecycleStore where
  records := store.records.insert localOrderId record
  appliedEventKeys := insert eventKey store.appliedEventKeys

/-- `create` -/
def create (store : OrderLifecycleStore) (request : OrderRequest) : OrderLifecycleStore × Bool :=
  if request.localOrderId = 0 ∨ request.canonicalSymbol = "" ∨ !request.quantity.isPositive
      ∨ request.idempotencyKey = "" ∨ Decimal64.maxScale < request.quantity.scale then
    (store, false)
  else if request.localOrderId ∈ store.records
      ∨ request.idempotencyKey ∈ store.appliedEventKeys then (store, false)
  else
    (store.commit request.localOrderId (newRecord request) request.idempotencyKey, true)

/-- The frame of every event handler, around the decision that it takes from the
record: the lookup, the check of the key, and the commit. -/
def handleEvent (store : OrderLifecycleStore) (localOrderId : ℕ) (eventKey : String)
    (decision : OrderLifecycleRecord → Except Refusal OrderLifecycleRecord) :
    OrderLifecycleStore × LifecycleApplyResult :=
  match store.find localOrderId with
  | none => (store, .unknownOrder)
  | some record =>
    if eventKey = "" then (store, .invalidEvent)
    else if eventKey ∈ store.appliedEventKeys then (store, .duplicate)
    else match decision record with
      | .error refusal => (store, refusal.toResult)
      | .ok next => (store.commit localOrderId next eventKey, .applied)

/-- The decision of `transition`. -/
def decideTransition (next : OrderLifecycleState) (eventKey : String)
    (timestampNs sequence : ℕ) (record : OrderLifecycleRecord) :
    Except Refusal OrderLifecycleRecord :=
  if record.eventIsOlder timestampNs sequence then .error .invalidEvent
  else if !canTransition record.state next then .error .invalidTransition
  else .ok ({ record with
    state := next
    lastTimestampNs := timestampNs
    lastSequence := sequence }.appendAudit eventKey timestampNs sequence)

/-- `transition` -/
def transition (store : OrderLifecycleStore) (localOrderId : ℕ) (next : OrderLifecycleState)
    (eventKey : String) (timestampNs sequence : ℕ) :
    OrderLifecycleStore × LifecycleApplyResult :=
  store.handleEvent localOrderId eventKey (decideTransition next eventKey timestampNs sequence)

/-- `markRiskChecked` -/
def markRiskChecked (store : OrderLifecycleStore) (localOrderId : ℕ) (eventKey : String)
    (timestampNs sequence : ℕ) : OrderLifecycleStore × LifecycleApplyResult :=
  store.transition localOrderId .riskChecked eventKey timestampNs sequence

/-- `markSubmitted` -/
def markSubmitted (store : OrderLifecycleStore) (localOrderId : ℕ) (eventKey : String)
    (timestampNs sequence : ℕ) : OrderLifecycleStore × LifecycleApplyResult :=
  store.transition localOrderId .submitted eventKey timestampNs sequence

/-- `markTimeout` -/
def markTimeout (store : OrderLifecycleStore) (localOrderId : ℕ) (eventKey : String)
    (timestampNs sequence : ℕ) : OrderLifecycleStore × LifecycleApplyResult :=
  store.transition localOrderId .timeout eventKey timestampNs sequence

/-- The failure and reason that `markUnknown` writes into a record and into its
last audit entry. -/
def withFailure (failure : FailureCategory) (reason : String) (record : OrderLifecycleRecord) :
    OrderLifecycleRecord :=
  { record with
    failure := failure
    reason := reason
    auditHistory := record.auditHistory.modifyLast fun audit =>
      { audit with failure := failure, reason := reason } }

/-- `markUnknown` -/
def markUnknown (store : OrderLifecycleStore) (localOrderId : ℕ) (eventKey : String)
    (failure : FailureCategory) (reason : String) (timestampNs sequence : ℕ) :
    OrderLifecycleStore × LifecycleApplyResult :=
  match store.transition localOrderId .unknown eventKey timestampNs sequence with
  | (next, .applied) =>
    match next.find localOrderId with
    | none => (next, .applied)
    | some record =>
      let records := next.records.insert localOrderId (withFailure failure reason record)
      ({ next with records := records }, .applied)
  | refused => refused

/-- The decision of `applyAcknowledgement`. -/
def decideAcknowledgement (ack : OrderAcknowledgement) (record : OrderLifecycleRecord) :
    Except Refusal OrderLifecycleRecord :=
  if record.eventIsOlder ack.timestampNs ack.sequence then .error .invalidEvent
  else if ack.accepted ∧ ack.externalOrderId = "" then .error .invalidEvent
  else
    let next : OrderLifecycleState := if ack.accepted then .accepted else .rejected
    if !canTransition record.state next then .error .invalidTransition
    else .ok ({ record with
      state := next
      externalOrderId := ack.externalOrderId
      failure := ack.failure
      reason := ack.reason
      lastTimestampNs := ack.timestampNs
      lastSequence := ack.sequence }.appendAudit ack.eventKey ack.timestampNs ack.sequence)

/-- `applyAcknowledgement` -/
def applyAcknowledgement (store : OrderLifecycleStore) (ack : OrderAcknowledgement) :
    OrderLifecycleStore × LifecycleApplyResult :=
  store.handleEvent ack.localOrderId ack.eventKey (decideAcknowledgement ack)

/-- The decision of `applyExecution`. -/
def decideExecution (execution : ExecutionEvent) (record : OrderLifecycleRecord) :
    Except Refusal OrderLifecycleRecord :=
  if record.eventIsOlder execution.timestampNs execution.sequence
      ∨ !record.validQuantities execution.cumulativeFilledQuantity execution.remainingQuantity
      ∨ execution.cumulativeFilledQuantity.units < record.filledQuantity.units then
    .error .invalidEvent
  else
    let next : OrderLifecycleState :=
      if execution.remainingQuantity.isZero then .filled else .partiallyFilled
    if !canTransition record.state next then .error .invalidTransition
    else .ok ({ record with
      state := next
      externalOrderId := execution.externalOrderId
      filledQuantity := execution.cumulativeFilledQuantity
      remainingQuantity := execution.remainingQuantity
      lastTimestampNs := execution.timestampNs
      lastSequence := execution.sequence }.appendAudit execution.eventKey
        execution.timestampNs execution.sequence)

/-- `applyExecution` -/
def applyExecution (store : OrderLifecycleStore) (execution : ExecutionEvent) :
    OrderLifecycleStore × LifecycleApplyResult :=
  store.handleEvent execution.localOrderId execution.eventKey (decideExecution execution)

/-- The decision of `requestCancel`. -/
def decideCancelRequest (request : CancelRequest) (record : OrderLifecycleRecord) :
    Except Refusal OrderLifecycleRecord :=
  if record.eventIsOlder request.timestampNs request.sequence
      ∨ !canTransition record.state .cancelRequested then .error .invalidTransition
  else .ok ({ record with
    preCancelState := record.state
    state := .cancelRequested
    lastTimestampNs := request.timestampNs
    lastSequence := request.sequence }.appendAudit request.idempotencyKey
      request.timestampNs request.sequence)

/-- `requestCancel` -/
def requestCancel (store : OrderLifecycleStore) (request : CancelRequest) :
    OrderLifecycleStore × LifecycleApplyResult :=
  store.handleEvent request.localOrderId request.idempotencyKey (decideCancelRequest request)

/-- The state that a cancel result leads to: a rejected cancel restores the state
before the request. -/
def cancelOutcome (disposition : CancelDisposition) (record : OrderLifecycleRecord) :
    Except Refusal OrderLifecycleState :=
  match disposition with
  | .accepted | .alreadyCanceled => .ok .canceled
  | .alreadyFilled => if record.remainingQuantity.isZero then .ok .filled else .error .invalidEvent
  | .rejected => .ok record.preCancelState
  | .unknown => .ok .unknown

/-- The decision of `applyCancelResult`. -/
def decideCancelResult (result : CancelResult) (record : OrderLifecycleRecord) :
    Except Refusal OrderLifecycleRecord :=
  if record.eventIsOlder result.timestampNs result.sequence
      ∨ record.state ≠ .cancelRequested then .error .invalidTransition
  else
    match cancelOutcome result.disposition record with
    | .error refusal => .error refusal
    | .ok next => .ok ({ record with
        state := next
        failure := result.failure
        reason := result.reason
        lastTimestampNs := result.timestampNs
        lastSequence := result.sequence }.appendAudit result.eventKey
          result.timestampNs result.sequence)

/-- `applyCancelResult` -/
def applyCancelResult (store : OrderLifecycleStore) (result : CancelResult) :
    OrderLifecycleStore × LifecycleApplyResult :=
  store.handleEvent result.localOrderId result.eventKey (decideCancelResult result)

/-- The arguments of `applyReconciliation`. -/
structure Reconciliation where
  localOrderId : ℕ
  resolvedState : OrderLifecycleState
  cumulativeFilled : Decimal64
  remaining : Decimal64
  eventKey : String
  timestampNs : ℕ
  sequence : ℕ
  deriving DecidableEq

/-- The states that a reconciliation may resolve to. -/
def isResolvable (state : OrderLifecycleState) : Bool :=
  decide (state ∈ [.filled, .partiallyFilled, .canceled, .expired, .rejected])

/-- The decision of `applyReconciliation`. -/
def decideReconciliation (event : Reconciliation) (record : OrderLifecycleRecord) :
    Except Refusal OrderLifecycleRecord :=
  if record.eventIsOlder event.timestampNs event.sequence
      ∨ !record.validQuantities event.cumulativeFilled event.remaining then .error .invalidEvent
  else if !canTransition record.state .reconciled then .error .invalidTransition
  else if !isResolvable event.resolvedState then .error .invalidTransition
  else .ok ({ record with
    state := .reconciled
    reconciledState := some event.resolvedState
    filledQuantity := event.cumulativeFilled
    remainingQuantity := event.remaining
    lastTimestampNs := event.timestampNs
    lastSequence := event.sequence }.appendAudit event.eventKey event.timestampNs
      event.sequence (some event.resolvedState))

/-- `applyReconciliation` -/
def applyReconciliation (store : OrderLifecycleStore) (event : Reconciliation) :
    OrderLifecycleStore × LifecycleApplyResult :=
  store.handleEvent event.localOrderId event.eventKey (decideReconciliation event)

/-- The operations of the store, with their arguments. -/
inductive Operation where
  | create (request : OrderRequest)
  | markRiskChecked (localOrderId : ℕ) (eventKey : String) (timestampNs sequence : ℕ)
  | markSubmitted (localOrderId : ℕ) (eventKey : String) (timestampNs sequence : ℕ)
  | applyAcknowledgement (ack : OrderAcknowledgement)
  | applyExecution (execution : ExecutionEvent)
  | requestCancel (request : CancelRequest)
  | applyCancelResult (result : CancelResult)
  | markTimeout (localOrderId : ℕ) (eventKey : String) (timestampNs sequence : ℕ)
  | markUnknown (localOrderId : ℕ) (eventKey : String) (failure : FailureCategory)
      (reason : String) (timestampNs sequence : ℕ)
  | applyReconciliation (event : Reconciliation)
  deriving DecidableEq

/-- What an operation returns: `create` a truth value, the others a result. -/
inductive Answer where
  | created (success : Bool)
  | event (result : LifecycleApplyResult)
  deriving DecidableEq

/-- The answers of an operation that took effect. -/
def Answer.tookEffect : Answer → Prop
  | .created success => success = true
  | .event result => result = .applied

instance : DecidablePred Answer.tookEffect := fun answer => by
  cases answer <;> exact inferInstanceAs (Decidable (_ = _))

/-- The store under its operations. -/
def lifecycle : Machine OrderLifecycleStore Operation Answer where
  step store op := match op with
    | .create request => (store.create request).map id .created
    | .markRiskChecked localOrderId eventKey timestampNs sequence =>
      (store.markRiskChecked localOrderId eventKey timestampNs sequence).map id .event
    | .markSubmitted localOrderId eventKey timestampNs sequence =>
      (store.markSubmitted localOrderId eventKey timestampNs sequence).map id .event
    | .applyAcknowledgement ack => (store.applyAcknowledgement ack).map id .event
    | .applyExecution execution => (store.applyExecution execution).map id .event
    | .requestCancel request => (store.requestCancel request).map id .event
    | .applyCancelResult result => (store.applyCancelResult result).map id .event
    | .markTimeout localOrderId eventKey timestampNs sequence =>
      (store.markTimeout localOrderId eventKey timestampNs sequence).map id .event
    | .markUnknown localOrderId eventKey failure reason timestampNs sequence =>
      (store.markUnknown localOrderId eventKey failure reason timestampNs sequence).map id .event
    | .applyReconciliation event => (store.applyReconciliation event).map id .event

end OrderLifecycleStore

end TradeBot
