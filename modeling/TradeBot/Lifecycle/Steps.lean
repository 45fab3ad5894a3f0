import TradeBot.OrderLifecycleStore
import Mathlib.Data.List.ModifyLast

/-!
# What one store operation can do

An event either leaves the store as it was, or it commits the record that its
decision made from the old one. Every operation but `create` is such an event, so
the results about the store need the decisions only.
-/

namespace TradeBot

open Library

/-- A refusal is never reported as applied. -/
theorem Refusal.toResult_ne_applied (refusal : Refusal) : refusal.toResult ≠ .applied := by
  cases refusal <;> decide

namespace OrderLifecycleStore

variable {store store' : OrderLifecycleStore} {localOrderId : ℕ} {eventKey : String}
  {timestampNs sequence : ℕ} {record next : OrderLifecycleRecord}

/-- A commit replaces one record. -/
@[simp] theorem find_commit (store : OrderLifecycleStore) (localOrderId : ℕ)
    (record : OrderLifecycleRecord) (eventKey : String) (other : ℕ) :
    (store.commit localOrderId record eventKey).find other =
      if other = localOrderId then some record else store.find other := by
  by_cases h : other = localOrderId
  · rw [if_pos h, h]
    exact AList.lookup_insert _
  · rw [if_neg h]
    exact AList.lookup_insert_ne h

/-- And adds one key. -/
@[simp] theorem mem_commit (store : OrderLifecycleStore) (localOrderId : ℕ)
    (record : OrderLifecycleRecord) (eventKey key : String) :
    key ∈ (store.commit localOrderId record eventKey).appliedEventKeys ↔
      key = eventKey ∨ key ∈ store.appliedEventKeys :=
  Finset.mem_insert

/-- An empty store has no record. -/
@[simp] theorem find_empty (localOrderId : ℕ) : empty.find localOrderId = none := rfl

/-- An event that does not take effect changes nothing; one that does commits its
decision under a fresh key. -/
theorem handleEvent_cases {decision : OrderLifecycleRecord → Except Refusal OrderLifecycleRecord}
    {result : LifecycleApplyResult}
    (h : store.handleEvent localOrderId eventKey decision = (store', result)) :
    (store' = store ∧ result ≠ .applied) ∨
      ∃ record next, store.find localOrderId = some record ∧ eventKey ≠ "" ∧
        eventKey ∉ store.appliedEventKeys ∧ decision record = .ok next ∧
        store' = store.commit localOrderId next eventKey ∧ result = .applied := by
  unfold handleEvent at h
  split at h
  · cases h
    exact Or.inl ⟨rfl, by decide⟩
  · next record hfind =>
    split at h
    · cases h
      exact Or.inl ⟨rfl, by decide⟩
    · next hkey =>
      split at h
      · cases h
        exact Or.inl ⟨rfl, by decide⟩
      · next hfresh =>
        split at h
        · next refusal _ =>
          cases h
          exact Or.inl ⟨rfl, Refusal.toResult_ne_applied refusal⟩
        · next next hdecision =>
          cases h
          exact Or.inr ⟨record, next, hfind, hkey, hfresh, hdecision, rfl, rfl⟩

/-- An event with a fresh key takes effect when its decision accepts. -/
theorem handleEvent_applied
    {decision : OrderLifecycleRecord → Except Refusal OrderLifecycleRecord}
    (hfind : store.find localOrderId = some record) (hkey : eventKey ≠ "")
    (hfresh : eventKey ∉ store.appliedEventKeys) (hdecision : decision record = .ok next) :
    store.handleEvent localOrderId eventKey decision =
      (store.commit localOrderId next eventKey, .applied) := by
  simp only [handleEvent, hfind, if_neg hkey, if_neg hfresh, hdecision]

/-- A known key is answered as a duplicate, before the decision is asked. -/
theorem handleEvent_duplicate
    (decision : OrderLifecycleRecord → Except Refusal OrderLifecycleRecord)
    (hfind : (store.find localOrderId).isSome) (hkey : eventKey ≠ "")
    (hknown : eventKey ∈ store.appliedEventKeys) :
    store.handleEvent localOrderId eventKey decision = (store, .duplicate) := by
  obtain ⟨record, hrecord⟩ := Option.isSome_iff_exists.mp hfind
  simp only [handleEvent, hrecord, if_neg hkey, if_pos hknown]

/-- `markUnknown` is an event whose decision also writes the failure. -/
theorem markUnknown_eq_handleEvent (store : OrderLifecycleStore) (localOrderId : ℕ)
    (eventKey : String) (failure : FailureCategory) (reason : String)
    (timestampNs sequence : ℕ) :
    store.markUnknown localOrderId eventKey failure reason timestampNs sequence =
      store.handleEvent localOrderId eventKey fun record =>
        (decideTransition .unknown eventKey timestampNs sequence record).map
          (withFailure failure reason) := by
  unfold markUnknown transition handleEvent
  cases store.find localOrderId with
  | none => rfl
  | some record =>
    by_cases hkey : eventKey = ""
    · simp only [if_pos hkey]
    · by_cases hknown : eventKey ∈ store.appliedEventKeys
      · simp only [if_neg hkey, if_pos hknown]
      · simp only [if_neg hkey, if_neg hknown]
        cases decideTransition .unknown eventKey timestampNs sequence record with
        | error refusal => cases refusal <;> rfl
        | ok next =>
          have hfound := find_commit store localOrderId next eventKey localOrderId
          rw [if_pos rfl] at hfound
          simp only [hfound, Except.map]
          simp only [commit, AList.insert_insert]

/-- What an event names and how it decides. -/
structure Event where
  localOrderId : ℕ
  eventKey : String
  decision : OrderLifecycleRecord → Except Refusal OrderLifecycleRecord

/-- The event of an operation. Only `create` is none. -/
def Operation.toEvent : Operation → Option Event
  | .create _ => none
  | .markRiskChecked id key ts seq => some ⟨id, key, decideTransition .riskChecked key ts seq⟩
  | .markSubmitted id key ts seq => some ⟨id, key, decideTransition .submitted key ts seq⟩
  | .applyAcknowledgement ack =>
    some ⟨ack.localOrderId, ack.eventKey, decideAcknowledgement ack⟩
  | .applyExecution execution =>
    some ⟨execution.localOrderId, execution.eventKey, decideExecution execution⟩
  | .requestCancel request =>
    some ⟨request.localOrderId, request.idempotencyKey, decideCancelRequest request⟩
  | .applyCancelResult result =>
    some ⟨result.localOrderId, result.eventKey, decideCancelResult result⟩
  | .markTimeout id key ts seq => some ⟨id, key, decideTransition .timeout key ts seq⟩
  | .markUnknown id key failure reason ts seq =>
    some ⟨id, key, fun record => (decideTransition .unknown key ts seq record).map
      (withFailure failure reason)⟩
  | .applyReconciliation event =>
    some ⟨event.localOrderId, event.eventKey, decideReconciliation event⟩

/-- The operation of an event handles that event. -/
theorem step_of_toEvent {op : Operation} {event : Event} (h : op.toEvent = some event)
    (store : OrderLifecycleStore) :
    lifecycle.step store op =
      (store.handleEvent event.localOrderId event.eventKey event.decision).map id .event := by
  cases op with
  | create request => cases h
  | markUnknown id key failure reason ts seq =>
    cases h
    simp only [lifecycle, markUnknown_eq_handleEvent]
  | _ =>
    cases h
    rfl

/-- `create` writes one fresh record under a fresh key, or changes nothing. -/
theorem create_cases {request : OrderRequest} {success : Bool}
    (h : store.create request = (store', success)) :
    (store' = store ∧ success = false) ∨
      (store.find request.localOrderId = none ∧ request.quantity.isPositive = true ∧
        request.quantity.scale ≤ Decimal64.maxScale ∧ request.idempotencyKey ≠ "" ∧
        request.idempotencyKey ∉ store.appliedEventKeys ∧
        store' = store.commit request.localOrderId (newRecord request) request.idempotencyKey ∧
        success = true) := by
  unfold create at h
  split at h
  · cases h
    exact Or.inl ⟨rfl, rfl⟩
  · next hvalid =>
    split at h
    · cases h
      exact Or.inl ⟨rfl, rfl⟩
    · next hfresh =>
      cases h
      simp only [not_or, Bool.not_eq_true, Bool.not_eq_false', not_lt] at hvalid hfresh
      obtain ⟨-, -, hpositive, hkey, hscale⟩ := hvalid
      exact Or.inr ⟨AList.lookup_eq_none.mpr hfresh.1, hpositive, hscale, hkey, hfresh.2, rfl, rfl⟩

/-- One step of the store: nothing, a new record, or one revised record. -/
theorem step_cases (store : OrderLifecycleStore) (op : Operation) :
    (lifecycle.next store op = store ∧ ¬(lifecycle.output store op).tookEffect) ∨
      (∃ request, op = .create request ∧ store.find request.localOrderId = none ∧
        request.quantity.isPositive = true ∧
        lifecycle.next store op =
          store.commit request.localOrderId (newRecord request) request.idempotencyKey ∧
        (lifecycle.output store op).tookEffect) ∨
      ∃ event record next, op.toEvent = some event ∧
        store.find event.localOrderId = some record ∧ event.eventKey ≠ "" ∧
        event.eventKey ∉ store.appliedEventKeys ∧ event.decision record = .ok next ∧
        lifecycle.next store op = store.commit event.localOrderId next event.eventKey ∧
        (lifecycle.output store op).tookEffect := by
  cases hevent : op.toEvent with
  | none =>
    cases op with
    | create request =>
      rcases hcreate : store.create request with ⟨store', success⟩
      have hstep : lifecycle.step store (.create request) = (store', .created success) := by
        simp only [lifecycle, hcreate, Prod.map_apply, id_eq]
      rw [Machine.next, Machine.output, hstep]
      rcases create_cases hcreate with ⟨rfl, rfl⟩ | ⟨hfind, hpositive, -, -, -, hstore, hdone⟩
      · exact Or.inl ⟨rfl, Bool.false_ne_true⟩
      · exact Or.inr (Or.inl ⟨request, rfl, hfind, hpositive, hstore, hdone⟩)
    | _ => cases hevent
  | some event =>
    rcases hhandle : store.handleEvent event.localOrderId event.eventKey event.decision
      with ⟨store', result⟩
    have hstep : lifecycle.step store op = (store', .event result) := by
      rw [step_of_toEvent hevent, hhandle, Prod.map_apply, id_eq]
    rw [Machine.next, Machine.output, hstep]
    rcases handleEvent_cases hhandle with
      ⟨rfl, hresult⟩ | ⟨record, next, hfind, hkey, hfresh, hdecision, hstore, hdone⟩
    · exact Or.inl ⟨rfl, hresult⟩
    · exact Or.inr (Or.inr
        ⟨event, record, next, rfl, hfind, hkey, hfresh, hdecision, hstore, hdone⟩)

end OrderLifecycleStore

end TradeBot
