import TradeBot.Lifecycle.Records

/-!
# The checks of an operation

An event takes effect exactly when it names a known order, brings a new key, is not
older than the last event of the order and passes the checks of its own handler. The
handlers differ in the last part only, which is a predicate of the record.
-/

namespace TradeBot

open Library

namespace OrderLifecycleStore

/-- The order that an operation names. -/
def Operation.localOrderId : Operation → ℕ
  | .create request => request.localOrderId
  | .markRiskChecked localOrderId _ _ _ => localOrderId
  | .markSubmitted localOrderId _ _ _ => localOrderId
  | .applyAcknowledgement ack => ack.localOrderId
  | .applyExecution execution => execution.localOrderId
  | .requestCancel request => request.localOrderId
  | .applyCancelResult result => result.localOrderId
  | .markTimeout localOrderId _ _ _ => localOrderId
  | .markUnknown localOrderId _ _ _ _ _ => localOrderId
  | .applyReconciliation event => event.localOrderId

/-- The key that an operation brings. -/
def Operation.eventKey : Operation → String
  | .create request => request.idempotencyKey
  | .markRiskChecked _ eventKey _ _ => eventKey
  | .markSubmitted _ eventKey _ _ => eventKey
  | .applyAcknowledgement ack => ack.eventKey
  | .applyExecution execution => execution.eventKey
  | .requestCancel request => request.idempotencyKey
  | .applyCancelResult result => result.eventKey
  | .markTimeout _ eventKey _ _ => eventKey
  | .markUnknown _ eventKey _ _ _ _ => eventKey
  | .applyReconciliation event => event.eventKey

/-- What the handler of an event asks of the record, besides the age of the event. A
request to create is no event. -/
def Operation.checks : Operation → OrderLifecycleRecord → Prop
  | .create _, _ => False
  | .markRiskChecked _ _ _ _, record => canTransition record.state .riskChecked = true
  | .markSubmitted _ _ _ _, record => canTransition record.state .submitted = true
  | .applyAcknowledgement ack, record =>
    (ack.accepted = true → ack.externalOrderId ≠ "") ∧
      canTransition record.state (if ack.accepted then .accepted else .rejected) = true
  | .applyExecution execution, record =>
    record.validQuantities execution.cumulativeFilledQuantity execution.remainingQuantity = true ∧
      ¬execution.cumulativeFilledQuantity.units < record.filledQuantity.units ∧
      canTransition record.state
        (if execution.remainingQuantity.isZero then .filled else .partiallyFilled) = true
  | .requestCancel _, record => canTransition record.state .cancelRequested = true
  | .applyCancelResult result, record =>
    record.state = .cancelRequested ∧
      (result.disposition = .alreadyFilled → record.remainingQuantity.isZero = true)
  | .markTimeout _ _ _ _, record => canTransition record.state .timeout = true
  | .markUnknown _ _ _ _ _ _, record => canTransition record.state .unknown = true
  | .applyReconciliation event, record =>
    record.validQuantities event.cumulativeFilled event.remaining = true ∧
      canTransition record.state .reconciled = true ∧ isResolvable event.resolvedState = true

variable {store : OrderLifecycleStore} {op : Operation} {event : Event}
  {record next : OrderLifecycleRecord}

/-- The event of an operation has its order and its key. -/
theorem toEvent_names (h : op.toEvent = some event) :
    event.localOrderId = op.localOrderId ∧ event.eventKey = op.eventKey := by
  cases op <;> cases h <;> exact ⟨rfl, rfl⟩

/-- The outcome of a cancel is refused only when it claims a fill that has not happened. -/
private theorem cancelOutcome_isOk {disposition : CancelDisposition} :
    (∃ outcome, cancelOutcome disposition record = .ok outcome) ↔
      (disposition = .alreadyFilled → record.remainingQuantity.isZero = true) := by
  cases disposition with
  | alreadyFilled =>
    rw [cancelOutcome]
    cases record.remainingQuantity.isZero <;> simp
  | _ => simp [cancelOutcome]

/-- **A decision accepts exactly the events that are not older and pass its checks.** -/
theorem decision_isOk_iff (h : op.toEvent = some event) :
    (∃ next, event.decision record = .ok next) ↔
      record.eventIsOlder op.timestampNs op.sequence = false ∧ op.checks record := by
  cases op with
  | create request => cases h
  | markUnknown id key failure reason ts seq =>
    cases h
    constructor
    · rintro ⟨next, hnext⟩
      obtain ⟨revised, hrevised, -⟩ := map_eq_ok.mp hnext
      obtain ⟨hnewer, hmove, -⟩ := decideTransition_eq_ok.mp hrevised
      exact ⟨hnewer, hmove⟩
    · rintro ⟨hnewer, hmove⟩
      exact ⟨_, map_eq_ok.mpr ⟨_, decideTransition_eq_ok.mpr ⟨hnewer, hmove, rfl⟩, rfl⟩⟩
  | applyAcknowledgement ack =>
    cases h
    simp only [decideAcknowledgement_eq_ok, exists_and_left, exists_eq, and_true]
    rfl
  | applyExecution execution =>
    cases h
    simp only [decideExecution_eq_ok, exists_and_left, exists_eq, and_true]
    rfl
  | requestCancel request =>
    cases h
    simp only [decideCancelRequest_eq_ok, exists_and_left, exists_eq, and_true]
    rfl
  | applyCancelResult result =>
    cases h
    rw [Operation.checks, ← cancelOutcome_isOk]
    constructor
    · rintro ⟨next, hnext⟩
      obtain ⟨hnewer, hstate, outcome, houtcome, -⟩ := decideCancelResult_eq_ok.mp hnext
      exact ⟨hnewer, hstate, outcome, houtcome⟩
    · rintro ⟨hnewer, hstate, outcome, houtcome⟩
      exact ⟨_, decideCancelResult_eq_ok.mpr ⟨hnewer, hstate, outcome, houtcome, rfl⟩⟩
  | applyReconciliation event =>
    cases h
    simp only [decideReconciliation_eq_ok, exists_and_left, exists_eq, and_true]
    rfl
  | _ =>
    cases h
    simp only [decideTransition_eq_ok, exists_and_left, exists_eq, and_true]
    rfl

/-- An event finds its order, brings a new key and passes the checks of its handler. Only
its age is left open. -/
structure Admitted (store : OrderLifecycleStore) (op : Operation)
    (record : OrderLifecycleRecord) : Prop where
  find_eq : store.find op.localOrderId = some record
  key_ne : op.eventKey ≠ ""
  key_fresh : op.eventKey ∉ store.appliedEventKeys
  checks : op.checks record

/-- What does not take effect changes nothing. -/
theorem next_of_not_tookEffect (h : ¬(lifecycle.output store op).tookEffect) :
    lifecycle.next store op = store := by
  rcases step_cases store op with ⟨hsame, -⟩ | ⟨-, -, -, -, -, hdone⟩ |
    ⟨-, -, -, -, -, -, -, -, -, hdone⟩
  · exact hsame
  · exact absurd hdone h
  · exact absurd hdone h

/-- An event that takes effect is admitted and not older. -/
theorem admitted_of_decision (hevent : op.toEvent = some event)
    (hfind : store.find event.localOrderId = some record) (hkey : event.eventKey ≠ "")
    (hfresh : event.eventKey ∉ store.appliedEventKeys)
    (haccepted : event.decision record = .ok next) :
    Admitted store op record ∧ record.eventIsOlder op.timestampNs op.sequence = false := by
  obtain ⟨hid, hname⟩ := toEvent_names hevent
  rw [hid] at hfind
  rw [hname] at hkey hfresh
  obtain ⟨hnewer, hchecks⟩ := (decision_isOk_iff hevent).mp ⟨next, haccepted⟩
  exact ⟨⟨hfind, hkey, hfresh, hchecks⟩, hnewer⟩

/-- What takes effect is a new order or an admitted event that is not older. -/
theorem admitted_of_tookEffect (h : (lifecycle.output store op).tookEffect) :
    (∃ request, op = .create request ∧ store.find request.localOrderId = none ∧
      lifecycle.next store op =
        store.commit request.localOrderId (newRecord request) request.idempotencyKey) ∨
    ∃ event record next, op.toEvent = some event ∧ Admitted store op record ∧
      record.eventIsOlder op.timestampNs op.sequence = false ∧ event.decision record = .ok next ∧
      lifecycle.next store op = store.commit op.localOrderId next op.eventKey := by
  rcases step_cases store op with ⟨-, hrefused⟩ | ⟨request, rfl, hfind, -, hnext, -⟩ |
    ⟨event, record, next, hevent, hfind, hkey, hfresh, haccepted, hnext, -⟩
  · exact absurd h hrefused
  · exact Or.inl ⟨request, rfl, hfind, hnext⟩
  · obtain ⟨hid, hname⟩ := toEvent_names hevent
    obtain ⟨hadmitted, hnewer⟩ := admitted_of_decision hevent hfind hkey hfresh haccepted
    rw [hid, hname] at hnext
    exact Or.inr ⟨event, record, next, hevent, hadmitted, hnewer, haccepted, hnext⟩

/-- An admitted event that is not older takes effect. -/
theorem Admitted.takes_effect (h : Admitted store op record)
    (hnewer : record.eventIsOlder op.timestampNs op.sequence = false) :
    ∃ event next, op.toEvent = some event ∧ event.decision record = .ok next ∧
      lifecycle.next store op = store.commit op.localOrderId next op.eventKey ∧
      (lifecycle.output store op).tookEffect := by
  cases hevent : op.toEvent with
  | none =>
    cases op with
    | create request => exact absurd h.checks not_false
    | _ => cases hevent
  | some event =>
    obtain ⟨hid, hname⟩ := toEvent_names hevent
    obtain ⟨next, haccepted⟩ := (decision_isOk_iff hevent).mpr ⟨hnewer, h.checks⟩
    have hfind := h.find_eq
    have hkey := h.key_ne
    have hfresh := h.key_fresh
    rw [← hid] at hfind
    rw [← hname] at hkey hfresh
    have hnext := next_of_decision hevent hfind hkey hfresh haccepted
    rw [hid, hname] at hnext
    exact ⟨event, next, rfl, haccepted, hnext⟩

end OrderLifecycleStore

end TradeBot
