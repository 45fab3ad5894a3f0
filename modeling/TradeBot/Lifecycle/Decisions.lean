import TradeBot.Lifecycle.Steps

/-!
# The decisions of the lifecycle store

For each decision: exactly when it accepts, and the record it makes. Then what all
of them share: the request stays, a terminal record is never revised, and the
quantities stay or are replaced by a valid pair.
-/

namespace TradeBot

open Library

/-- Consecutive sequence numbers at one time are never older, also where they wrap. -/
theorem OrderLifecycleRecord.not_older_succ {record : OrderLifecycleRecord}
    {timestampNs sequence k : ℕ} (htime : record.lastTimestampNs = timestampNs)
    (hsequence : record.lastSequence = (sequence + k) % 2 ^ 64) :
    record.eventIsOlder timestampNs ((sequence + (k + 1)) % 2 ^ 64) = false := by
  rw [eventIsOlder, htime, hsequence]
  split
  · rw [decide_eq_false_iff_not]
    omega
  · rw [decide_eq_false_iff_not]
    omega

namespace OrderLifecycleStore

variable {record next : OrderLifecycleRecord}

/-- A guard that refuses is passed by an accepted decision. -/
private theorem guard_eq_ok {α : Type} {c : Prop} [Decidable c] {refusal : Refusal}
    {x : Except Refusal α} {a : α} :
    (if c then .error refusal else x) = .ok a ↔ ¬c ∧ x = .ok a := by
  by_cases h : c <;> simp [h]

/-- A mapped decision succeeds when the decision does. -/
theorem map_eq_ok {α β : Type} {f : α → β} {x : Except Refusal α} {b : β} :
    x.map f = .ok b ↔ ∃ a, x = .ok a ∧ f a = b := by
  cases x <;> simp [Except.map]

/-- When a transition is applied, and what it leaves. -/
theorem decideTransition_eq_ok {target : OrderLifecycleState} {eventKey : String}
    {timestampNs sequence : ℕ} :
    decideTransition target eventKey timestampNs sequence record = .ok next ↔
      record.eventIsOlder timestampNs sequence = false ∧
        canTransition record.state target = true ∧
        next = { record with
          state := target
          lastTimestampNs := timestampNs
          lastSequence := sequence }.appendAudit eventKey timestampNs sequence := by
  simp only [decideTransition, guard_eq_ok, Bool.not_eq_true, Bool.not_eq_true',
    Bool.not_eq_false, Except.ok.injEq, eq_comm (b := next)]

/-- When an acknowledgement is applied, and what it leaves. -/
theorem decideAcknowledgement_eq_ok {ack : OrderAcknowledgement} :
    decideAcknowledgement ack record = .ok next ↔
      record.eventIsOlder ack.timestampNs ack.sequence = false ∧
        (ack.accepted = true → ack.externalOrderId ≠ "") ∧
        canTransition record.state (if ack.accepted then .accepted else .rejected) = true ∧
        next = { record with
          state := if ack.accepted then .accepted else .rejected
          externalOrderId := ack.externalOrderId
          failure := ack.failure
          reason := ack.reason
          lastTimestampNs := ack.timestampNs
          lastSequence := ack.sequence }.appendAudit ack.eventKey ack.timestampNs
            ack.sequence := by
  simp only [decideAcknowledgement, guard_eq_ok, Bool.not_eq_true, Bool.not_eq_true',
    Bool.not_eq_false, not_and, Except.ok.injEq, eq_comm (b := next), ne_eq]

/-- When an execution is applied, and what it leaves. -/
theorem decideExecution_eq_ok {execution : ExecutionEvent} :
    decideExecution execution record = .ok next ↔
      record.eventIsOlder execution.timestampNs execution.sequence = false ∧
        record.validQuantities execution.cumulativeFilledQuantity
          execution.remainingQuantity = true ∧
        ¬execution.cumulativeFilledQuantity.units < record.filledQuantity.units ∧
        canTransition record.state
          (if execution.remainingQuantity.isZero then .filled else .partiallyFilled) = true ∧
        next = { record with
          state := if execution.remainingQuantity.isZero then .filled else .partiallyFilled
          externalOrderId := execution.externalOrderId
          filledQuantity := execution.cumulativeFilledQuantity
          remainingQuantity := execution.remainingQuantity
          lastTimestampNs := execution.timestampNs
          lastSequence := execution.sequence }.appendAudit execution.eventKey
            execution.timestampNs execution.sequence := by
  simp only [decideExecution, guard_eq_ok, Bool.not_eq_true, Bool.not_eq_true',
    Bool.not_eq_false, not_or, Except.ok.injEq, eq_comm (b := next), and_assoc]

/-- When a cancel request is applied, and what it leaves. -/
theorem decideCancelRequest_eq_ok {request : CancelRequest} :
    decideCancelRequest request record = .ok next ↔
      record.eventIsOlder request.timestampNs request.sequence = false ∧
        canTransition record.state .cancelRequested = true ∧
        next = { record with
          preCancelState := record.state
          state := .cancelRequested
          lastTimestampNs := request.timestampNs
          lastSequence := request.sequence }.appendAudit request.idempotencyKey
            request.timestampNs request.sequence := by
  simp only [decideCancelRequest, guard_eq_ok, Bool.not_eq_true, Bool.not_eq_true',
    Bool.not_eq_false, not_or, Except.ok.injEq, eq_comm (b := next), and_assoc]

/-- When the answer to a cancel request is applied, and what it leaves. -/
theorem decideCancelResult_eq_ok {result : CancelResult} :
    decideCancelResult result record = .ok next ↔
      record.eventIsOlder result.timestampNs result.sequence = false ∧
        record.state = .cancelRequested ∧
        ∃ outcome, cancelOutcome result.disposition record = .ok outcome ∧
          next = { record with
            state := outcome
            failure := result.failure
            reason := result.reason
            lastTimestampNs := result.timestampNs
            lastSequence := result.sequence }.appendAudit result.eventKey
              result.timestampNs result.sequence := by
  unfold decideCancelResult
  rw [guard_eq_ok, not_or, Bool.not_eq_true, not_not, and_assoc]
  cases cancelOutcome result.disposition record with
  | error refusal => simp
  | ok outcome => simp only [Except.ok.injEq, exists_eq_left', eq_comm (b := next)]

/-- When a reconciliation is applied, and what it leaves. -/
theorem decideReconciliation_eq_ok {event : Reconciliation} :
    decideReconciliation event record = .ok next ↔
      record.eventIsOlder event.timestampNs event.sequence = false ∧
        record.validQuantities event.cumulativeFilled event.remaining = true ∧
        canTransition record.state .reconciled = true ∧
        isResolvable event.resolvedState = true ∧
        next = { record with
          state := .reconciled
          reconciledState := some event.resolvedState
          filledQuantity := event.cumulativeFilled
          remainingQuantity := event.remaining
          lastTimestampNs := event.timestampNs
          lastSequence := event.sequence }.appendAudit event.eventKey event.timestampNs
            event.sequence (some event.resolvedState) := by
  simp only [decideReconciliation, guard_eq_ok, Bool.not_eq_true, Bool.not_eq_true',
    Bool.not_eq_false, not_or, Except.ok.injEq, eq_comm (b := next), and_assoc]

/-- No transition leaves a terminal state. -/
theorem isTerminal_of_canTransition {origin target : OrderLifecycleState}
    (h : canTransition origin target = true) : isTerminal origin = false := by
  unfold canTransition at h
  rw [Bool.and_eq_true, Bool.not_eq_true'] at h
  exact h.1

/-- What every revision of a record respects. -/
structure Revises (record next : OrderLifecycleRecord) : Prop where
  request_eq : next.request = record.request
  isOpen : isTerminal record.state = false
  quantities : (next.filledQuantity = record.filledQuantity ∧
      next.remainingQuantity = record.remainingQuantity) ∨
    record.validQuantities next.filledQuantity next.remainingQuantity = true

/-- Every decision that accepts revises its record. -/
theorem decision_revises {op : Operation} {event : Event} (hop : op.toEvent = some event)
    (h : event.decision record = .ok next) : Revises record next := by
  have htransition {target : OrderLifecycleState} {key : String} {ts seq : ℕ}
      {next : OrderLifecycleRecord} (h : decideTransition target key ts seq record = .ok next) :
      Revises record next := by
    obtain ⟨-, hstate, rfl⟩ := decideTransition_eq_ok.mp h
    exact ⟨rfl, isTerminal_of_canTransition hstate, Or.inl ⟨rfl, rfl⟩⟩
  cases op with
  | create request => cases hop
  | markRiskChecked id key ts seq =>
    cases hop
    exact htransition h
  | markSubmitted id key ts seq =>
    cases hop
    exact htransition h
  | applyAcknowledgement ack =>
    cases hop
    obtain ⟨-, -, hstate, rfl⟩ := decideAcknowledgement_eq_ok.mp h
    exact ⟨rfl, isTerminal_of_canTransition hstate, Or.inl ⟨rfl, rfl⟩⟩
  | applyExecution execution =>
    cases hop
    obtain ⟨-, hvalid, -, hstate, rfl⟩ := decideExecution_eq_ok.mp h
    exact ⟨rfl, isTerminal_of_canTransition hstate, Or.inr hvalid⟩
  | requestCancel request =>
    cases hop
    obtain ⟨-, hstate, rfl⟩ := decideCancelRequest_eq_ok.mp h
    exact ⟨rfl, isTerminal_of_canTransition hstate, Or.inl ⟨rfl, rfl⟩⟩
  | applyCancelResult result =>
    cases hop
    obtain ⟨-, hstate, outcome, -, rfl⟩ := decideCancelResult_eq_ok.mp h
    exact ⟨rfl, by rw [hstate]; rfl, Or.inl ⟨rfl, rfl⟩⟩
  | markTimeout id key ts seq =>
    cases hop
    exact htransition h
  | markUnknown id key failure reason ts seq =>
    cases hop
    obtain ⟨revised, hrevised, rfl⟩ := map_eq_ok.mp h
    obtain ⟨hrequest, hopen, hquantities⟩ := htransition hrevised
    exact ⟨hrequest, hopen, hquantities⟩
  | applyReconciliation event =>
    cases hop
    obtain ⟨-, hvalid, hstate, -, rfl⟩ := decideReconciliation_eq_ok.mp h
    exact ⟨rfl, isTerminal_of_canTransition hstate, Or.inr hvalid⟩

end OrderLifecycleStore

end TradeBot
