import TradeBot.Lifecycle.Quantities

/-!
# Records over whole runs

What holds of each new record, and is kept by each decision, holds of every record
of every reachable store. What every accepted decision does besides the quantities
is said once: it stamps the record, it appends one audit entry, and it moves the
state along the transition table or back from a rejected cancel.
-/

namespace TradeBot

open Library

namespace OrderLifecycleStore

/-- The time that an operation carries. -/
def Operation.timestampNs : Operation → ℕ
  | .create request => request.timestampNs
  | .markRiskChecked _ _ timestampNs _ => timestampNs
  | .markSubmitted _ _ timestampNs _ => timestampNs
  | .applyAcknowledgement ack => ack.timestampNs
  | .applyExecution execution => execution.timestampNs
  | .requestCancel request => request.timestampNs
  | .applyCancelResult result => result.timestampNs
  | .markTimeout _ _ timestampNs _ => timestampNs
  | .markUnknown _ _ _ _ timestampNs _ => timestampNs
  | .applyReconciliation event => event.timestampNs

/-- The sequence number that an operation carries. -/
def Operation.sequence : Operation → ℕ
  | .create request => request.sequence
  | .markRiskChecked _ _ _ sequence => sequence
  | .markSubmitted _ _ _ sequence => sequence
  | .applyAcknowledgement ack => ack.sequence
  | .applyExecution execution => execution.sequence
  | .requestCancel request => request.sequence
  | .applyCancelResult result => result.sequence
  | .markTimeout _ _ _ sequence => sequence
  | .markUnknown _ _ _ _ _ sequence => sequence
  | .applyReconciliation event => event.sequence

/-- Every record of the store has the property `P`. -/
def Every (P : OrderLifecycleRecord → Prop) (store : OrderLifecycleStore) : Prop :=
  ∀ localOrderId record, store.find localOrderId = some record → P record

variable {store : OrderLifecycleStore} {P : OrderLifecycleRecord → Prop}

/-- Whatever is asked of every record holds in an empty store. -/
theorem every_empty (P : OrderLifecycleRecord → Prop) : empty.Every P := by
  intro localOrderId record h
  cases h

/-- A step keeps what a new record has and its decision keeps. -/
theorem Every.next (h : store.Every P) {op : Operation}
    (hcreate : ∀ request : OrderRequest, request.quantity.isPositive = true →
      P (newRecord request))
    (hdecision : ∀ event record next, op.toEvent = some event →
      store.find event.localOrderId = some record → event.eventKey ≠ "" →
      event.eventKey ∉ store.appliedEventKeys → event.decision record = .ok next →
      P record → P next) :
    (lifecycle.next store op).Every P := by
  intro localOrderId found hfound
  rcases step_cases store op with ⟨hsame, -⟩ | ⟨request, -, -, hpositive, hnext, -⟩ |
    ⟨event, record, next, hevent, hfind, hkey, hnew, haccepted, hnext, -⟩
  · rw [hsame] at hfound
    exact h localOrderId found hfound
  · rw [hnext, find_commit] at hfound
    split at hfound
    · rw [← Option.some.inj hfound]
      exact hcreate request hpositive
    · exact h localOrderId found hfound
  · rw [hnext, find_commit] at hfound
    split at hfound
    · rw [← Option.some.inj hfound]
      exact hdecision event record next hevent hfind hkey hnew haccepted (h _ record hfind)
    · exact h localOrderId found hfound

/-- An event whose checks pass is applied and writes the record of its decision. -/
theorem next_of_decision {op : Operation} {event : Event} {record next : OrderLifecycleRecord}
    (hevent : op.toEvent = some event) (hfind : store.find event.localOrderId = some record)
    (hkey : event.eventKey ≠ "") (hnew : event.eventKey ∉ store.appliedEventKeys)
    (hdecision : event.decision record = .ok next) :
    lifecycle.next store op = store.commit event.localOrderId next event.eventKey ∧
      (lifecycle.output store op).tookEffect := by
  have hstep : lifecycle.step store op =
      (store.commit event.localOrderId next event.eventKey, .event .applied) := by
    rw [step_of_toEvent hevent]
    simp only [handleEvent, hfind, if_neg hkey, if_neg hnew, hdecision, Prod.map_apply, id_eq]
  rw [Machine.next, Machine.output, hstep]
  exact ⟨rfl, rfl⟩

/-- What every accepted decision does to its record. -/
structure Advances (op : Operation) (event : Event) (record next : OrderLifecycleRecord) :
    Prop where
  isNewer : record.eventIsOlder op.timestampNs op.sequence = false
  timestampNs_eq : next.lastTimestampNs = op.timestampNs
  sequence_eq : next.lastSequence = op.sequence
  audited : ∃ entry, next.auditHistory = record.auditHistory ++ [entry] ∧
    entry.state = next.state ∧ entry.eventKey = event.eventKey ∧ entry.sequence = op.sequence
  moved : canTransition record.state next.state = true ∨
    record.state = .cancelRequested ∧ next.state = record.preCancelState ∧
      ∃ result, op = .applyCancelResult result ∧ result.disposition = .rejected
  preCancelState_eq : next.preCancelState =
    if next.state = .cancelRequested then record.state else record.preCancelState

/-- A transition advances its record. -/
private theorem advances_transition {op : Operation} {event : Event}
    {record next : OrderLifecycleRecord} {target : OrderLifecycleState}
    (htarget : target ≠ .cancelRequested)
    (h : decideTransition target event.eventKey op.timestampNs op.sequence record = .ok next) :
    Advances op event record next := by
  obtain ⟨hnewer, hstate, rfl⟩ := decideTransition_eq_ok.mp h
  exact ⟨hnewer, rfl, rfl, ⟨_, rfl, rfl, rfl, rfl⟩, Or.inl hstate, (if_neg htarget).symm⟩

/-- **Every accepted decision advances its record.** -/
theorem decision_advances {op : Operation} {event : Event} {record next : OrderLifecycleRecord}
    (hop : op.toEvent = some event) (h : event.decision record = .ok next) :
    Advances op event record next := by
  cases op with
  | create request => cases hop
  | markRiskChecked id key ts seq =>
    cases hop
    exact advances_transition (by decide) h
  | markSubmitted id key ts seq =>
    cases hop
    exact advances_transition (by decide) h
  | applyAcknowledgement ack =>
    cases hop
    obtain ⟨hnewer, -, hstate, rfl⟩ := decideAcknowledgement_eq_ok.mp h
    refine ⟨hnewer, rfl, rfl, ⟨_, rfl, rfl, rfl, rfl⟩, Or.inl hstate, ?_⟩
    cases ack.accepted <;> simp [OrderLifecycleRecord.appendAudit]
  | applyExecution execution =>
    cases hop
    obtain ⟨hnewer, -, -, hstate, rfl⟩ := decideExecution_eq_ok.mp h
    refine ⟨hnewer, rfl, rfl, ⟨_, rfl, rfl, rfl, rfl⟩, Or.inl hstate, ?_⟩
    cases execution.remainingQuantity.isZero <;> simp [OrderLifecycleRecord.appendAudit]
  | requestCancel request =>
    cases hop
    obtain ⟨hnewer, hstate, rfl⟩ := decideCancelRequest_eq_ok.mp h
    exact ⟨hnewer, rfl, rfl, ⟨_, rfl, rfl, rfl, rfl⟩, Or.inl hstate, rfl⟩
  | applyCancelResult result =>
    cases hop
    obtain ⟨hnewer, hstate, outcome, houtcome, rfl⟩ := decideCancelResult_eq_ok.mp h
    have hmoved : canTransition record.state outcome = true ∧ outcome ≠ .cancelRequested ∨
        outcome = record.preCancelState ∧ result.disposition = .rejected := by
      cases hdisposition : result.disposition with
      | rejected =>
        rw [hdisposition] at houtcome
        cases houtcome
        exact Or.inr ⟨rfl, rfl⟩
      | alreadyFilled =>
        rw [hdisposition, cancelOutcome] at houtcome
        split at houtcome
        · cases houtcome
          rw [hstate]
          exact Or.inl ⟨rfl, by decide⟩
        · cases houtcome
      | _ =>
        rw [hdisposition] at houtcome
        cases houtcome
        rw [hstate]
        exact Or.inl ⟨rfl, by decide⟩
    refine ⟨hnewer, rfl, rfl, ⟨_, rfl, rfl, rfl, rfl⟩, ?_, ?_⟩
    · rcases hmoved with ⟨hstep, -⟩ | ⟨hrestored, hrejected⟩
      · exact Or.inl hstep
      · exact Or.inr ⟨hstate, hrestored, result, rfl, hrejected⟩
    · change record.preCancelState =
        if outcome = .cancelRequested then record.state else record.preCancelState
      rcases hmoved with ⟨-, hother⟩ | ⟨rfl, -⟩
      · rw [if_neg hother]
      · split
        · next heq => rw [heq, hstate]
        · rfl
  | markTimeout id key ts seq =>
    cases hop
    exact advances_transition (by decide) h
  | markUnknown id key failure reason ts seq =>
    cases hop
    obtain ⟨revised, hrevised, rfl⟩ := map_eq_ok.mp h
    obtain ⟨hnewer, hstate, rfl⟩ := decideTransition_eq_ok.mp hrevised
    refine ⟨hnewer, rfl, rfl, ⟨_, List.modifyLast_concat _ _ _, rfl, rfl, rfl⟩, Or.inl hstate, rfl⟩
  | applyReconciliation event =>
    cases hop
    obtain ⟨hnewer, -, hstate, -, rfl⟩ := decideReconciliation_eq_ok.mp h
    exact ⟨hnewer, rfl, rfl, ⟨_, rfl, rfl, rfl, rfl⟩, Or.inl hstate, rfl⟩

end OrderLifecycleStore

end TradeBot
