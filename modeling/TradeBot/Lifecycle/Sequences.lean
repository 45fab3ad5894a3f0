import TradeBot.Lifecycle.Absorption
import TradeBot.Lifecycle.Checks

/-!
# Stale events

The store compares the sequence number of an event with that of the last event only.
An unsequenced event takes the place of the last one and with it the memory of the
numbers before, so a run applies no stale event exactly when every sequenced event
that follows an unsequenced one is above all numbers of its order.
-/

namespace TradeBot

open Library

namespace OrderLifecycleRecord

/-- The sequence numbers of the events that were applied to the order. -/
def sequences (record : OrderLifecycleRecord) : List ℕ :=
  record.auditHistory.map (·.sequence)

/-- A sequenced last event has the greatest number. -/
def LastIsGreatest (record : OrderLifecycleRecord) : Prop :=
  0 < record.lastSequence → ∀ sequence ∈ record.sequences, sequence ≤ record.lastSequence

variable {record : OrderLifecycleRecord} {timestampNs sequence : ℕ}

/-- A sequenced event after a sequenced one has the greater number. -/
theorem lastSequence_lt (h : record.eventIsOlder timestampNs sequence = false)
    (hsequence : 0 < sequence) (hlast : 0 < record.lastSequence) :
    record.lastSequence < sequence := by
  rw [eventIsOlder, if_pos ⟨hsequence, hlast⟩, decide_eq_false_iff_not] at h
  omega

end OrderLifecycleRecord

namespace OrderLifecycleStore

variable {store : OrderLifecycleStore} {op : Operation} {event : Event}
  {record next : OrderLifecycleRecord}

/-- The sequence numbers that were applied to an order. -/
def sequencesOf (store : OrderLifecycleStore) (localOrderId : ℕ) : List ℕ :=
  ((store.find localOrderId).map (·.sequences)).getD []

/-- A number was applied to an order in a run. -/
def SequenceApplied (ops : List Operation) (localOrderId sequence : ℕ) : Prop :=
  ∃ before op after, ops = before ++ op :: after ∧ op.localOrderId = localOrderId ∧
    op.sequence = sequence ∧ (lifecycle.output (lifecycle.run empty before) op).tookEffect

/-- A sequenced event is not applied at or below a number that was applied to its order
before. -/
def StaleNeverApplied (ops : List Operation) : Prop :=
  ∀ before op after, ops = before ++ op :: after → 0 < op.sequence →
    (∃ sequence, SequenceApplied before op.localOrderId sequence ∧ op.sequence ≤ sequence) →
    ¬(lifecycle.output (lifecycle.run empty before) op).tookEffect

/-- An event that would be applied, sequenced and next after an unsequenced one, is above
all numbers of its order. -/
def RisesAfterGap (store : OrderLifecycleStore) (op : Operation) : Prop :=
  ∀ record, Admitted store op record →
    record.eventIsOlder op.timestampNs op.sequence = false → 0 < op.sequence →
    record.lastSequence = 0 → ∀ sequence ∈ record.sequences, sequence < op.sequence

/-- A decision adds the number of its event. -/
theorem sequences_of_advances (h : Advances op event record next) :
    next.sequences = record.sequences ++ [op.sequence] := by
  obtain ⟨entry, haudit, -, -, hentry⟩ := h.audited
  rw [OrderLifecycleRecord.sequences, haudit, List.map_append, List.map_singleton, hentry]
  rfl

/-- A step adds the number of its operation to its order, when it takes effect. -/
theorem mem_sequencesOf_next (store : OrderLifecycleStore) (op : Operation)
    (localOrderId sequence : ℕ) :
    sequence ∈ sequencesOf (lifecycle.next store op) localOrderId ↔
      sequence ∈ sequencesOf store localOrderId ∨
        op.localOrderId = localOrderId ∧ op.sequence = sequence ∧
          (lifecycle.output store op).tookEffect := by
  by_cases hdone : (lifecycle.output store op).tookEffect
  · rcases admitted_of_tookEffect hdone with ⟨request, rfl, hfind, hnext⟩ |
      ⟨event, record, next, hevent, hadmitted, -, haccepted, hnext⟩
    · rw [hnext, sequencesOf, sequencesOf, find_commit]
      split
      · next hid =>
        subst hid
        rw [hfind]
        simp [hdone, Operation.localOrderId, Operation.sequence, newRecord,
          OrderLifecycleRecord.sequences, OrderLifecycleRecord.appendAudit, eq_comm]
      · next hid => simp [Operation.localOrderId, Ne.symm hid]
    · rw [hnext, sequencesOf, sequencesOf, find_commit]
      split
      · next hid =>
        subst hid
        have hsequences := sequences_of_advances (decision_advances hevent haccepted)
        rw [hadmitted.find_eq]
        simp [hdone, hsequences, eq_comm]
      · next hid => simp [Ne.symm hid]
  · simp [next_of_not_tookEffect hdone, hdone]

/-- The numbers of an order are those that were applied to it in the run. -/
theorem mem_sequencesOf_run (ops : List Operation) (localOrderId sequence : ℕ) :
    sequence ∈ sequencesOf (lifecycle.run empty ops) localOrderId ↔
      SequenceApplied ops localOrderId sequence := by
  induction ops using List.reverseRecOn with
  | nil =>
    refine iff_of_false List.not_mem_nil ?_
    rintro ⟨before, op, after, hsplit, -⟩
    simp at hsplit
  | append_singleton ops last ih =>
    rw [Machine.run_append, Machine.run_cons, Machine.run_nil, mem_sequencesOf_next, ih]
    constructor
    · rintro (⟨before, op, after, rfl, h⟩ | h)
      · exact ⟨before, op, after ++ [last], by simp, h⟩
      · exact ⟨ops, last, [], rfl, h⟩
    · rintro ⟨before, op, after, hsplit, h⟩
      rcases List.eq_nil_or_concat after with rfl | ⟨after, final, rfl⟩
      · obtain ⟨rfl, hop⟩ := List.append_inj' hsplit rfl
        cases hop
        exact Or.inr h
      · have hends : ops ++ [last] = before ++ op :: after ++ [final] := by simpa using hsplit
        exact Or.inl ⟨before, op, after, (List.append_inj' hends rfl).1, h⟩

/-- A new record has seen no number above its last one. -/
theorem lastIsGreatest_newRecord (request : OrderRequest) :
    (newRecord request).LastIsGreatest := by
  intro _ sequence hsequence
  rw [List.mem_singleton.mp hsequence]
  rfl

/-- Where gaps are followed by greater numbers, a decision leaves the greatest number last. -/
theorem lastIsGreatest_of_decision (hrises : RisesAfterGap store op)
    (hevent : op.toEvent = some event) (hadmitted : Admitted store op record)
    (hnewer : record.eventIsOlder op.timestampNs op.sequence = false)
    (haccepted : event.decision record = .ok next) (h : record.LastIsGreatest) :
    next.LastIsGreatest := by
  have hadvances := decision_advances hevent haccepted
  rw [OrderLifecycleRecord.LastIsGreatest, hadvances.sequence_eq, sequences_of_advances hadvances]
  intro hpos sequence hsequence
  rcases List.mem_append.mp hsequence with hold | hnew
  · by_cases hlast : record.lastSequence = 0
    · exact (hrises record hadmitted hnewer hpos hlast sequence hold).le
    · have hlt := OrderLifecycleRecord.lastSequence_lt hnewer hpos (Nat.pos_of_ne_zero hlast)
      have hle := h (Nat.pos_of_ne_zero hlast) sequence hold
      omega
  · exact (List.mem_singleton.mp hnew).le

/-- One step keeps the greatest number last, where gaps are followed by greater numbers. -/
theorem lastIsGreatest_next (hrises : RisesAfterGap store op)
    (h : store.Every OrderLifecycleRecord.LastIsGreatest) :
    (lifecycle.next store op).Every OrderLifecycleRecord.LastIsGreatest := by
  apply h.next fun request _ => lastIsGreatest_newRecord request
  intro event record next hevent hfind hkey hfresh haccepted hlast
  obtain ⟨hadmitted, hnewer⟩ := admitted_of_decision hevent hfind hkey hfresh haccepted
  exact lastIsGreatest_of_decision hrises hevent hadmitted hnewer haccepted hlast

/-- A step that takes effect with a sequenced event brings a greater number. -/
def Rises (store : OrderLifecycleStore) (op : Operation) : Prop :=
  (lifecycle.output store op).tookEffect → 0 < op.sequence →
    ∀ sequence ∈ sequencesOf store op.localOrderId, sequence < op.sequence

/-- Behind a greatest last number, only gaps leave room for a stale event. -/
theorem rises_iff (h : store.Every OrderLifecycleRecord.LastIsGreatest) :
    Rises store op ↔ RisesAfterGap store op := by
  constructor
  · intro hrises record hadmitted hnewer hpos _ sequence hsequence
    obtain ⟨event, next, -, -, -, hdone⟩ := hadmitted.takes_effect hnewer
    refine hrises hdone hpos sequence ?_
    rw [sequencesOf, hadmitted.find_eq]
    exact hsequence
  · intro hrises hdone hpos sequence hsequence
    rcases admitted_of_tookEffect hdone with ⟨request, rfl, hfind, -⟩ |
      ⟨event, record, next, -, hadmitted, hnewer, -, -⟩
    · rw [sequencesOf, Operation.localOrderId, hfind] at hsequence
      exact absurd hsequence List.not_mem_nil
    · rw [sequencesOf, hadmitted.find_eq] at hsequence
      by_cases hlast : record.lastSequence = 0
      · exact hrises record hadmitted hnewer hpos hlast sequence hsequence
      · have hlt := OrderLifecycleRecord.lastSequence_lt hnewer hpos (Nat.pos_of_ne_zero hlast)
        have hle := h _ record hadmitted.find_eq (Nat.pos_of_ne_zero hlast) sequence hsequence
        omega

/-- A run is free of stale events when each of its steps rises. -/
theorem staleNeverApplied_iff_along (ops : List Operation) :
    StaleNeverApplied ops ↔ lifecycle.Along Rises empty ops := by
  constructor
  · intro hnever
    refine Machine.along_of_splits fun before op after hsplit hdone hpos sequence hsequence => ?_
    have happlied := (mem_sequencesOf_run before op.localOrderId sequence).mp hsequence
    by_contra hle
    exact hnever before op after hsplit hpos ⟨sequence, happlied, not_lt.mp hle⟩ hdone
  · rintro hrises before op after rfl hpos ⟨sequence, happlied, hle⟩ hdone
    have hmem := (mem_sequencesOf_run before op.localOrderId sequence).mpr happlied
    have hlt := hrises.at_split hdone hpos sequence hmem
    omega

/-- **No stale event is applied** in exactly the runs whose sequenced events after
unsequenced ones are above all numbers of their order. -/
theorem staleNeverApplied_iff (ops : List Operation) :
    StaleNeverApplied ops ↔ lifecycle.Along RisesAfterGap empty ops := by
  rw [staleNeverApplied_iff_along]
  apply Machine.along_iff_of_invariant (I := Every OrderLifecycleRecord.LastIsGreatest)
  · intro store op h hrises
    exact lastIsGreatest_next hrises h
  · intro store op h
    exact rises_iff h
  · exact every_empty _

/-- The fill of six units without a sequence number. -/
def unsequencedFill : ExecutionEvent := { sixFilled with sequence := 0 }

/-- The fill of all ten units under the number of the acknowledgement. -/
def reusedSequence : ExecutionEvent :=
  { tenFilled with sequence := tenUnitsAccepted.sequence, eventKey := "last" }

/-- After an unsequenced fill the number of the acknowledgement is taken again. -/
theorem not_staleNeverApplied_unsequencedFill :
    ¬StaleNeverApplied (partialFill.take 4 ++ [.applyExecution unsequencedFill,
      .applyExecution reusedSequence]) := by
  intro hnever
  refine hnever (partialFill.take 4 ++ [.applyExecution unsequencedFill])
    (.applyExecution reusedSequence) [] (by simp) (by decide)
    ⟨4, ⟨partialFill.take 3, .applyAcknowledgement tenUnitsAccepted,
      [.applyExecution unsequencedFill], rfl, rfl, rfl, ?_⟩, le_refl 4⟩ ?_
  · decide +kernel
  · decide +kernel

end OrderLifecycleStore

end TradeBot
