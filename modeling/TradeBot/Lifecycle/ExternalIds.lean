import TradeBot.Lifecycle.Absorption
import TradeBot.Lifecycle.Checks

/-!
# External order ids

An order gets its external id from an acknowledgement or an execution. An order that
still waits for its acknowledgement has none, so an acknowledgement never replaces an
id. An execution always writes the id it carries, so the id stays exactly along the
runs in which every execution of a bound order carries the id of the order.
-/

namespace TradeBot

open Library

/-- The states in which an order waits for its acknowledgement. -/
def awaitsAcknowledgement (state : OrderLifecycleState) : Bool :=
  decide (state ∈ [.created, .riskChecked, .submitted])

/-- An order that waits for its acknowledgement has no external id. -/
def OrderLifecycleRecord.Unnamed (record : OrderLifecycleRecord) : Prop :=
  awaitsAcknowledgement record.state = true → record.externalOrderId = ""

namespace OrderLifecycleStore

variable {store : OrderLifecycleStore} {op : Operation} {event : Event}
  {record next : OrderLifecycleRecord}

/-- The external id that an operation writes. -/
def Operation.externalOrderId : Operation → Option String
  | .applyAcknowledgement ack => some ack.externalOrderId
  | .applyExecution execution => some execution.externalOrderId
  | _ => none

/-- An accepted decision writes the external id of its event, if there is one. -/
theorem externalOrderId_of_decision (hevent : op.toEvent = some event)
    (haccepted : event.decision record = .ok next) :
    next.externalOrderId = op.externalOrderId.getD record.externalOrderId := by
  have htransition {target : OrderLifecycleState} {key : String} {ts seq : ℕ}
      {next : OrderLifecycleRecord} (h : decideTransition target key ts seq record = .ok next) :
      next.externalOrderId = record.externalOrderId := by
    obtain ⟨-, -, rfl⟩ := decideTransition_eq_ok.mp h
    rfl
  cases op with
  | create request => cases hevent
  | markUnknown id key failure reason ts seq =>
    cases hevent
    obtain ⟨revised, hrevised, rfl⟩ := map_eq_ok.mp haccepted
    have hsame := htransition hrevised
    exact hsame
  | applyAcknowledgement ack =>
    cases hevent
    obtain ⟨-, -, -, rfl⟩ := decideAcknowledgement_eq_ok.mp haccepted
    rfl
  | applyExecution execution =>
    cases hevent
    obtain ⟨-, -, -, -, rfl⟩ := decideExecution_eq_ok.mp haccepted
    rfl
  | requestCancel request =>
    cases hevent
    obtain ⟨-, -, rfl⟩ := decideCancelRequest_eq_ok.mp haccepted
    rfl
  | applyCancelResult result =>
    cases hevent
    obtain ⟨-, -, outcome, -, rfl⟩ := decideCancelResult_eq_ok.mp haccepted
    rfl
  | applyReconciliation event =>
    cases hevent
    obtain ⟨-, -, -, -, rfl⟩ := decideReconciliation_eq_ok.mp haccepted
    rfl
  | _ =>
    cases hevent
    exact htransition haccepted

/-- The events that carry an external id lead out of the wait for the acknowledgement. -/
theorem not_awaits_of_externalOrderId (hevent : op.toEvent = some event)
    (haccepted : event.decision record = .ok next) (hid : op.externalOrderId ≠ none) :
    awaitsAcknowledgement next.state = false := by
  cases op with
  | applyAcknowledgement ack =>
    cases hevent
    obtain ⟨-, -, -, rfl⟩ := decideAcknowledgement_eq_ok.mp haccepted
    change awaitsAcknowledgement (if ack.accepted then .accepted else .rejected) = false
    split <;> rfl
  | applyExecution execution =>
    cases hevent
    obtain ⟨-, -, -, -, rfl⟩ := decideExecution_eq_ok.mp haccepted
    change awaitsAcknowledgement
      (if execution.remainingQuantity.isZero then .filled else .partiallyFilled) = false
    split <;> rfl
  | _ => exact absurd rfl hid

/-- A state that awaits an acknowledgement is entered only from such a state. -/
private theorem awaits_of_canTransition {origin target : OrderLifecycleState}
    (h : canTransition origin target = true) (htarget : awaitsAcknowledgement target = true) :
    awaitsAcknowledgement origin = true := by
  revert h htarget
  cases target <;> cases origin <;> decide

/-- An order that can be cancelled awaits none. -/
private theorem not_awaits_of_cancelable {state : OrderLifecycleState}
    (h : canTransition state .cancelRequested = true) : awaitsAcknowledgement state = false := by
  revert h
  cases state <;> decide

/-- A decision keeps an order without an id while it waits. -/
theorem unnamed_of_decision (hevent : op.toEvent = some event)
    (haccepted : event.decision record = .ok next) (h : record.Unnamed)
    (hrestore : record.state = .cancelRequested →
      canTransition record.preCancelState .cancelRequested = true) : next.Unnamed := by
  intro hawaits
  have hsame : op.externalOrderId = none := by
    by_contra hid
    rw [not_awaits_of_externalOrderId hevent haccepted hid] at hawaits
    cases hawaits
  rw [externalOrderId_of_decision hevent haccepted, hsame]
  rcases (decision_advances hevent haccepted).moved with hmove | ⟨hstate, hrestored, -⟩
  · exact h (awaits_of_canTransition hmove hawaits)
  · rw [hrestored, not_awaits_of_cancelable (hrestore hstate)] at hawaits
    cases hawaits

/-- Orders that wait have no id, and a pending cancel restores no order that waits. -/
structure IdsAwaited (store : OrderLifecycleStore) : Prop where
  unnamed : store.Every OrderLifecycleRecord.Unnamed
  restores : store.CancelsRestoreOpen

/-- An empty store has no order that could await an id. -/
theorem idsAwaited_empty : empty.IdsAwaited :=
  ⟨every_empty _, fun _ _ h => by cases h⟩

/-- One step keeps orders that wait without an id. -/
theorem idsAwaited_next (h : store.IdsAwaited) (op : Operation) :
    (lifecycle.next store op).IdsAwaited := by
  refine ⟨?_, h.restores.next op⟩
  apply h.unnamed.next fun request _ _ => rfl
  intro event record next hevent hfind _ _ haccepted hunnamed
  exact unnamed_of_decision hevent haccepted hunnamed (h.restores _ record hfind)

/-- A bound order is still bound to its id after a step. -/
def KeepsIds (store : OrderLifecycleStore) (op : Operation) : Prop :=
  ∀ localOrderId record, store.find localOrderId = some record → record.externalOrderId ≠ "" →
    ∃ found, (lifecycle.next store op).find localOrderId = some found ∧
      found.externalOrderId = record.externalOrderId

/-- An execution that would be applied to a bound order carries the id of the order. -/
def ExecutionCarriesId (store : OrderLifecycleStore) (op : Operation) : Prop :=
  ∀ execution record, op = .applyExecution execution → Admitted store op record →
    record.eventIsOlder execution.timestampNs execution.sequence = false →
    record.externalOrderId ≠ "" → execution.externalOrderId = record.externalOrderId

/-- A decision keeps the id of a bound order, if an execution carries it. -/
theorem keeps_id_of_decision (hcarries : ExecutionCarriesId store op)
    (hevent : op.toEvent = some event) (hadmitted : Admitted store op record)
    (hnewer : record.eventIsOlder op.timestampNs op.sequence = false)
    (haccepted : event.decision record = .ok next) (hunnamed : record.Unnamed)
    (hbound : record.externalOrderId ≠ "") : next.externalOrderId = record.externalOrderId := by
  rw [externalOrderId_of_decision hevent haccepted]
  cases op with
  | applyAcknowledgement ack =>
    have hsubmitted : awaitsAcknowledgement record.state = true := by
      have hmove := hadmitted.checks.2
      revert hmove
      cases ack.accepted <;> cases record.state <;> decide
    exact absurd (hunnamed hsubmitted) hbound
  | applyExecution execution => exact hcarries execution record rfl hadmitted hnewer hbound
  | _ => rfl

/-- Where orders that wait have no id, a step keeps the ids exactly if an execution carries
the id of its order. -/
theorem keepsIds_iff (h : store.IdsAwaited) : KeepsIds store op ↔ ExecutionCarriesId store op := by
  constructor
  · rintro hkeeps execution record rfl hadmitted hnewer hbound
    obtain ⟨event, next, hevent, haccepted, hnext, -⟩ := hadmitted.takes_effect hnewer
    obtain ⟨found, hfound, hsame⟩ := hkeeps _ record hadmitted.find_eq hbound
    rw [hnext, find_commit, if_pos rfl] at hfound
    rw [← hsame, ← Option.some.inj hfound, externalOrderId_of_decision hevent haccepted]
    rfl
  · intro hcarries localOrderId record hfind hbound
    by_cases hdone : (lifecycle.output store op).tookEffect
    · rcases admitted_of_tookEffect hdone with ⟨request, rfl, hnone, hnext⟩ |
        ⟨event, named, next, hevent, hadmitted, hnewer, haccepted, hnext⟩
      · refine ⟨record, ?_, rfl⟩
        rw [hnext, find_commit, if_neg]
        · exact hfind
        · rintro rfl
          rw [hnone] at hfind
          cases hfind
      · by_cases hid : localOrderId = op.localOrderId
        · subst hid
          obtain rfl : named = record := Option.some.inj (hadmitted.find_eq.symm.trans hfind)
          refine ⟨next, by rw [hnext, find_commit, if_pos rfl], ?_⟩
          exact keeps_id_of_decision hcarries hevent hadmitted hnewer haccepted
            (h.unnamed _ _ hfind) hbound
        · exact ⟨record, by rw [hnext, find_commit, if_neg hid, hfind], rfl⟩
    · exact ⟨record, by rw [next_of_not_tookEffect hdone, hfind], rfl⟩

/-- Once an order is bound to an external id in a run, it stays bound to it. -/
def ExternalIdsPermanent (ops : List Operation) : Prop :=
  ∀ before later after, ops = before ++ later ++ after → ∀ localOrderId record,
    (lifecycle.run empty before).find localOrderId = some record → record.externalOrderId ≠ "" →
    ∃ found, (lifecycle.run empty (before ++ later)).find localOrderId = some found ∧
      found.externalOrderId = record.externalOrderId

/-- The ids of a run are permanent when each of its steps keeps them. -/
theorem externalIdsPermanent_iff_along (ops : List Operation) :
    ExternalIdsPermanent ops ↔ lifecycle.Along KeepsIds empty ops := by
  constructor
  · intro hpermanent
    refine Machine.along_of_splits fun before op after hsplit localOrderId record hfind hbound => ?_
    have hlater := hpermanent before [op] after (by rw [hsplit, List.append_assoc]; rfl)
      localOrderId record hfind hbound
    rw [Machine.run_append, Machine.run_cons, Machine.run_nil] at hlater
    exact hlater
  · rintro hkeeps before later after rfl localOrderId record hfind hbound
    rw [Machine.run_append]
    refine Machine.invariant_run_of_along
      (I := fun s : OrderLifecycleStore => ∃ found, s.find localOrderId = some found ∧
        found.externalOrderId = record.externalOrderId) ?_ ⟨record, hfind, rfl⟩
      hkeeps.prefix.suffix
    rintro s op ⟨found, hfound, hsame⟩ hkeep
    rw [← hsame] at hbound
    obtain ⟨later, hlater, heq⟩ := hkeep localOrderId found hfound hbound
    exact ⟨later, hlater, heq.trans hsame⟩

/-- **External ids are permanent** along exactly the runs in which every execution that
would be applied to a bound order carries the id of the order. -/
theorem externalIdsPermanent_iff (ops : List Operation) :
    ExternalIdsPermanent ops ↔ lifecycle.Along ExecutionCarriesId empty ops := by
  rw [externalIdsPermanent_iff_along]
  apply Machine.along_iff_of_invariant (I := IdsAwaited)
  · intro store op h _
    exact idsAwaited_next h op
  · intro store op h
    exact keepsIds_iff h
  · exact idsAwaited_empty

/-- The fill of six units, reported without an external id. -/
def unnamedFill : ExecutionEvent := { sixFilled with externalOrderId := "" }

/-- The fill of six units, reported under the id of another order. -/
def misnamedFill : ExecutionEvent := { sixFilled with externalOrderId := "y" }

/-- A fill erases or replaces the id of the acknowledgement. -/
theorem not_externalIdsPermanent_fill :
    ¬ExternalIdsPermanent (partialFill.take 4 ++ [.applyExecution unnamedFill]) ∧
      ¬ExternalIdsPermanent (partialFill.take 4 ++ [.applyExecution misnamedFill]) := by
  have hbound : ((lifecycle.run empty (partialFill.take 4)).find 1).map (·.externalOrderId) =
      some "x" := by decide +kernel
  obtain ⟨record, hfind, hid⟩ := Option.map_eq_some_iff.mp hbound
  constructor
  · intro hpermanent
    obtain ⟨found, hfound, hsame⟩ := hpermanent (partialFill.take 4)
      [.applyExecution unnamedFill] [] (by simp) 1 record hfind (by rw [hid]; decide)
    have hlater : ((lifecycle.run empty (partialFill.take 4 ++
        [.applyExecution unnamedFill])).find 1).map (·.externalOrderId) = some "" := by
      decide +kernel
    rw [hfound, Option.map_some, hsame, hid] at hlater
    exact absurd hlater (by decide)
  · intro hpermanent
    obtain ⟨found, hfound, hsame⟩ := hpermanent (partialFill.take 4)
      [.applyExecution misnamedFill] [] (by simp) 1 record hfind (by rw [hid]; decide)
    have hlater : ((lifecycle.run empty (partialFill.take 4 ++
        [.applyExecution misnamedFill])).find 1).map (·.externalOrderId) = some "y" := by
      decide +kernel
    rw [hfound, Option.map_some, hsame, hid] at hlater
    exact absurd hlater (by decide)

end OrderLifecycleStore

end TradeBot
