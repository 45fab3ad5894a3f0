import TradeBot.Lifecycle.Checks

/-!
# A cancel that crosses fills

A partial fill that arrives while a cancel is pending takes the order out of the
pending state, and the store then refuses the result of the cancel. So of all races
between a cancel and partial fills the cancel wins only the one without a fill.
-/

namespace TradeBot

open Library

namespace OrderLifecycleStore

variable {store : OrderLifecycleStore} {ops : List Operation} {request : CancelRequest}
  {executions : List ExecutionEvent} {result : CancelResult} {record : OrderLifecycleRecord}

/-- The store after a run, a cancel request and executions. -/
def raceEnd (ops : List Operation) (request : CancelRequest) (executions : List ExecutionEvent) :
    OrderLifecycleStore :=
  lifecycle.run (lifecycle.next (lifecycle.run empty ops) (.requestCancel request))
    (executions.map .applyExecution)

/-- A cancel request is applied, then partial executions of the same order are, and then an
accepted result of the cancel arrives under a fresh key, newer than the last event. -/
structure CancelRace (ops : List Operation) (request : CancelRequest)
    (executions : List ExecutionEvent) (result : CancelResult) : Prop where
  requested : (lifecycle.output (lifecycle.run empty ops) (.requestCancel request)).tookEffect
  executed : lifecycle.Along (fun store op => (lifecycle.output store op).tookEffect)
    (lifecycle.next (lifecycle.run empty ops) (.requestCancel request))
    (executions.map .applyExecution)
  same_order : ∀ execution ∈ executions, execution.localOrderId = request.localOrderId
  partial_fill : ∀ execution ∈ executions, ∀ record,
    (lifecycle.run empty ops).find request.localOrderId = some record →
    execution.cumulativeFilledQuantity.toRat < record.request.quantity.toRat
  same_result : result.localOrderId = request.localOrderId
  accepted : result.disposition = .accepted
  key_ne : result.eventKey ≠ ""
  key_fresh : result.eventKey ∉ (raceEnd ops request executions).appliedEventKeys
  newer : ∀ record, (raceEnd ops request executions).find request.localOrderId = some record →
    record.lastSequence < result.sequence ∧ record.lastTimestampNs < result.timestampNs

/-- The result of the cancel is applied, and it leaves the order canceled with the quantity of
its last fill. -/
def CancelWins (ops : List Operation) (request : CancelRequest)
    (executions : List ExecutionEvent) (result : CancelResult) : Prop :=
  (lifecycle.output (raceEnd ops request executions) (.applyCancelResult result)).tookEffect ∧
    ∃ origin record, (lifecycle.run empty ops).find request.localOrderId = some origin ∧
      (lifecycle.next (raceEnd ops request executions) (.applyCancelResult result)).find
        request.localOrderId = some record ∧
      record.state = .canceled ∧
      record.filledQuantity =
        (executions.getLast?.map (·.cumulativeFilledQuantity)).getD origin.filledQuantity

/-- An applied cancel request leaves its order pending, with its fill as it was. -/
theorem pending_of_requested
    (h : (lifecycle.output store (.requestCancel request)).tookEffect) :
    ∃ origin record, store.find request.localOrderId = some origin ∧
      (lifecycle.next store (.requestCancel request)).find request.localOrderId = some record ∧
      record.state = .cancelRequested ∧ record.filledQuantity = origin.filledQuantity := by
  rcases admitted_of_tookEffect h with ⟨_, hop, -⟩ |
    ⟨event, origin, record, hevent, hadmitted, -, haccepted, hnext⟩
  · cases hop
  · cases hevent
    refine ⟨origin, record, hadmitted.find_eq, by rw [hnext, find_commit]; exact if_pos rfl, ?_⟩
    obtain ⟨-, -, rfl⟩ := decideCancelRequest_eq_ok.mp haccepted
    exact ⟨rfl, rfl⟩

/-- An applied execution leaves its order filled or partly filled. -/
theorem filled_of_executed {execution : ExecutionEvent}
    (h : (lifecycle.output store (.applyExecution execution)).tookEffect) :
    ∃ record, (lifecycle.next store (.applyExecution execution)).find execution.localOrderId =
      some record ∧ (record.state = .filled ∨ record.state = .partiallyFilled) := by
  rcases admitted_of_tookEffect h with ⟨_, hop, -⟩ |
    ⟨event, origin, record, hevent, hadmitted, -, haccepted, hnext⟩
  · cases hop
  · cases hevent
    refine ⟨record, by rw [hnext, find_commit]; exact if_pos rfl, ?_⟩
    obtain ⟨-, -, -, -, rfl⟩ := decideExecution_eq_ok.mp haccepted
    change (if execution.remainingQuantity.isZero then OrderLifecycleState.filled
      else .partiallyFilled) = _ ∨ _
    split
    · exact Or.inl rfl
    · exact Or.inr rfl

/-- After at least one applied execution the order is not pending any more. -/
theorem not_pending_of_executed {last : ExecutionEvent}
    (hexecuted : lifecycle.Along (fun store op => (lifecycle.output store op).tookEffect) store
      ((executions ++ [last]).map .applyExecution)) :
    ∃ record, (lifecycle.run store ((executions ++ [last]).map .applyExecution)).find
      last.localOrderId = some record ∧ record.state ≠ .cancelRequested := by
  rw [List.map_append, List.map_singleton] at hexecuted ⊢
  rw [Machine.run_append, Machine.run_cons, Machine.run_nil]
  obtain ⟨record, hfind, hfilled⟩ := filled_of_executed hexecuted.at_split
  refine ⟨record, hfind, ?_⟩
  rcases hfilled with hstate | hstate <;> rw [hstate] <;> decide

/-- An event that is newer by number and time is not older. -/
theorem not_older_of_lt {timestampNs sequence : ℕ} (hsequence : record.lastSequence < sequence)
    (htime : record.lastTimestampNs < timestampNs) :
    record.eventIsOlder timestampNs sequence = false := by
  rw [OrderLifecycleRecord.eventIsOlder]
  split
  · rw [decide_eq_false_iff_not]
    omega
  · rw [decide_eq_false_iff_not]
    omega

/-- A cancel result of an order that is not pending is refused. -/
theorem cancelResult_refused (hfind : store.find result.localOrderId = some record)
    (hstate : record.state ≠ .cancelRequested) :
    ¬(lifecycle.output store (.applyCancelResult result)).tookEffect := by
  intro hdone
  rcases admitted_of_tookEffect hdone with ⟨_, hop, -⟩ | ⟨event, found, -, -, hadmitted, -, -, -⟩
  · cases hop
  · obtain rfl : found = record := Option.some.inj (hadmitted.find_eq.symm.trans hfind)
    exact hstate hadmitted.checks.1

/-- An accepted result of a pending cancel cancels the order and keeps its fill. -/
theorem cancelResult_applied (hfind : store.find result.localOrderId = some record)
    (hstate : record.state = .cancelRequested) (haccepted : result.disposition = .accepted)
    (hkey : result.eventKey ≠ "") (hfresh : result.eventKey ∉ store.appliedEventKeys)
    (hnewer : record.eventIsOlder result.timestampNs result.sequence = false) :
    (lifecycle.output store (.applyCancelResult result)).tookEffect ∧
      ∃ next, (lifecycle.next store (.applyCancelResult result)).find result.localOrderId =
        some next ∧ next.state = .canceled ∧ next.filledQuantity = record.filledQuantity := by
  have hchecks : (Operation.applyCancelResult result).checks record :=
    ⟨hstate, fun hfilled => by rw [haccepted] at hfilled; cases hfilled⟩
  have hadmitted : Admitted store (.applyCancelResult result) record :=
    ⟨hfind, hkey, hfresh, hchecks⟩
  obtain ⟨event, next, hevent, hdecision, hnext, hdone⟩ := hadmitted.takes_effect hnewer
  cases hevent
  refine ⟨hdone, next, by rw [hnext, find_commit]; exact if_pos rfl, ?_⟩
  obtain ⟨-, -, outcome, houtcome, rfl⟩ := decideCancelResult_eq_ok.mp hdecision
  rw [haccepted] at houtcome
  cases houtcome
  exact ⟨rfl, rfl⟩

/-- **The cancel wins its race** exactly if no partial fill crosses it. -/
theorem cancelWins_iff (race : CancelRace ops request executions result) :
    CancelWins ops request executions result ↔ executions = [] := by
  constructor
  · rintro ⟨hdone, -⟩
    rcases List.eq_nil_or_concat executions with hnil | ⟨others, last, rfl⟩
    · exact hnil
    · have hexecuted := race.executed
      rw [List.concat_eq_append] at hexecuted hdone
      obtain ⟨record, hfind, hstate⟩ := not_pending_of_executed hexecuted
      have horder := race.same_order last (by simp)
      rw [horder, ← race.same_result] at hfind
      exact absurd hdone (cancelResult_refused hfind hstate)
  · rintro rfl
    obtain ⟨origin, record, horigin, hfind, hstate, hfilled⟩ := pending_of_requested race.requested
    obtain ⟨hsequence, htime⟩ := race.newer record hfind
    have hpending := hfind
    rw [← race.same_result] at hpending
    obtain ⟨hdone, next, hnext, hcanceled, hkept⟩ := cancelResult_applied hpending hstate
      race.accepted race.key_ne race.key_fresh (not_older_of_lt hsequence htime)
    rw [race.same_result] at hnext
    exact ⟨hdone, origin, next, horigin, hnext, hcanceled, hkept.trans hfilled⟩

/-- A cancel request for the order of ten units. -/
def tenUnitsCancel : CancelRequest where
  localOrderId := 1
  externalOrderId := "x"
  timestampNs := 2
  sequence := 5
  idempotencyKey := "cancel"

/-- A fill of six of the ten units after the request. -/
def crossingFill : ExecutionEvent := { sixFilled with timestampNs := 3, sequence := 6 }

/-- The accepted result of the cancel. -/
def tenUnitsCanceled : CancelResult where
  localOrderId := 1
  disposition := .accepted
  timestampNs := 4
  sequence := 7
  eventKey := "canceled"

private theorem newer_of_map {store : OrderLifecycleStore} {localOrderId : ℕ} {sequence time : ℕ}
    {result : CancelResult}
    (h : (store.find localOrderId).map (fun r => (r.lastSequence, r.lastTimestampNs)) =
      some (sequence, time)) (hsequence : sequence < result.sequence)
    (htime : time < result.timestampNs) (record : OrderLifecycleRecord)
    (hfind : store.find localOrderId = some record) :
    record.lastSequence < result.sequence ∧ record.lastTimestampNs < result.timestampNs := by
  rw [hfind, Option.map_some, Option.some.injEq, Prod.mk.injEq] at h
  rw [h.1, h.2]
  exact ⟨hsequence, htime⟩

/-- The race without a fill. -/
theorem cancelRace_tenUnits :
    CancelRace (partialFill.take 4) tenUnitsCancel [] tenUnitsCanceled where
  requested := by decide +kernel
  executed := trivial
  same_order := by simp
  partial_fill := by simp
  same_result := rfl
  accepted := rfl
  key_ne := by decide
  key_fresh := by decide +kernel
  newer := newer_of_map (by decide +kernel) (by decide : 5 < _) (by decide : 2 < _)

/-- Without a fill the accepted order of ten units is canceled. -/
theorem cancelWins_tenUnits :
    CancelWins (partialFill.take 4) tenUnitsCancel [] tenUnitsCanceled :=
  (cancelWins_iff cancelRace_tenUnits).mpr rfl

/-- One partial fill between request and result, and the cancel is lost. -/
theorem not_cancelWins_crossingFill :
    CancelRace (partialFill.take 4) tenUnitsCancel [crossingFill] tenUnitsCanceled ∧
      ¬CancelWins (partialFill.take 4) tenUnitsCancel [crossingFill] tenUnitsCanceled := by
  constructor
  · refine ⟨by decide +kernel, by decide +kernel, by decide, ?_, rfl, rfl, by decide,
      by decide +kernel, newer_of_map (by decide +kernel) (by decide : 6 < _) (by decide : 3 < _)⟩
    intro execution hmem record hfind
    have hquantity : ((lifecycle.run empty (partialFill.take 4)).find 1).map
        (·.request.quantity) = some ⟨10, 0⟩ := by decide +kernel
    change (lifecycle.run empty (partialFill.take 4)).find 1 = some record at hfind
    rw [hfind, Option.map_some, Option.some.injEq] at hquantity
    rw [List.mem_singleton.mp hmem, hquantity]
    decide +kernel
  · rintro ⟨hdone, -⟩
    revert hdone
    decide +kernel

end OrderLifecycleStore

end TradeBot
