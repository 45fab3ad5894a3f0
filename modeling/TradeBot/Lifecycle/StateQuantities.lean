import TradeBot.Lifecycle.FilledMonotone
import TradeBot.Lifecycle.Records

/-!
# States and quantities

The state of an order says something about its quantities: nothing is filled before
the first execution, something but not all in a partial fill, and nothing remains of
a filled order. The store keeps this up along exactly the runs in which no partial
fill reports zero and no reconciliation reports a filled order with a remainder.
-/

namespace TradeBot

open Library

namespace OrderLifecycleRecord

/-- The states before the first fill. -/
def isUnfilled (state : OrderLifecycleState) : Bool :=
  decide (state ∈ [.created, .riskChecked, .submitted, .accepted, .rejected])

/-- The quantities of the record fit a state and the state that a reconciliation has
resolved to. -/
structure Fits (record : OrderLifecycleRecord) (state : OrderLifecycleState)
    (reconciledState : Option OrderLifecycleState) : Prop where
  filled : state = .filled ∨ state = .reconciled ∧ reconciledState = some .filled →
    record.remainingQuantity.toRat = 0
  partiallyFilled : state = .partiallyFilled →
    0 < record.filledQuantity.toRat ∧ record.filledQuantity.toRat < record.request.quantity.toRat
  unfilled : isUnfilled state = true → record.filledQuantity.toRat = 0

/-- The quantities of the record fit its own state. -/
def StateAgrees (record : OrderLifecycleRecord) : Prop :=
  record.Fits record.state record.reconciledState

/-- The quantities also fit the state that a rejected cancel would restore. -/
structure StateSettled (record : OrderLifecycleRecord) : Prop where
  agrees : record.StateAgrees
  restores : record.state = .cancelRequested →
    record.Fits record.preCancelState record.reconciledState

variable {record : OrderLifecycleRecord}

/-- A state that is entered before the first fill is left before the first fill. -/
private theorem isUnfilled_of_canTransition {origin target : OrderLifecycleState}
    (h : canTransition origin target = true) (htarget : isUnfilled target = true) :
    isUnfilled origin = true := by
  revert h htarget
  cases target <;> cases origin <;> decide

/-- A record with the same order and quantities fits the same states. -/
theorem Fits.congr {next : OrderLifecycleRecord} {state : OrderLifecycleState}
    {reconciled : Option OrderLifecycleState} (h : record.Fits state reconciled)
    (hrequest : next.request = record.request)
    (hfilled : next.filledQuantity = record.filledQuantity)
    (hremaining : next.remainingQuantity = record.remainingQuantity) :
    next.Fits state reconciled := by
  refine ⟨?_, ?_, ?_⟩
  · rw [hremaining]
    exact h.filled
  · rw [hfilled, hrequest]
    exact h.partiallyFilled
  · rw [hfilled]
    exact h.unfilled

/-- A move that is no fill keeps quantities and state together. -/
theorem Fits.move {origin target : OrderLifecycleState} {reconciled : Option OrderLifecycleState}
    (h : record.Fits origin reconciled) (hmove : canTransition origin target = true)
    (htarget : target ∉ [.partiallyFilled, .filled, .reconciled]) :
    record.Fits target reconciled := by
  refine ⟨?_, ?_, fun hunfilled => h.unfilled (isUnfilled_of_canTransition hmove hunfilled)⟩
  · rintro (rfl | ⟨rfl, -⟩) <;> simp at htarget
  · rintro rfl
    simp at htarget

end OrderLifecycleRecord

namespace OrderLifecycleStore

open OrderLifecycleRecord

/-- The checks that `applyExecution` makes. -/
def ExecutionAdmitted (store : OrderLifecycleStore) (execution : ExecutionEvent)
    (record : OrderLifecycleRecord) : Prop :=
  execution.eventKey ≠ "" ∧ execution.eventKey ∉ store.appliedEventKeys ∧
    record.eventIsOlder execution.timestampNs execution.sequence = false ∧
    record.validQuantities execution.cumulativeFilledQuantity execution.remainingQuantity = true ∧
    ¬execution.cumulativeFilledQuantity.units < record.filledQuantity.units ∧
    canTransition record.state
      (if execution.remainingQuantity.isZero then .filled else .partiallyFilled) = true

/-- What passes the checks also fits the state it leads to: a partial fill reports a
positive quantity, and nothing remains of an order that is reconciled as filled. -/
structure ReportsFitState (store : OrderLifecycleStore) (op : Operation) : Prop where
  execution_pos : ∀ execution, op = .applyExecution execution → ∀ record,
    store.find execution.localOrderId = some record → ExecutionAdmitted store execution record →
      execution.remainingQuantity.isZero = false → 0 < execution.cumulativeFilledQuantity.units
  reconciled_filled : ∀ event, op = .applyReconciliation event → ∀ record,
    store.find event.localOrderId = some record → ReconciliationAdmitted store event record →
      event.resolvedState = .filled → event.remaining.units = 0

/-- A new record has the quantities of its state. -/
theorem stateSettled_newRecord {request : OrderRequest} : (newRecord request).StateSettled := by
  refine ⟨⟨?_, ?_, fun _ => Decimal64.toRat_zero _⟩, ?_⟩
  · rintro (h | ⟨h, -⟩) <;> cases h
  · intro h
    cases h
  · intro h
    cases h

/-- A transition into a state that says nothing of fills keeps the quantities settled. -/
private theorem stateSettled_transition {target : OrderLifecycleState} {key : String}
    {timestampNs sequence : ℕ} {record next : OrderLifecycleRecord}
    (htarget : target ∉ [.partiallyFilled, .filled, .reconciled])
    (hcancel : target ≠ .cancelRequested)
    (hdecision : decideTransition target key timestampNs sequence record = .ok next)
    (h : record.StateSettled) : next.StateSettled := by
  obtain ⟨-, hstate, rfl⟩ := decideTransition_eq_ok.mp hdecision
  exact ⟨(h.agrees.move hstate htarget).congr rfl rfl rfl, fun heq => absurd heq hcancel⟩

/-- An execution makes a record that fits its state, when a partial fill is positive. -/
private theorem stateSettled_execution {execution : ExecutionEvent}
    {record next : OrderLifecycleRecord}
    (hdecision : decideExecution execution record = .ok next)
    (hpositive : execution.remainingQuantity.isZero = false →
      0 < execution.cumulativeFilledQuantity.units) : next.StateSettled := by
  obtain ⟨-, hvalid, -, -, rfl⟩ := decideExecution_eq_ok.mp hdecision
  obtain ⟨hs, -, -, hremaining, hsum⟩ := validQuantities_iff.mp hvalid
  cases hzero : execution.remainingQuantity.isZero with
  | true =>
    refine ⟨⟨fun _ => ?_, ?_, ?_⟩, ?_⟩
    · exact Decimal64.toRat_eq_zero_iff.mpr (of_decide_eq_true hzero)
    · intro h
      cases h
    · intro h
      cases h
    · intro h
      cases h
  | false =>
    have hdrawn := hpositive hzero
    refine ⟨⟨?_, fun _ => ⟨Decimal64.toRat_pos_iff.mpr hdrawn, ?_⟩, ?_⟩, ?_⟩
    · rintro (h | ⟨h, -⟩) <;> cases h
    · have hne : execution.remainingQuantity.units.toInt ≠ 0 := by
        intro heq
        have hunits : execution.remainingQuantity.units = 0 := Int64.toInt_inj.mp heq
        rw [Decimal64.isZero, decide_eq_true hunits] at hzero
        cases hzero
      change execution.cumulativeFilledQuantity.toRat < record.request.quantity.toRat
      rw [Decimal64.toRat, Decimal64.toRat, hs, div_lt_div_iff_of_pos_right (by positivity),
        Int.cast_lt]
      omega
    · intro h
      cases h
    · intro h
      cases h

/-- Every decision keeps quantities and states together, when reports fit. -/
theorem stateSettled_of_decision {store : OrderLifecycleStore} {op : Operation} {event : Event}
    {record next : OrderLifecycleRecord} (hfits : ReportsFitState store op)
    (hevent : op.toEvent = some event) (hfind : store.find event.localOrderId = some record)
    (hkey : event.eventKey ≠ "") (hnew : event.eventKey ∉ store.appliedEventKeys)
    (hdecision : event.decision record = .ok next) (h : record.StateSettled) :
    next.StateSettled := by
  cases op with
  | create request => cases hevent
  | markRiskChecked id key ts seq =>
    cases hevent
    exact stateSettled_transition (by decide) (by decide) hdecision h
  | markSubmitted id key ts seq =>
    cases hevent
    exact stateSettled_transition (by decide) (by decide) hdecision h
  | applyAcknowledgement ack =>
    cases hevent
    obtain ⟨-, -, hstate, rfl⟩ := decideAcknowledgement_eq_ok.mp hdecision
    cases hack : ack.accepted with
    | true =>
      rw [hack] at hstate
      refine ⟨(h.agrees.move hstate (by decide)).congr rfl rfl rfl, ?_⟩
      intro heq
      cases heq
    | false =>
      rw [hack] at hstate
      refine ⟨(h.agrees.move hstate (by decide)).congr rfl rfl rfl, ?_⟩
      intro heq
      cases heq
  | applyExecution execution =>
    cases hevent
    obtain ⟨holder, hvalid, hle, hstate, -⟩ := decideExecution_eq_ok.mp hdecision
    exact stateSettled_execution hdecision
      (hfits.execution_pos execution rfl record hfind ⟨hkey, hnew, holder, hvalid, hle, hstate⟩)
  | requestCancel request =>
    cases hevent
    obtain ⟨-, hstate, rfl⟩ := decideCancelRequest_eq_ok.mp hdecision
    exact ⟨(h.agrees.move hstate (by decide)).congr rfl rfl rfl,
      fun _ => Fits.congr h.agrees rfl rfl rfl⟩
  | applyCancelResult result =>
    cases hevent
    obtain ⟨-, hstate, outcome, houtcome, rfl⟩ := decideCancelResult_eq_ok.mp hdecision
    have hfitsOutcome : record.Fits outcome record.reconciledState := by
      have hagrees := h.agrees
      rw [StateAgrees, hstate] at hagrees
      cases hdisposition : result.disposition with
      | rejected =>
        rw [hdisposition] at houtcome
        cases houtcome
        exact h.restores hstate
      | alreadyFilled =>
        rw [hdisposition, cancelOutcome] at houtcome
        split at houtcome
        · next hzero =>
          cases houtcome
          refine ⟨fun _ => Decimal64.toRat_eq_zero_iff.mpr (of_decide_eq_true hzero), ?_, ?_⟩
          · intro heq
            cases heq
          · intro heq
            cases heq
        · cases houtcome
      | _ =>
        rw [hdisposition] at houtcome
        cases houtcome
        exact hagrees.move (by decide) (by decide)
    refine ⟨hfitsOutcome.congr rfl rfl rfl, fun _ => (h.restores hstate).congr rfl rfl rfl⟩
  | markTimeout id key ts seq =>
    cases hevent
    exact stateSettled_transition (by decide) (by decide) hdecision h
  | markUnknown id key failure reason ts seq =>
    cases hevent
    obtain ⟨revised, hrevised, rfl⟩ := map_eq_ok.mp hdecision
    have hsettled := stateSettled_transition (by decide) (by decide) hrevised h
    exact ⟨Fits.congr hsettled.agrees rfl rfl rfl,
      fun heq => (hsettled.restores heq).congr rfl rfl rfl⟩
  | applyReconciliation reconciliation =>
    cases hevent
    obtain ⟨holder, hvalid, hstate, hresolvable, rfl⟩ := decideReconciliation_eq_ok.mp hdecision
    refine ⟨⟨?_, ?_, ?_⟩, ?_⟩
    · rintro (heq | ⟨-, hresolved⟩)
      · cases heq
      · exact Decimal64.toRat_eq_zero_iff.mpr (hfits.reconciled_filled reconciliation rfl record
          hfind ⟨hkey, hnew, holder, hvalid, hstate, hresolvable⟩ (Option.some.inj hresolved))
    · intro heq
      cases heq
    · intro heq
      cases heq
    · intro heq
      cases heq

/-- An order's quantities fit its state in every state of a run. -/
def StatesAgree (ops : List Operation) : Prop :=
  ∀ before after, ops = before ++ after →
    (lifecycle.run empty before).Every OrderLifecycleRecord.StateAgrees

/-- **States and quantities agree** along exactly the runs in which what passes the checks
also fits the state it leads to. -/
theorem statesAgree_iff (ops : List Operation) :
    StatesAgree ops ↔ lifecycle.Along ReportsFitState empty ops := by
  constructor
  · intro hagree
    refine Machine.along_of_splits fun before op after hsplit => ?_
    have hnext := hagree (before ++ [op]) after (by rw [hsplit, List.append_assoc]; rfl)
    rw [Machine.run_append, Machine.run_cons, Machine.run_nil] at hnext
    constructor
    · rintro execution rfl record hfind ⟨hkey, hnew, holder, hvalid, hle, hstate⟩ hopen
      have hdecision := decideExecution_eq_ok.mpr ⟨holder, hvalid, hle, hstate, rfl⟩
      rw [(next_of_decision rfl hfind hkey hnew hdecision).1] at hnext
      have hfits := hnext _ _ (by rw [find_commit, if_pos rfl])
      have hdrawn := (hfits.partiallyFilled (by simp [appendAudit, hopen])).1
      exact Decimal64.toRat_pos_iff.mp hdrawn
    · rintro event rfl record hfind ⟨hkey, hnew, holder, hvalid, hstate, hresolvable⟩ hfilled
      have hdecision := decideReconciliation_eq_ok.mpr ⟨holder, hvalid, hstate, hresolvable, rfl⟩
      rw [(next_of_decision rfl hfind hkey hnew hdecision).1] at hnext
      have hfits := hnext _ _ (by rw [find_commit, if_pos rfl])
      exact Decimal64.toRat_eq_zero_iff.mp
        (hfits.filled (Or.inr ⟨rfl, congrArg some hfilled⟩))
  · rintro hfits before after rfl
    have hsettled := Machine.invariant_run_of_along (I := Every StateSettled)
      (fun store op h hop => Every.next h (fun _ _ => stateSettled_newRecord)
        fun _ _ _ hevent hfind hkey hnew => stateSettled_of_decision hop hevent hfind hkey hnew)
      (every_empty _) hfits.prefix
    exact fun id record hfind => (hsettled id record hfind).agrees

/-- An execution of the order of ten units that reports nothing filled. -/
def nothingFilled : ExecutionEvent :=
  { sixFilled with cumulativeFilledQuantity := ⟨0, 0⟩, remainingQuantity := ⟨10, 0⟩ }

/-- A reconciliation that resolves the partly filled order as filled, with four units
remaining. -/
def filledWithRemainder : Reconciliation :=
  { twoReported with
    resolvedState := .filled
    cumulativeFilled := ⟨6, 0⟩
    remaining := ⟨4, 0⟩ }

/-- An execution of nothing is a partial fill, and an order with a remainder can be
reconciled as filled. -/
theorem not_statesAgree_emptyFill_remainder :
    ¬StatesAgree (partialFill.take 4 ++ [.applyExecution nothingFilled]) ∧
      ¬StatesAgree (partialFill ++ [.applyReconciliation filledWithRemainder]) := by
  constructor
  · intro hagree
    have hstate : ((lifecycle.run empty (partialFill.take 4 ++
        [.applyExecution nothingFilled])).find 1).map (fun r => (r.state, r.filledQuantity)) =
        some (.partiallyFilled, ⟨0, 0⟩) := by decide +kernel
    obtain ⟨record, hfind, heq⟩ := Option.map_eq_some_iff.mp hstate
    rw [Prod.mk.injEq] at heq
    have hfits := (hagree _ [] (List.append_nil _).symm 1 record hfind).partiallyFilled heq.1
    rw [heq.2, Decimal64.toRat_zero] at hfits
    exact absurd hfits.1 (lt_irrefl 0)
  · intro hagree
    have hstate : ((lifecycle.run empty (partialFill ++
        [.applyReconciliation filledWithRemainder])).find 1).map
          (fun r => (r.state, r.reconciledState, r.remainingQuantity)) =
        some (.reconciled, some .filled, ⟨4, 0⟩) := by decide +kernel
    obtain ⟨record, hfind, heq⟩ := Option.map_eq_some_iff.mp hstate
    rw [Prod.mk.injEq, Prod.mk.injEq] at heq
    have hfits := (hagree _ [] (List.append_nil _).symm 1 record hfind).filled
      (Or.inr ⟨heq.1, heq.2.1⟩)
    rw [heq.2.2] at hfits
    exact absurd hfits (by decide +kernel)

end OrderLifecycleStore

end TradeBot
