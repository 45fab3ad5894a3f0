import TradeBot.Lifecycle.Records

/-!
# The filled quantity over whole runs

Executions compare the reported cumulative quantity with the recorded one;
reconciliations do not. So the filled quantity of every order grows along exactly
those runs in which no reconciliation that would be applied reports less.
-/

namespace TradeBot

open Library

namespace OrderLifecycleStore

/-- Every order of the first store is in the second, filled at least as far. -/
def FilledLe (store store' : OrderLifecycleStore) : Prop :=
  ∀ localOrderId record, store.find localOrderId = some record →
    ∃ record', store'.find localOrderId = some record' ∧
      record.filledQuantity.toRat ≤ record'.filledQuantity.toRat

/-- From every state of a run to every later one, no filled quantity decreases. -/
def FilledMonotone (store : OrderLifecycleStore) (ops : List Operation) : Prop :=
  ∀ before middle after, ops = before ++ middle ++ after →
    FilledLe (lifecycle.run store before) (lifecycle.run store (before ++ middle))

/-- The checks that `applyReconciliation` makes. -/
def ReconciliationAdmitted (store : OrderLifecycleStore) (event : Reconciliation)
    (record : OrderLifecycleRecord) : Prop :=
  event.eventKey ≠ "" ∧ event.eventKey ∉ store.appliedEventKeys ∧
    record.eventIsOlder event.timestampNs event.sequence = false ∧
    record.validQuantities event.cumulativeFilled event.remaining = true ∧
    canTransition record.state .reconciled = true ∧ isResolvable event.resolvedState = true

/-- A reconciliation that passes the checks reports no less than is filled. -/
def ReconciliationCovers (store : OrderLifecycleStore) (op : Operation) : Prop :=
  ∀ event, op = .applyReconciliation event → ∀ record,
    store.find event.localOrderId = some record → ReconciliationAdmitted store event record →
      record.filledQuantity.units ≤ event.cumulativeFilled.units

/-- A store has filled as much as itself. -/
theorem FilledLe.refl (store : OrderLifecycleStore) : FilledLe store store :=
  fun _ record h => ⟨record, h, le_refl _⟩

/-- Filling more twice is filling more. -/
theorem FilledLe.trans {s t u : OrderLifecycleStore} (hst : FilledLe s t) (htu : FilledLe t u) :
    FilledLe s u := by
  intro localOrderId record h
  obtain ⟨record', h', hle⟩ := hst localOrderId record h
  obtain ⟨record'', h'', hle'⟩ := htu localOrderId record' h'
  exact ⟨record'', h'', le_trans hle hle'⟩

/-- At one scale, decimals compare as their units do. -/
theorem toRat_le_iff {a b : Decimal64} (h : a.scale = b.scale) :
    a.toRat ≤ b.toRat ↔ a.units ≤ b.units := by
  rw [Decimal64.toRat, Decimal64.toRat, h, div_le_div_iff_of_pos_right (by positivity),
    Int64.le_iff_toInt_le, Int.cast_le]

/-- Writing one record keeps the fills when its own fill does not decrease. -/
private theorem filledLe_commit {store : OrderLifecycleStore} {localOrderId : ℕ}
    {next : OrderLifecycleRecord} (eventKey : String)
    (h : ∀ record, store.find localOrderId = some record →
      record.filledQuantity.toRat ≤ next.filledQuantity.toRat) :
    FilledLe store (store.commit localOrderId next eventKey) := by
  intro other record hfind
  rw [find_commit]
  split
  · next hother =>
    subst hother
    exact ⟨next, rfl, h record hfind⟩
  · exact ⟨record, hfind, le_refl _⟩

/-- What a decision does to the filled quantity: only an execution and a
reconciliation replace it, and an execution by no less. -/
theorem filled_of_decision {op : Operation} {event : Event} {record next : OrderLifecycleRecord}
    (hop : op.toEvent = some event) (h : event.decision record = .ok next) :
    next.filledQuantity = record.filledQuantity ∨
      (record.filledQuantity.units ≤ next.filledQuantity.units ∧
        next.filledQuantity.scale = record.request.quantity.scale) ∨
      ∃ reconciliation, op = .applyReconciliation reconciliation ∧
        next.filledQuantity = reconciliation.cumulativeFilled := by
  cases op with
  | create request => cases hop
  | markRiskChecked id key ts seq =>
    cases hop
    obtain ⟨-, -, rfl⟩ := decideTransition_eq_ok.mp h
    exact Or.inl rfl
  | markSubmitted id key ts seq =>
    cases hop
    obtain ⟨-, -, rfl⟩ := decideTransition_eq_ok.mp h
    exact Or.inl rfl
  | applyAcknowledgement ack =>
    cases hop
    obtain ⟨-, -, -, rfl⟩ := decideAcknowledgement_eq_ok.mp h
    exact Or.inl rfl
  | applyExecution execution =>
    cases hop
    obtain ⟨-, hvalid, hle, -, rfl⟩ := decideExecution_eq_ok.mp h
    refine Or.inr (Or.inl ⟨?_, (OrderLifecycleRecord.validQuantities_iff.mp hvalid).1⟩)
    exact Int64.not_lt.mp hle
  | requestCancel request =>
    cases hop
    obtain ⟨-, -, rfl⟩ := decideCancelRequest_eq_ok.mp h
    exact Or.inl rfl
  | applyCancelResult result =>
    cases hop
    obtain ⟨-, -, outcome, -, rfl⟩ := decideCancelResult_eq_ok.mp h
    exact Or.inl rfl
  | markTimeout id key ts seq =>
    cases hop
    obtain ⟨-, -, rfl⟩ := decideTransition_eq_ok.mp h
    exact Or.inl rfl
  | markUnknown id key failure reason ts seq =>
    cases hop
    obtain ⟨revised, hrevised, rfl⟩ := map_eq_ok.mp h
    obtain ⟨-, -, rfl⟩ := decideTransition_eq_ok.mp hrevised
    exact Or.inl rfl
  | applyReconciliation reconciliation =>
    cases hop
    obtain ⟨-, -, -, -, rfl⟩ := decideReconciliation_eq_ok.mp h
    exact Or.inr (Or.inr ⟨reconciliation, rfl, rfl⟩)

/-- A step keeps all fills when a reconciliation covers the fill it replaces. -/
theorem filledLe_next {store : OrderLifecycleStore} (hconserved : store.Conserved)
    {op : Operation} (hcovers : ReconciliationCovers store op) :
    FilledLe store (lifecycle.next store op) := by
  rcases step_cases store op with ⟨hsame, -⟩ | ⟨request, -, hfresh, -, hnext, -⟩ |
    ⟨event, record, next, hevent, hfind, hkey, hnew, hdecision, hnext, -⟩
  · rw [hsame]
    exact FilledLe.refl store
  · rw [hnext]
    refine filledLe_commit _ fun record hfind => ?_
    rw [hfresh] at hfind
    cases hfind
  · rw [hnext]
    refine filledLe_commit _ fun record' hfind' => ?_
    obtain rfl : record = record' := Option.some.inj (hfind.symm.trans hfind')
    have hscale := (hconserved _ _ hfind).filled_scale
    rcases filled_of_decision hevent hdecision with hsame | ⟨hle, hscale'⟩ | ⟨r, rfl, hfilled⟩
    · rw [hsame]
    · exact (toRat_le_iff (hscale.trans hscale'.symm)).mpr hle
    · cases hevent
      obtain ⟨holder, hvalid, hstate, hresolvable, -⟩ := decideReconciliation_eq_ok.mp hdecision
      have hle := hcovers r rfl record hfind ⟨hkey, hnew, holder, hvalid, hstate, hresolvable⟩
      have hscale' := (OrderLifecycleRecord.validQuantities_iff.mp hvalid).1
      rw [hfilled]
      exact (toRat_le_iff (hscale.trans hscale'.symm)).mpr hle

/-- A reconciliation that passes the checks writes the quantity that it reports. -/
theorem find_next_reconciliation {store : OrderLifecycleStore} {event : Reconciliation}
    {record : OrderLifecycleRecord} (hfind : store.find event.localOrderId = some record)
    (h : ReconciliationAdmitted store event record) :
    ∃ next, (lifecycle.next store (.applyReconciliation event)).find event.localOrderId =
      some next ∧ next.filledQuantity = event.cumulativeFilled := by
  obtain ⟨hkey, hnew, holder, hvalid, hstate, hresolvable⟩ := h
  obtain ⟨next, hdecision⟩ : ∃ next, decideReconciliation event record = .ok next :=
    ⟨_, decideReconciliation_eq_ok.mpr ⟨holder, hvalid, hstate, hresolvable, rfl⟩⟩
  have hfilled : next.filledQuantity = event.cumulativeFilled := by
    obtain ⟨-, -, -, -, rfl⟩ := decideReconciliation_eq_ok.mp hdecision
    rfl
  have hnext := (@next_of_decision _ (.applyReconciliation event) _ _ _ rfl hfind hkey hnew
    hdecision).1
  refine ⟨next, ?_, hfilled⟩
  rw [hnext]
  exact (find_commit _ _ _ _ _).trans (if_pos rfl)

/-- **Filled quantities are monotone** along exactly the runs in which every
reconciliation that passes the checks covers the fill it replaces. -/
theorem filledMonotone_iff (ops : List Operation) :
    FilledMonotone empty ops ↔ lifecycle.Along ReconciliationCovers empty ops := by
  constructor
  · intro hmono
    refine Machine.along_of_splits fun before op after hsplit => ?_
    rintro event rfl record hfind hadmitted
    have hle := hmono before [.applyReconciliation event] after
      (by rw [hsplit, List.append_assoc, List.singleton_append])
    rw [Machine.run_append, Machine.run_cons, Machine.run_nil] at hle
    obtain ⟨next, hnext, hfilled⟩ := find_next_reconciliation hfind hadmitted
    obtain ⟨next', hnext', hle⟩ := hle _ record hfind
    obtain rfl : next = next' := Option.some.inj (hnext.symm.trans hnext')
    have hscale := (conserved_run before _ record hfind).filled_scale
    have hscale' := (OrderLifecycleRecord.validQuantities_iff.mp hadmitted.2.2.2.1).1
    rw [hfilled] at hle
    exact (toRat_le_iff (hscale.trans hscale'.symm)).mp hle
  · rintro hcovers before middle after rfl
    have hsteps : lifecycle.Along (fun s op => FilledLe s (lifecycle.next s op)) empty
        (before ++ middle ++ after) :=
      Machine.along_of_invariant (I := Conserved) (fun _ op h _ => h.next op)
        (fun _ _ h hop => filledLe_next h hop) conserved_empty hcovers
    rw [List.append_assoc] at hsteps
    rw [Machine.run_append]
    exact Machine.relation_run_of_along FilledLe.refl FilledLe.trans (fun _ _ h => h)
      hsteps.suffix.prefix

/-- A reconciliation of the partly filled order that reports two units. -/
def twoReported : Reconciliation where
  localOrderId := 1
  resolvedState := .canceled
  cumulativeFilled := ⟨2, 0⟩
  remaining := ⟨8, 0⟩
  eventKey := "reconcile"
  timestampNs := 1
  sequence := 6

/-- After six of ten units were filled, a reconciliation that reports two takes
four units back. -/
theorem not_filledMonotone_twoReported :
    ¬FilledMonotone empty (partialFill ++ [.applyReconciliation twoReported]) := by
  intro hmono
  have hle := hmono partialFill [.applyReconciliation twoReported] [] (List.append_nil _).symm
  have hbefore : ((lifecycle.run empty partialFill).find 1).map (·.filledQuantity) =
      some ⟨6, 0⟩ := by decide +kernel
  have hafter : ((lifecycle.run empty (partialFill ++ [.applyReconciliation twoReported])).find
      1).map (·.filledQuantity) = some ⟨2, 0⟩ := by decide +kernel
  obtain ⟨record, hfind, hfilled⟩ := Option.map_eq_some_iff.mp hbefore
  obtain ⟨record', hfind', hle⟩ := hle 1 record hfind
  rw [hfind', Option.map_some, Option.some.injEq] at hafter
  rw [hfilled, hafter] at hle
  exact absurd hle (by decide +kernel)

end OrderLifecycleStore

end TradeBot
