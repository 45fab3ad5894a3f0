import TradeBot.Lifecycle.Records

/-!
# Atomic refusals and absorbing terminal states

An operation that does not take effect leaves the whole store as it was, and no
operation touches a record in a terminal state. A rejected cancel goes around the
transition table; the state it restores was remembered from an open record.
-/

namespace TradeBot

open Library

namespace OrderLifecycleStore

/-- The state that a pending cancel would restore is one that a cancel can be
requested from. -/
def CancelsRestoreOpen (store : OrderLifecycleStore) : Prop :=
  ∀ localOrderId record, store.find localOrderId = some record →
    record.state = .cancelRequested → canTransition record.preCancelState .cancelRequested = true

/-- A decision that leads into a pending cancel remembers the open state it left. -/
theorem preCancelState_of_decision {op : Operation} {event : Event}
    {record next : OrderLifecycleRecord} (hop : op.toEvent = some event)
    (h : event.decision record = .ok next)
    (hrecord : record.state = .cancelRequested →
      canTransition record.preCancelState .cancelRequested = true)
    (hnext : next.state = .cancelRequested) :
    canTransition next.preCancelState .cancelRequested = true := by
  have hadvances := decision_advances hop h
  rw [hadvances.preCancelState_eq, if_pos hnext]
  rcases hadvances.moved with hmoved | ⟨hpending, hrestored, -⟩
  · rw [hnext] at hmoved
    exact hmoved
  · -- the record would remember a pending cancel, which no cancel can be requested from
    have hopen := hrecord hpending
    rw [← hrestored, hnext] at hopen
    cases hopen

/-- Every operation keeps open what a pending cancel would restore. -/
theorem CancelsRestoreOpen.next {store : OrderLifecycleStore} (h : store.CancelsRestoreOpen)
    (op : Operation) : (lifecycle.next store op).CancelsRestoreOpen := by
  refine Every.next h (fun request _ hstate => ?_) fun event record next hevent _ _ _ hdecision
    hrecord hstate => preCancelState_of_decision hevent hdecision hrecord hstate
  cases hstate

/-- No operation touches a terminal record. -/
theorem find_next_of_terminal {store : OrderLifecycleStore} {localOrderId : ℕ}
    {record : OrderLifecycleRecord} (hfind : store.find localOrderId = some record)
    (hterminal : isTerminal record.state = true) (op : Operation) :
    (lifecycle.next store op).find localOrderId = some record := by
  rcases step_cases store op with ⟨hsame, -⟩ | ⟨request, -, hfresh, -, hnext, -⟩ |
    ⟨event, found, next, hevent, hfound, -, -, hdecision, hnext, -⟩
  · rw [hsame]
    exact hfind
  · rw [hnext, find_commit, if_neg]
    · exact hfind
    · rintro rfl
      rw [hfresh] at hfind
      cases hfind
  · rw [hnext, find_commit, if_neg]
    · exact hfind
    · rintro rfl
      obtain rfl : found = record := Option.some.inj (hfound.symm.trans hfind)
      have hopen := (decision_revises hevent hdecision).isOpen
      rw [hterminal] at hopen
      cases hopen

/-- **Refusals are atomic and terminal states absorb.** In every reachable store an
operation that does not take effect changes nothing, a terminal record survives
every later sequence of operations as it is, and a pending cancel never remembers
a terminal state to restore. -/
theorem refusals_atomic_terminals_absorbing (ops : List Operation) :
    let store := lifecycle.run empty ops
    (∀ op, ¬(lifecycle.output store op).tookEffect → lifecycle.next store op = store) ∧
      (∀ localOrderId record, store.find localOrderId = some record →
        isTerminal record.state = true →
        ∀ later, (lifecycle.run store later).find localOrderId = some record) ∧
      ∀ localOrderId record, store.find localOrderId = some record →
        record.state = .cancelRequested → isTerminal record.preCancelState = false := by
  intro store
  have hrestore : store.CancelsRestoreOpen :=
    Machine.invariant_run (fun _ op h => h.next op) (fun _ _ h => by cases h) ops
  refine ⟨fun op hrefused => ?_, fun localOrderId record hfind hterminal later => ?_,
    fun localOrderId record hfind hstate => ?_⟩
  · rcases step_cases store op with ⟨hsame, -⟩ | ⟨-, -, -, -, -, hdone⟩ |
      ⟨-, -, -, -, -, -, -, -, -, hdone⟩
    · exact hsame
    · exact absurd hdone hrefused
    · exact absurd hdone hrefused
  · exact Machine.invariant_run
      (I := fun s : OrderLifecycleStore => s.find localOrderId = some record)
      (fun s op h => find_next_of_terminal h hterminal op) hfind later
  · exact isTerminal_of_canTransition (hrestore localOrderId record hfind hstate)

/-- A fill of all ten units. -/
def tenFilled : ExecutionEvent :=
  { sixFilled with cumulativeFilledQuantity := ⟨10, 0⟩, remainingQuantity := ⟨0, 0⟩ }

/-- The order of ten units, from its creation to its full fill. -/
def fullFill : List Operation := [.create tenUnits, .markRiskChecked 1 "risk" 1 2,
  .markSubmitted 1 "submit" 1 3, .applyAcknowledgement tenUnitsAccepted,
  .applyExecution tenFilled]

/-- The filled order survives a late timeout and a late reconciliation, and a second
submission is refused without a trace. -/
theorem fullFill_absorbing :
    let store := lifecycle.run empty fullFill
    lifecycle.next store (.markSubmitted 1 "again" 2 9) = store ∧
      ∃ record, store.find 1 = some record ∧ record.state = .filled ∧
        (lifecycle.run store [.markTimeout 1 "late" 2 9, .applyReconciliation {
          localOrderId := 1
          resolvedState := .canceled
          cumulativeFilled := ⟨0, 0⟩
          remaining := ⟨10, 0⟩
          eventKey := "reconcile"
          timestampNs := 2
          sequence := 10 }]).find 1 = some record := by
  intro store
  obtain ⟨hatomic, habsorbing, -⟩ := refusals_atomic_terminals_absorbing fullFill
  have hstate : (store.find 1).map (·.state) = some .filled := by decide +kernel
  obtain ⟨record, hfind, hfilled⟩ := Option.map_eq_some_iff.mp hstate
  refine ⟨hatomic _ (by decide +kernel), record, hfind, hfilled, ?_⟩
  exact habsorbing 1 record hfind (by rw [hfilled]; rfl) _

end OrderLifecycleStore

end TradeBot
