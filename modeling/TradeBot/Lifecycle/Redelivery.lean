import TradeBot.Lifecycle.Quantities
import TradeBot.Library.Redelivery

/-!
# Redelivered events

The store keeps the key of every applied event, never forgets a record, and asks
for the key before it looks at sequence numbers, states or quantities. So it keeps
the promise of a deduplicating component, and redeliveries have no effect.
-/

namespace TradeBot

open Library

namespace OrderLifecycleStore

/-- The operations that carry an event key. -/
def Keyed (op : Operation) : Prop := op.toEvent.isSome

/-- The store knows the key of the operation's event, and its order. -/
def Settled (store : OrderLifecycleStore) (op : Operation) : Prop :=
  ∃ event, op.toEvent = some event ∧ (store.find event.localOrderId).isSome ∧
    event.eventKey ≠ "" ∧ event.eventKey ∈ store.appliedEventKeys

/-- Writing a record loses neither orders nor keys. -/
private theorem Settled.commit {store : OrderLifecycleStore} {op : Operation}
    (h : store.Settled op) (localOrderId : ℕ) (record : OrderLifecycleRecord)
    (eventKey : String) : (store.commit localOrderId record eventKey).Settled op := by
  obtain ⟨event, hevent, hfind, hkey, hknown⟩ := h
  refine ⟨event, hevent, ?_, hkey, (mem_commit _ _ _ _ _).mpr (Or.inr hknown)⟩
  rw [find_commit]
  split
  · rfl
  · exact hfind

/-- An operation that is settled stays settled. -/
theorem Settled.next {store : OrderLifecycleStore} {op : Operation} (h : store.Settled op)
    (other : Operation) : (lifecycle.next store other).Settled op := by
  rcases step_cases store other with ⟨hsame, -⟩ | ⟨request, -, -, -, hnext, -⟩ |
    ⟨event, record, next, -, -, -, -, -, hnext, -⟩
  · rw [hsame]
    exact h
  · rw [hnext]
    exact h.commit _ _ _
  · rw [hnext]
    exact h.commit _ _ _

/-- An applied event is settled from then on. -/
theorem settled_of_applied {store : OrderLifecycleStore} {op : Operation} (hkeyed : Keyed op)
    (happlied : lifecycle.output store op = .event .applied) :
    (lifecycle.next store op).Settled op := by
  rcases step_cases store op with ⟨-, hrefused⟩ | ⟨request, rfl, -, -, -, -⟩ |
    ⟨event, record, next, hevent, hfind, hkey, hfresh, -, hnext, -⟩
  · rw [happlied] at hrefused
    exact absurd rfl hrefused
  · cases hkeyed
  · rw [hnext]
    refine ⟨event, hevent, ?_, hkey, (mem_commit _ _ _ _ _).mpr (Or.inl rfl)⟩
    rw [find_commit, if_pos rfl]
    rfl

/-- A settled event is answered as a duplicate and moves nothing. -/
theorem Settled.step {store : OrderLifecycleStore} {op : Operation} (h : store.Settled op) :
    lifecycle.step store op = (store, .event .duplicate) := by
  obtain ⟨event, hevent, hfind, hkey, hknown⟩ := h
  rw [step_of_toEvent hevent, handleEvent_duplicate _ hfind hkey hknown]
  rfl

/-- The store applies every event at most once. -/
def atMostOnce : AtMostOnce lifecycle (· = .event .applied) Keyed (.event .duplicate) where
  settled := Settled
  settles := settled_of_applied
  stays other h := h.next other
  absorbs h := h.step

/-- **Redelivery.** Into any run, at any later points, any number of events that were
already applied may be delivered again: each is answered `duplicate`, and the final
store and the answers to all other operations are those of the run without them. -/
theorem redeliveries_absorbed {store : OrderLifecycleStore} {deliveries : List (Operation × Bool)}
    (h : lifecycle.RedeliversAccepted (· = .event .applied) Keyed store deliveries) :
    lifecycle.run store (delivered deliveries) = lifecycle.run store (originals deliveries) ∧
      ((lifecycle.taggedOutputs store deliveries).filter fun o => !o.2).map Prod.fst =
        lifecycle.outputs store (originals deliveries) ∧
      ∀ o ∈ lifecycle.taggedOutputs store deliveries, o.2 = true → o.1 = .event .duplicate :=
  atMostOnce.redelivery h

/-- The partly filled order with its submission mark redelivered at the end. -/
def lateSubmission : List (Operation × Bool) :=
  partialFill.map (·, false) ++ [(.markSubmitted 1 "submit" 1 3, true)]

/-- The late submission mark does not disturb the partial fill. -/
theorem redeliveries_absorbed_lateSubmission :
    lifecycle.run empty (delivered lateSubmission) = lifecycle.run empty partialFill := by
  have haccepted : lifecycle.AcceptedIn (· = .event .applied) empty partialFill
      (.markSubmitted 1 "submit" 1 3) :=
    ⟨[.create tenUnits, .markRiskChecked 1 "risk" 1 2],
      [.applyAcknowledgement tenUnitsAccepted, .applyExecution sixFilled], rfl,
      by decide +kernel⟩
  have hkeyed : Keyed (.markSubmitted 1 "submit" 1 3) := rfl
  exact (redeliveries_absorbed (Machine.redeliversAccepted_concat hkeyed haccepted)).1

end OrderLifecycleStore

end TradeBot
