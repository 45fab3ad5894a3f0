import TradeBot.Trading.Dispatch
import TradeBot.Trading.EventKeys

/-!
# Keys that name an order

Callers number some of their event keys by order. When a key of such a family is only ever
applied to the order of its number, the store has an order for every key of the family that
it knows; so a new order never finds its key taken.
-/

namespace TradeBot

open Library

namespace OrderLifecycleStore

variable {store : OrderLifecycleStore} {key : ℕ → String} {localOrderId : ℕ} {eventKey : String}

/-- The key is that of the order, or it is not of the family. -/
def OnlyKeyOf (key : ℕ → String) (localOrderId : ℕ) (eventKey : String) : Prop :=
  ∀ other, key other = eventKey → other = localOrderId

/-- The key of an order is no other order's. -/
theorem onlyKeyOf_self (hkey : Function.Injective key) (localOrderId : ℕ) :
    OnlyKeyOf key localOrderId (key localOrderId) := fun _ heq => hkey heq

/-- A key that does not begin like the family is not of the family. -/
theorem onlyKeyOf_of_avoids {stem : String} (hstem : ∀ other, BeginsWith stem (key other))
    (h : ¬BeginsWith stem eventKey) : OnlyKeyOf key localOrderId eventKey := by
  rintro other rfl
  exact absurd (hstem other) h

/-- The store has the order of every key of the family that it knows. -/
def Records (store : OrderLifecycleStore) (key : ℕ → String) : Prop :=
  ∀ localOrderId, key localOrderId ∈ store.appliedEventKeys → (store.find localOrderId).isSome

/-- In an empty store no key is used. -/
theorem records_empty (key : ℕ → String) : empty.Records key := fun _ hmem =>
  absurd hmem (Finset.notMem_empty _)

/-- Storing an order under a key of its own keeps the keys recorded. -/
theorem Records.commit (h : store.Records key) (hkey : OnlyKeyOf key localOrderId eventKey)
    (record : OrderLifecycleRecord) :
    (store.commit localOrderId record eventKey).Records key := by
  intro other hmem
  rw [find_commit]
  split
  · rfl
  · next hother =>
    rcases (mem_commit _ _ _ _ _).mp hmem with heq | hmem
    · exact absurd (hkey other heq) hother
    · exact h other hmem

/-- So does an event. -/
theorem Records.handleEvent (h : store.Records key) (hkey : OnlyKeyOf key localOrderId eventKey)
    (decision : OrderLifecycleRecord → Except Refusal OrderLifecycleRecord) :
    (store.handleEvent localOrderId eventKey decision).1.Records key := by
  rcases hhandle : store.handleEvent localOrderId eventKey decision with ⟨store', result⟩
  rcases handleEvent_cases hhandle with ⟨rfl, -⟩ | ⟨record, next, -, -, -, -, rfl, -⟩
  · exact h
  · exact h.commit hkey next

/-- So does marking an order unknown. -/
theorem Records.markUnknown (h : store.Records key) (hkey : OnlyKeyOf key localOrderId eventKey)
    (failure : FailureCategory) (reason : String) (timestampNs sequence : ℕ) :
    (store.markUnknown localOrderId eventKey failure reason timestampNs
      sequence).1.Records key := by
  rw [markUnknown_eq_handleEvent]
  exact h.handleEvent hkey _

/-- The two marks of a dispatch keep the record of a family, when they are not of it. -/
theorem Records.markDispatched (h : store.Records key) {request : OrderRequest}
    (hmarks : ∀ kind ∈ [EventKind.risk, .submit],
      OnlyKeyOf key request.localOrderId (kind.key request.localOrderId)) :
    (BrokerGateway.markDispatched store request).1.Records key := by
  unfold BrokerGateway.markDispatched
  rw [← EventKind.key_risk, ← EventKind.key_submit]
  have hrisk : (store.markRiskChecked request.localOrderId
      (EventKind.risk.key request.localOrderId) request.timestampNs
      ((request.sequence + 1) % 2 ^ 64)).1.Records key :=
    h.handleEvent (hmarks .risk (by decide)) _
  split
  · next checked hchecked =>
    rw [hchecked] at hrisk
    have hsubmit : (checked.markSubmitted request.localOrderId
        (EventKind.submit.key request.localOrderId) request.timestampNs
        ((request.sequence + 2) % 2 ^ 64)).1.Records key :=
      hrisk.handleEvent (hmarks .submit (by decide)) _
    split
    · next submitted hsubmitted =>
      rw [hsubmitted] at hsubmit
      exact hsubmit
    · next submitted result _ hsubmitted =>
      rw [hsubmitted] at hsubmit
      exact hsubmit
  · next checked result _ hchecked =>
    rw [hchecked] at hrisk
    exact hrisk

/-- A dispatch that records its order keeps the record of a family. -/
theorem Records.recordOrder (h : store.Records key) {order : NormalizedOrder}
    (hkey : OnlyKeyOf key order.request.localOrderId order.request.idempotencyKey)
    (hmarks : ∀ kind ∈ [EventKind.risk, .submit],
      OnlyKeyOf key order.request.localOrderId (kind.key order.request.localOrderId))
    (hcreate : (store.create (BrokerGateway.lifecycleRequest order)).2 = true) :
    (BrokerGateway.recordOrder store order).Records key := by
  rcases hcreated : store.create (BrokerGateway.lifecycleRequest order) with ⟨created, success⟩
  rw [hcreated] at hcreate
  rcases create_cases hcreated with ⟨-, hfalse⟩ | ⟨-, -, -, -, -, hcommit, -⟩
  · exact absurd (hcreate.symm.trans hfalse) (by decide)
  have hrecorded : created.Records key := by
    rw [hcommit]
    exact h.commit hkey _
  rw [BrokerGateway.recordOrder, hcreated]
  exact hrecorded.markDispatched hmarks

end OrderLifecycleStore

end TradeBot
