import Mathlib.Data.Nat.Notation

/-!
# Bounded queues

A first-in first-out queue that refuses an item when it is full.
-/

namespace TradeBot.Library

/-- A queue of at most `bound` items, the oldest first. -/
structure BoundedQueue (α : Type*) (bound : ℕ) where
  items : List α
  within : items.length ≤ bound
  deriving DecidableEq

namespace BoundedQueue

variable {α : Type*} {bound : ℕ}

/-- The queue without items. -/
def empty : BoundedQueue α bound := ⟨[], Nat.zero_le bound⟩

instance : EmptyCollection (BoundedQueue α bound) := ⟨empty⟩

/-- Add an item, unless the queue is full. -/
def push (queue : BoundedQueue α bound) (item : α) : Option (BoundedQueue α bound) :=
  if h : queue.items.length < bound then
    some ⟨queue.items ++ [item], by rw [List.length_append]; exact h⟩
  else none

/-- Take the oldest item, if there is one. -/
def pop : BoundedQueue α bound → Option (α × BoundedQueue α bound)
  | ⟨[], _⟩ => none
  | ⟨item :: items, h⟩ => some (item, ⟨items, Nat.le_of_succ_le h⟩)

/-- The empty queue has no items. -/
@[simp] theorem items_empty : (∅ : BoundedQueue α bound).items = [] := rfl

/-- A queue below its bound takes the item at its end. -/
theorem push_of_lt {queue : BoundedQueue α bound} (h : queue.items.length < bound) (item : α) :
    ∃ queue', queue.push item = some queue' ∧ queue'.items = queue.items ++ [item] :=
  ⟨_, dif_pos h, rfl⟩

/-- What is popped was the first item. -/
theorem items_of_pop {queue queue' : BoundedQueue α bound} {item : α}
    (h : queue.pop = some (item, queue')) : queue.items = item :: queue'.items := by
  obtain ⟨items, hwithin⟩ := queue
  cases items with
  | nil => cases h
  | cons first items =>
    cases h
    rfl

/-- Only the empty queue has nothing to pop. -/
theorem items_of_pop_eq_none {queue : BoundedQueue α bound} (h : queue.pop = none) :
    queue.items = [] := by
  obtain ⟨items, hwithin⟩ := queue
  cases items with
  | nil => rfl
  | cons first items => cases h

end BoundedQueue

end TradeBot.Library
