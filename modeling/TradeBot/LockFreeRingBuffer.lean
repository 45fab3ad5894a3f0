import TradeBot.Library.BoundedQueue
import TradeBot.Library.CircularReading
import TradeBot.Library.Machine

/-!
# The ring buffer

The buffer between one producer and one consumer, operation by operation, and that it is a bounded
queue with room for one item less than it has slots.
-/

namespace TradeBot

open Library

/-- `LockFreeRingBuffer`, with as many slots as its capacity. -/
structure LockFreeRingBuffer (T : Type*) (capacity : ℕ) where
  data : Vector T capacity
  head : ℕ
  tail : ℕ
  head_lt : head < capacity
  tail_lt : tail < capacity

namespace LockFreeRingBuffer

section Operations

variable {T : Type*} {capacity : ℕ}

/-- `increment`, in words of 64 bits. -/
def increment (capacity idx : ℕ) : ℕ := (idx + 1) % 2 ^ 64 % capacity

/-- The next index is an index. -/
theorem increment_lt {capacity idx : ℕ} (h : idx < capacity) (next : ℕ) :
    increment capacity next < capacity := Nat.mod_lt _ (Nat.zero_lt_of_lt h)

/-- A buffer as it is constructed. The capacity is checked to be more than one. -/
def new [Inhabited T] (hcapacity : 1 < capacity) : LockFreeRingBuffer T capacity where
  data := Vector.replicate capacity default
  head := 0
  tail := 0
  head_lt := Nat.zero_lt_of_lt hcapacity
  tail_lt := Nat.zero_lt_of_lt hcapacity

variable (ring : LockFreeRingBuffer T capacity)

/-- `push` -/
def push (value : T) : LockFreeRingBuffer T capacity × Bool :=
  let next := increment capacity ring.head
  if next = ring.tail then (ring, false)
  else
    ({ ring with
      data := ring.data.set ring.head value ring.head_lt
      head := next
      head_lt := increment_lt ring.head_lt ring.head }, true)

/-- `pop` -/
def pop : LockFreeRingBuffer T capacity × Option T :=
  if ring.tail = ring.head then (ring, none)
  else
    ({ ring with
      tail := increment capacity ring.tail
      tail_lt := increment_lt ring.tail_lt ring.tail },
      some (ring.data.get ⟨ring.tail, ring.tail_lt⟩))

/-- `size` -/
def size : ℕ := if ring.tail ≤ ring.head then ring.head - ring.tail
  else capacity - (ring.tail - ring.head)

end Operations

/-- A call of the producer, of the consumer or of either. -/
inductive Call (T : Type*) where
  | push (value : T)
  | pop
  | size

/-- What a call returns. -/
inductive Answer (T : Type*) where
  | pushed (accepted : Bool)
  | popped (value : Option T)
  | sized (size : ℕ)
  deriving DecidableEq

section Machines

variable {T : Type*} {capacity : ℕ}

/-- The buffer as a machine. Calls of the two sides come in any order. -/
def machine : Machine (LockFreeRingBuffer T capacity) (Call T) (Answer T) where
  step ring
    | .push value => (ring.push value).map id .pushed
    | .pop => ring.pop.map id .popped
    | .size => (ring, .sized ring.size)

/-- A bounded queue as a machine. -/
def queue {bound : ℕ} : Machine (BoundedQueue T bound) (Call T) (Answer T) where
  step items
    | .push value =>
      match items.push value with
      | none => (items, .pushed false)
      | some items => (items, .pushed true)
    | .pop =>
      match items.pop with
      | none => (items, .popped none)
      | some (value, items) => (items, .popped (some value))
    | .size => (items, .sized items.items.length)

end Machines

section Indices

variable {T : Type*} {capacity : ℕ}

/-- Incrementing goes around: the last index is followed by the first. -/
theorem increment_eq (hword : capacity < 2 ^ 64) {idx : ℕ} (h : idx < capacity) :
    increment capacity idx = if idx + 1 = capacity then 0 else idx + 1 := by
  unfold increment
  rw [Nat.mod_eq_of_lt (show idx + 1 < 2 ^ 64 by omega)]
  split
  · next hlast => rw [hlast, Nat.mod_self]
  · exact Nat.mod_eq_of_lt (by omega)

variable (ring : LockFreeRingBuffer T capacity)

/-- One slot always stays empty. -/
theorem size_lt : ring.size < capacity := by
  have hhead := ring.head_lt
  have htail := ring.tail_lt
  unfold size
  split <;> omega

/-- The next slot that is written is the one behind the queued items. -/
theorem head_eq : (ring.tail + ring.size) % capacity = ring.head := by
  have hhead := ring.head_lt
  have htail := ring.tail_lt
  unfold size
  split
  · rw [Nat.add_sub_cancel' (by assumption), Nat.mod_eq_of_lt hhead]
  · rw [show ring.tail + (capacity - (ring.tail - ring.head)) = ring.head + capacity by omega,
      Nat.add_mod_right, Nat.mod_eq_of_lt hhead]

/-- The buffer is full when all its slots but one are taken. -/
theorem full_iff (hword : capacity < 2 ^ 64) :
    increment capacity ring.head = ring.tail ↔ ring.size = capacity - 1 := by
  have hhead := ring.head_lt
  have htail := ring.tail_lt
  rw [increment_eq hword hhead]
  unfold size
  split <;> split <;> omega

/-- The buffer is empty when both indices meet. -/
theorem empty_iff : ring.tail = ring.head ↔ ring.size = 0 := by
  have hhead := ring.head_lt
  have htail := ring.tail_lt
  unfold size
  split <;> omega

end Indices

section Refinement

variable {T : Type*} {capacity : ℕ}

/-- The buffer holds items, the oldest first. -/
def Holds (ring : LockFreeRingBuffer T capacity) (items : List T) : Prop :=
  circularReading (fun i => ring.data[i]?) capacity ring.tail ring.size = items.map some

/-- The size is the number of items held. -/
theorem Holds.size_eq {ring : LockFreeRingBuffer T capacity} {items : List T}
    (h : ring.Holds items) : ring.size = items.length := by
  have hlength := congrArg List.length h
  rwa [length_circularReading, List.length_map] at hlength

/-- A new buffer holds nothing. -/
theorem holds_new [Inhabited T] (hcapacity : 1 < capacity) :
    (new hcapacity : LockFreeRingBuffer T capacity).Holds [] := rfl

/-- A push that finds room writes the slot at the head and moves the head. -/
theorem push_of_room {ring : LockFreeRingBuffer T capacity} (hword : capacity < 2 ^ 64)
    (hroom : ring.size < capacity - 1) (value : T) :
    ∃ next, ring.push value = (next, true) ∧ next.tail = ring.tail ∧
      next.size = ring.size + 1 ∧
      ∀ i, next.data[i]? = if i = ring.head then some value else ring.data[i]? := by
  have hhead := ring.head_lt
  have htail := ring.tail_lt
  have hnext := increment_eq hword hhead
  have hfree : increment capacity ring.head ≠ ring.tail := fun hfull =>
    absurd ((ring.full_iff hword).mp hfull) (by omega)
  refine ⟨_, if_neg hfree, rfl, ?_, fun i => ?_⟩
  · change (if ring.tail ≤ increment capacity ring.head then
        increment capacity ring.head - ring.tail
      else capacity - (ring.tail - increment capacity ring.head)) = _
    unfold size at hroom ⊢
    rw [hnext]
    split at hroom <;> split <;> split <;> omega
  · dsimp only
    rw [Vector.getElem?_set]
    split
    · next h => rw [if_pos h.symm]
    · next h => rw [if_neg (Ne.symm h)]

/-- A full buffer refuses the value and is left as it was. -/
theorem push_of_full {ring : LockFreeRingBuffer T capacity} (hword : capacity < 2 ^ 64)
    (hfull : ring.size = capacity - 1) (value : T) : ring.push value = (ring, false) :=
  if_pos ((ring.full_iff hword).mpr hfull)

/-- A pop of items reads the slot at the tail and moves the tail. -/
theorem pop_of_items {ring : LockFreeRingBuffer T capacity} (hword : capacity < 2 ^ 64)
    (hitems : 0 < ring.size) :
    ∃ next value, ring.pop = (next, some value) ∧ next.tail = (ring.tail + 1) % capacity ∧
      next.size + 1 = ring.size ∧ next.data = ring.data ∧ ring.data[ring.tail]? = some value := by
  have hhead := ring.head_lt
  have htail := ring.tail_lt
  have hnext := increment_eq hword htail
  have hsome : ring.tail ≠ ring.head := fun hempty => by
    rw [ring.empty_iff.mp hempty] at hitems
    exact lt_irrefl 0 hitems
  refine ⟨_, _, if_neg hsome, ?_, ?_, rfl, ?_⟩
  · dsimp only
    unfold increment
    rw [Nat.mod_eq_of_lt (show ring.tail + 1 < 2 ^ 64 by omega)]
  · change (if increment capacity ring.tail ≤ ring.head then
        ring.head - increment capacity ring.tail
      else capacity - (increment capacity ring.tail - ring.head)) + 1 = _
    unfold size at hitems ⊢
    rw [hnext]
    split at hitems <;> split <;> split <;> omega
  · rw [Vector.getElem?_eq_getElem htail]
    rfl

/-- An empty buffer has nothing to pop. -/
theorem pop_of_empty {ring : LockFreeRingBuffer T capacity} (hempty : ring.size = 0) :
    ring.pop = (ring, none) := if_pos (ring.empty_iff.mpr hempty)

/-- A push that finds room adds its value at the end of the items. -/
theorem Holds.push {ring : LockFreeRingBuffer T capacity} {items : List T} (h : ring.Holds items)
    (hword : capacity < 2 ^ 64) (hroom : items.length < capacity - 1) (value : T) :
    ∃ next, ring.push value = (next, true) ∧ next.Holds (items ++ [value]) := by
  rw [← h.size_eq] at hroom
  obtain ⟨next, hpush, htail, hsize, hdata⟩ := push_of_room hword hroom value
  refine ⟨next, hpush, ?_⟩
  have hframe : ∀ i ≠ (ring.tail + ring.size) % capacity, next.data[i]? = ring.data[i]? := by
    intro i hi
    rw [ring.head_eq] at hi
    rw [hdata, if_neg hi]
  have hwrite := circularReading_write ring.size_lt hframe
  unfold Holds
  rw [htail, hsize, hwrite, h, ring.head_eq, hdata, if_pos rfl, List.map_append]
  rfl

/-- A pop takes the oldest item. -/
theorem Holds.pop {ring : LockFreeRingBuffer T capacity} {item : T} {items : List T}
    (h : ring.Holds (item :: items)) (hword : capacity < 2 ^ 64) :
    ∃ next, ring.pop = (next, some item) ∧ next.Holds items := by
  have hitems : 0 < ring.size := by
    rw [h.size_eq, List.length_cons]
    omega
  obtain ⟨next, value, hpop, htail, hsize, hdata, hvalue⟩ := pop_of_items hword hitems
  have hread := h
  unfold Holds at hread
  rw [← hsize, circularReading_succ ring.tail_lt, List.map_cons, hvalue, List.cons.injEq,
    Option.some.injEq] at hread
  refine ⟨next, hread.1 ▸ hpop, ?_⟩
  unfold Holds
  rw [htail, hdata]
  exact hread.2

/-- One call of the buffer and of the queue that it holds. -/
theorem lockstep_call {ring : LockFreeRingBuffer T capacity} {items : BoundedQueue T (capacity - 1)}
    (h : ring.Holds items.items) (hword : capacity < 2 ^ 64) (call : Call T) :
    machine.output ring call = queue.output items call ∧
      (machine.next ring call).Holds (queue.next items call).items := by
  cases call with
  | push value =>
    change Answer.pushed (ring.push value).2 = _ ∧ (ring.push value).1.Holds _
    rcases Nat.lt_or_ge items.items.length (capacity - 1) with hroom | hfull
    · obtain ⟨next, hpush, hnext⟩ := h.push hword hroom value
      obtain ⟨items', hitems, hitems'⟩ := BoundedQueue.push_of_lt hroom value
      simp only [Machine.output, Machine.next, queue, hpush, hitems, hitems']
      exact ⟨trivial, hnext⟩
    · have hsize : ring.size = capacity - 1 := by
        rw [h.size_eq]
        exact Nat.le_antisymm items.within hfull
      have hitems : items.push value = none := dif_neg (not_lt.mpr hfull)
      simp only [Machine.output, Machine.next, queue, push_of_full hword hsize, hitems]
      exact ⟨trivial, h⟩
  | pop =>
    change Answer.popped ring.pop.2 = _ ∧ ring.pop.1.Holds _
    cases hpop : items.pop with
    | none =>
      have hsize : ring.size = 0 := by rw [h.size_eq, BoundedQueue.items_of_pop_eq_none hpop]; rfl
      simp only [Machine.output, Machine.next, queue, pop_of_empty hsize, hpop]
      exact ⟨trivial, h⟩
    | some oldest =>
      obtain ⟨item, items'⟩ := oldest
      rw [BoundedQueue.items_of_pop hpop] at h
      obtain ⟨next, hring, hnext⟩ := h.pop hword
      simp only [Machine.output, Machine.next, queue, hring, hpop]
      exact ⟨trivial, hnext⟩
  | size => exact ⟨congrArg Answer.sized h.size_eq, h⟩

end Refinement

section Order

variable {T : Type*}

/-- The values that pushes have put into the buffer, in order. -/
def accepted (past : List (Call T × Answer T)) : List T :=
  past.filterMap fun
    | (.push value, .pushed true) => some value
    | _ => none

/-- The values that pops have returned, in order. -/
def delivered (past : List (Call T × Answer T)) : List T :=
  past.filterMap fun
    | (.pop, .popped value) => value
    | _ => none

/-- What a queue has taken is what it has given and then what it still has. -/
theorem accepted_queue {bound : ℕ} (calls : List (Call T)) :
    accepted (queue.trace (∅ : BoundedQueue T bound) calls) =
      delivered (queue.trace (∅ : BoundedQueue T bound) calls) ++
        (queue.run (∅ : BoundedQueue T bound) calls).items := by
  refine Machine.history_run (M := queue) (P := fun past (items : BoundedQueue T bound) =>
    accepted past = delivered past ++ items.items) ?_ rfl calls
  intro past items call h
  have hsnoc (entry : Call T × Answer T) : accepted (past ++ [entry]) =
      accepted past ++ accepted [entry] ∧ delivered (past ++ [entry]) =
        delivered past ++ delivered [entry] :=
    ⟨List.filterMap_append, List.filterMap_append⟩
  rw [(hsnoc _).1, (hsnoc _).2, h]
  cases call with
  | push value =>
    rcases Nat.lt_or_ge items.items.length bound with hroom | hfull
    · obtain ⟨items', hitems, hitems'⟩ := BoundedQueue.push_of_lt hroom value
      simp only [Machine.output, Machine.next, queue, hitems, hitems']
      simp [accepted, delivered]
    · have hitems : items.push value = none := dif_neg (not_lt.mpr hfull)
      simp only [Machine.output, Machine.next, queue, hitems]
      simp [accepted, delivered]
  | pop =>
    cases hpop : items.pop with
    | none =>
      simp only [Machine.output, Machine.next, queue, hpop]
      simp [accepted, delivered]
    | some oldest =>
      obtain ⟨item, items'⟩ := oldest
      simp only [Machine.output, Machine.next, queue, hpop]
      simp [accepted, delivered, BoundedQueue.items_of_pop hpop]
  | size =>
    simp only [Machine.output, Machine.next, queue]
    simp [accepted, delivered]

/-- **The ring buffer is a bounded queue.** Over all calls in any order it answers as a queue of
one item less than its capacity does, and what it has accepted is what it has delivered and then
what it holds, each value once and in order. -/
theorem ring_refines_queue [Inhabited T] {capacity : ℕ} (hcapacity : 1 < capacity)
    (hword : capacity < 2 ^ 64) (calls : List (Call T)) :
    machine.outputs (new hcapacity) calls =
        queue.outputs (∅ : BoundedQueue T (capacity - 1)) calls ∧
      (machine.run (new hcapacity) calls).Holds
        (queue.run (∅ : BoundedQueue T (capacity - 1)) calls).items ∧
      accepted (machine.trace (new hcapacity) calls) =
        delivered (machine.trace (new hcapacity) calls) ++
          (queue.run (∅ : BoundedQueue T (capacity - 1)) calls).items := by
  have halong : machine.Along (fun _ _ => True) (new hcapacity) calls :=
    Machine.along_of_splits fun _ _ _ _ => trivial
  have hsame := Machine.lockstep (C := fun _ _ => True) (t := (∅ : BoundedQueue T (capacity - 1)))
    (R := fun (ring : LockFreeRingBuffer T capacity) items => ring.Holds items.items)
    (fun _ _ call h _ => lockstep_call h hword call) (holds_new hcapacity)
    halong
  refine ⟨hsame.1, hsame.2, ?_⟩
  rw [Machine.trace_congr hsame.1]
  exact accepted_queue calls

/-- Three slots, filled, emptied and filled again around their end. -/
theorem ring_refines_queue_three :
    machine.outputs (new (by decide) : LockFreeRingBuffer ℕ 3)
        [.push 1, .push 2, .push 3, .pop, .push 4, .size, .pop, .pop, .pop] =
      [.pushed true, .pushed true, .pushed false, .popped (some 1), .pushed true, .sized 2,
        .popped (some 2), .popped (some 4), .popped none] := by
  rw [(ring_refines_queue (by decide) (by decide) _).1]
  decide

end Order

end LockFreeRingBuffer

end TradeBot
