import Mathlib.Data.List.Range
import Mathlib.Data.Nat.ModEq

/-!
# Circular stores read in order

Slots that are used in a circle, read from a first one on. What a write behind the last slot and
a step of the first one do to the reading is stated once here.
-/

namespace TradeBot.Library

variable {α : Type*}

/-- The contents of `count` slots from `first` on, around a circle of `capacity` slots. -/
def circularReading (read : ℕ → α) (capacity first count : ℕ) : List α :=
  (List.range count).map fun k => read ((first + k) % capacity)

/-- As many values are read as asked for. -/
@[simp] theorem length_circularReading (read : ℕ → α) (capacity first count : ℕ) :
    (circularReading read capacity first count).length = count := by
  rw [circularReading, List.length_map, List.length_range]

/-- The slot behind the last one read is none of those. -/
theorem circular_ne {capacity first k count : ℕ} (hk : k < count) (hcount : count < capacity) :
    (first + k) % capacity ≠ (first + count) % capacity := by
  intro heq
  have hle : first + k ≤ first + count := by omega
  have hdvd := (Nat.modEq_iff_dvd' hle).mp heq
  have hpos := Nat.le_of_dvd (by omega) hdvd
  omega

/-- A write to the slot behind the last one adds its value at the end of the reading. -/
theorem circularReading_write {read written : ℕ → α} {capacity first count : ℕ}
    (hcount : count < capacity)
    (hframe : ∀ i ≠ (first + count) % capacity, written i = read i) :
    circularReading written capacity first (count + 1) =
      circularReading read capacity first count ++ [written ((first + count) % capacity)] := by
  unfold circularReading
  rw [List.range_succ, List.map_append, List.map_singleton]
  congr 1
  apply List.map_congr_left
  intro k hk
  exact hframe _ (circular_ne (List.mem_range.mp hk) hcount)

/-- The reading begins with the first slot and goes on from the next one. -/
theorem circularReading_succ {read : ℕ → α} {capacity first count : ℕ} (hfirst : first < capacity) :
    circularReading read capacity first (count + 1) =
      read first :: circularReading read capacity ((first + 1) % capacity) count := by
  unfold circularReading
  rw [List.range_succ_eq_map, List.map_cons, List.map_map, Nat.add_zero, Nat.mod_eq_of_lt hfirst]
  congr 1
  apply List.map_congr_left
  intro k _
  rw [Function.comp_apply, Nat.mod_add_mod, Nat.succ_eq_add_one, Nat.add_assoc, Nat.add_comm 1 k]

end TradeBot.Library
