import Mathlib.Data.List.Nodup
import Mathlib.Data.List.Perm.Subperm
import Mathlib.Data.List.Range

/-!
# Slots with a stack of free indices

A fixed number of slots is used through a stack of the indices that are free. The stack lists
every free index once, so an index that it hands out belongs to a free slot, and one that is
given back was not in it.
-/

namespace TradeBot.Library

variable {α β : Type*}

/-- What is read from a list before and after one of its entries is replaced differs in what is
read from that entry. -/
theorem filterMap_set (f : α → Option β) {xs : List α} {i : ℕ} {x : α} (h : xs[i]? = some x) :
    ∃ rest, (xs.filterMap f).Perm ((f x).toList ++ rest) ∧
      ∀ y, ((xs.set i y).filterMap f).Perm ((f y).toList ++ rest) := by
  induction xs generalizing i with
  | nil => cases h
  | cons first xs ih =>
    cases i with
    | zero =>
      cases h
      refine ⟨xs.filterMap f, ?_, fun y => ?_⟩
      · rw [List.filterMap_cons]
        cases f x <;> exact .refl _
      · rw [List.set_cons_zero, List.filterMap_cons]
        cases f y <;> exact .refl _
    | succ i =>
      obtain ⟨rest, hbefore, hafter⟩ := @ih i (by simpa using h)
      have hcons {ys zs : List β} (hperm : ys.Perm (zs ++ rest)) :
          ((f first).toList ++ ys).Perm (zs ++ ((f first).toList ++ rest)) := by
        refine (hperm.append_left _).trans ?_
        rw [← List.append_assoc, ← List.append_assoc]
        exact List.perm_append_comm.append_right rest
      have hread (ys : List α) :
          (first :: ys).filterMap f = (f first).toList ++ ys.filterMap f := by
        rw [List.filterMap_cons]
        cases f first <;> rfl
      refine ⟨(f first).toList ++ rest, ?_, fun y => ?_⟩
      · rw [hread]
        exact hcons hbefore
      · rw [List.set_cons_succ, hread]
        exact hcons (hafter y)

/-- The stack lists the indices of the slots that are not used, each once. -/
structure SlotPool (used : α → Bool) (slots : List α) (free : List ℕ) : Prop where
  nodup : free.Nodup
  mem_free : ∀ i, i ∈ free ↔ ∃ slot, slots[i]? = some slot ∧ used slot = false

namespace SlotPool

variable {used : α → Bool} {slots : List α} {free : List ℕ} {i : ℕ} {slot new : α}

/-- Free slots make a pool, and all of them are on the free list. -/
theorem replicate {n : ℕ} (hfree : used slot = false) :
    SlotPool used (List.replicate n slot) (List.range n).reverse where
  nodup := List.nodup_reverse.mpr List.nodup_range
  mem_free i := by
    rw [List.mem_reverse, List.mem_range]
    constructor
    · intro hi
      exact ⟨slot, List.getElem?_replicate_of_lt hi, hfree⟩
    · rintro ⟨found, hfound, -⟩
      obtain ⟨hi, -⟩ := List.getElem?_eq_some_iff.mp hfound
      rwa [List.length_replicate] at hi

/-- The index on top of the stack belongs to a free slot. -/
theorem getLast_free (h : SlotPool used slots free) (hlast : free.getLast? = some i) :
    ∃ slot, slots[i]? = some slot ∧ used slot = false :=
  (h.mem_free i).mp (List.mem_of_getLast? hlast)

/-- The slot on top of the stack is taken. -/
theorem take (h : SlotPool used slots free) (hlast : free.getLast? = some i)
    (hused : used new = true) : SlotPool used (slots.set i new) free.dropLast := by
  obtain ⟨slot, hslot, -⟩ := h.getLast_free hlast
  have hsplit : free = free.dropLast ++ [i] := (List.dropLast_append_getLast? i hlast).symm
  have hnodup := h.nodup
  rw [hsplit, List.nodup_append] at hnodup
  obtain ⟨hrest, -, hdisjoint⟩ := hnodup
  refine ⟨hrest, fun j => ?_⟩
  have hmem := h.mem_free j
  rw [hsplit, List.mem_append, List.mem_singleton] at hmem
  rw [List.getElem?_set]
  by_cases hij : i = j
  · subst hij
    have hlt := (List.getElem?_eq_some_iff.mp hslot).1
    rw [if_pos rfl, if_pos hlt]
    constructor
    · intro hdropped
      exact absurd rfl (hdisjoint i hdropped i (List.mem_singleton_self i))
    · rintro ⟨found, hfound, hunused⟩
      cases hfound
      rw [hused] at hunused
      cases hunused
  · rw [if_neg hij, ← hmem]
    exact ⟨Or.inl, fun hj => hj.resolve_right fun heq => hij heq.symm⟩

/-- A used slot is released. -/
theorem release (h : SlotPool used slots free) (hslot : slots[i]? = some slot)
    (hused : used slot = true) (hnew : used new = false) :
    SlotPool used (slots.set i new) (free ++ [i]) := by
  have hnot : i ∉ free := by
    rw [h.mem_free]
    rintro ⟨found, hfound, hunused⟩
    rw [hslot] at hfound
    cases hfound
    rw [hused] at hunused
    cases hunused
  refine ⟨List.nodup_append.mpr ⟨h.nodup, List.nodup_singleton i, ?_⟩, fun j => ?_⟩
  · intro j hj k hk
    rw [List.mem_singleton.mp hk]
    rintro rfl
    exact hnot hj
  · rw [List.mem_append, List.mem_singleton, List.getElem?_set]
    by_cases hij : i = j
    · subst hij
      have hlt := (List.getElem?_eq_some_iff.mp hslot).1
      rw [if_pos rfl, if_pos hlt]
      exact ⟨fun _ => ⟨new, rfl, hnew⟩, fun _ => Or.inr rfl⟩
    · rw [if_neg hij, ← h.mem_free]
      exact ⟨fun hj => hj.resolve_right fun heq => hij heq.symm, Or.inl⟩

/-- There are at most as many free slots as slots. -/
theorem length_le (h : SlotPool used slots free) : free.length ≤ slots.length := by
  have hsubset : free ⊆ List.range slots.length := by
    intro i hi
    obtain ⟨slot, hslot, -⟩ := (h.mem_free i).mp hi
    exact List.mem_range.mpr (List.getElem?_eq_some_iff.mp hslot).1
  have hle := (h.nodup.subperm hsubset).length_le
  rwa [List.length_range] at hle

end SlotPool

end TradeBot.Library
