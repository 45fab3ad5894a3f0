import TradeBot.Library.SlotPool
import TradeBot.TriggerOrderManager

/-!
# The live protective orders of a manager

The slots in use, as the list of their identifiers. Evaluating a quote emits some of them,
each as often as it is live; canceling an identifier takes one of them away.
-/

namespace TradeBot

namespace TriggerOrderManager

variable {manager : TriggerOrderManager}

/-- The identifier in a slot that is in use. -/
def liveId (slot : OrderSlot) : Option ℕ := if slot.inUse then some slot.orderId else none

/-- The identifiers of the live orders, in slot order. -/
def liveOrders (manager : TriggerOrderManager) : List ℕ := manager.slots.filterMap liveId

/-- An event of a slot has the id of the live order in it. -/
theorem liveId_of_slotEvent {symbol : String} {bbo : BestQuote} {timestamp : ℕ}
    {slot : OrderSlot} {event : TriggerFillEvent}
    (h : slotEvent symbol bbo timestamp slot = some event) : liveId slot = some event.orderId := by
  unfold slotEvent at h
  split at h
  · cases h
  · next huse =>
    rw [not_or, Bool.not_eq_false] at huse
    dsimp only at h
    split at h
    · cases h
    · cases h
      exact if_pos huse.1

/-- The emitted events are of live orders. -/
theorem evaluate_sublist (manager : TriggerOrderManager) (symbol : String) (bbo : BestQuote)
    (timestamp : ℕ) :
    ((manager.evaluate symbol bbo timestamp).map TriggerFillEvent.orderId).Sublist
      manager.liveOrders := by
  unfold evaluate
  split
  · exact List.nil_sublist _
  · unfold liveOrders
    induction manager.slots with
    | nil => exact List.Sublist.refl _
    | cons slot slots ih =>
      cases hevent : slotEvent symbol bbo timestamp slot with
      | none =>
        rw [List.filterMap_cons_none hevent]
        cases hid : liveId slot with
        | none => rwa [List.filterMap_cons_none hid]
        | some id =>
          rw [List.filterMap_cons_some hid]
          exact ih.cons id
      | some event =>
        rw [List.filterMap_cons_some hevent,
          List.filterMap_cons_some (liveId_of_slotEvent hevent), List.map_cons]
        exact ih.cons_cons event.orderId

/-- An id is live when a slot in use has it. -/
theorem mem_liveOrders {orderId : ℕ} :
    orderId ∈ manager.liveOrders ↔
      ∃ slot ∈ manager.slots, (slot.inUse && decide (slot.orderId = orderId)) = true := by
  simp only [liveOrders, List.mem_filterMap, liveId, Bool.and_eq_true, decide_eq_true_iff,
    Option.ite_none_right_eq_some, Option.some.injEq]

/-- Canceling an identifier releases the first slot in use with it, if there is one. -/
theorem cancel_cases (manager : TriggerOrderManager) (orderId : ℕ) :
    (orderId ∉ manager.liveOrders ∧ manager.cancel orderId = (manager, false)) ∨
      ∃ idx slot, manager.slots[idx]? = some slot ∧ slot.inUse = true ∧ slot.orderId = orderId ∧
        manager.cancel orderId = ({ manager with
          slots := manager.slots.set idx {}
          freeIdx := manager.freeIdx ++ [idx]
          activeCount := manager.activeCount - 1 }, true) := by
  unfold cancel
  split
  · next hnone =>
    rw [List.findIdx?_eq_none_iff] at hnone
    refine Or.inl ⟨?_, rfl⟩
    rw [mem_liveOrders]
    rintro ⟨slot, hslot, hfound⟩
    rw [hnone slot hslot] at hfound
    cases hfound
  · next idx hsome =>
    obtain ⟨hlength, hfound, -⟩ := List.findIdx?_eq_some_iff_getElem.mp hsome
    rw [Bool.and_eq_true, decide_eq_true_iff] at hfound
    obtain ⟨huse, hid⟩ := hfound
    have hslot : manager.slots[idx]? = some manager.slots[idx] := List.getElem?_eq_getElem hlength
    have hdefault : manager.slots.getD idx default = manager.slots[idx] := by
      rw [List.getD_eq_getElem?_getD, hslot, Option.getD_some]
    refine Or.inr ⟨idx, _, hslot, huse, hid, ?_⟩
    unfold releaseSlot
    rw [if_neg (by omega), if_neg (by rw [hdefault, huse]; decide)]

/-- A released slot takes its identifier from the live orders. -/
theorem perm_release {slots : List OrderSlot} {idx : ℕ} {slot : OrderSlot}
    (hslot : slots[idx]? = some slot) (huse : slot.inUse = true) :
    (slots.filterMap liveId).Perm (slot.orderId :: (slots.set idx {}).filterMap liveId) := by
  obtain ⟨rest, hbefore, hafter⟩ := Library.filterMap_set liveId hslot
  have hlive : liveId slot = some slot.orderId := if_pos huse
  rw [hlive] at hbefore
  exact hbefore.trans ((hafter {}).symm.cons slot.orderId)

/-- Canceling takes one live order of the identifier away. -/
theorem cancel_perm (manager : TriggerOrderManager) (orderId : ℕ) :
    (manager.cancel orderId).1.liveOrders.Perm (manager.liveOrders.erase orderId) := by
  rcases manager.cancel_cases orderId with ⟨hnot, heq⟩ | ⟨idx, slot, hslot, huse, rfl, heq⟩
  · rw [heq, List.erase_of_not_mem hnot]
  · rw [heq]
    have hperm := perm_release hslot huse
    have hmem : slot.orderId ∈ manager.liveOrders := hperm.mem_iff.mpr List.mem_cons_self
    exact (hperm.symm.trans (List.perm_cons_erase hmem)).cons_inv

end TriggerOrderManager

end TradeBot
