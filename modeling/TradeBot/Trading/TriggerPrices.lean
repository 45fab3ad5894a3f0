import TradeBot.Trading.LiveTriggers

/-!
# The prices at which trigger orders are emitted

A triggered sale executes at the bid and a triggered purchase at the ask. Stops are tested against
the price at which the order executes, but the target of a one-cancels-other order against the
other side of the book: inside the spread a target is taken at a worse price.
-/

namespace TradeBot

/-- The price at which an order executes. -/
def OrderSlot.executionPrice (slot : OrderSlot) (bbo : BestQuote) : Double :=
  if slot.isBuy then bbo.askPrice else bbo.bidPrice

/-- The price at which the order executes has reached its stop. -/
def OrderSlot.StopReached (slot : OrderSlot) (bbo : BestQuote) : Prop :=
  if slot.isBuy then slot.stopPrice ≤ slot.executionPrice bbo
  else slot.executionPrice bbo ≤ slot.stopPrice

/-- The order executes at its target or better. -/
def OrderSlot.TargetReached (slot : OrderSlot) (bbo : BestQuote) : Prop :=
  if slot.isBuy then slot.executionPrice bbo ≤ slot.takeProfitPrice
  else slot.takeProfitPrice ≤ slot.executionPrice bbo

/-- The side of the book on which the order does not execute has reached its target, and the other
side has not. -/
def OrderSlot.TargetInSpread (slot : OrderSlot) (bbo : BestQuote) : Prop :=
  if slot.isBuy then bbo.bidPrice ≤ slot.takeProfitPrice ∧ slot.takeProfitPrice < bbo.askPrice
  else bbo.bidPrice < slot.takeProfitPrice ∧ slot.takeProfitPrice ≤ bbo.askPrice

namespace TriggerOrderManager

variable {slot : OrderSlot} {bbo : BestQuote}

/-- What `evaluate` promises about the orders of a symbol at a quote: the events are those of the
slots, and each of them has its reason. -/
structure KeepsPrices (manager : TriggerOrderManager) (symbol : String) (bbo : BestQuote)
    (timestamp : ℕ) : Prop where
  emitted : manager.evaluate symbol bbo timestamp =
    manager.slots.filterMap (slotEvent symbol bbo timestamp)
  target : ∀ slot ∈ manager.slots, ∀ event,
    slotEvent symbol bbo timestamp slot = some event → event.triggerReason = .takeProfit →
      slot.TargetReached bbo
  stop : ∀ slot ∈ manager.slots, slot.inUse = true → slot.symbol = symbol →
    ((∃ event, slotEvent symbol bbo timestamp slot = some event ∧
      event.triggerReason = .stopTrigger) ↔ slot.StopReached bbo)
  once : ((manager.evaluate symbol bbo timestamp).map TriggerFillEvent.orderId).Sublist
    manager.liveOrders

/-- A quote triggers the stop of an order exactly when its execution price has reached it. -/
theorem triggerOf_stop : (triggerOf slot bbo).1 = .stopTrigger ↔ slot.StopReached bbo := by
  unfold triggerOf OrderSlot.StopReached OrderSlot.executionPrice
  cases slot.isBuy with
  | false =>
    simp only [Bool.false_eq_true, if_false, decide_eq_true_iff]
    split
    · next h => simp [h]
    · next h =>
      split <;> simp [h]
  | true =>
    simp only [if_true, decide_eq_true_iff]
    split
    · next h => simp [h]
    · next h =>
      split <;> simp [h]

/-- The other side of the book has reached the target of the order. -/
def OtherSideReached (slot : OrderSlot) (bbo : BestQuote) : Prop :=
  if slot.isBuy then bbo.bidPrice ≤ slot.takeProfitPrice else slot.takeProfitPrice ≤ bbo.askPrice

/-- A quote triggers the target of an order when the other side of the book has reached it and the
stop is not triggered. -/
theorem triggerOf_target : (triggerOf slot bbo).1 = .takeProfit ↔
    ¬slot.StopReached bbo ∧ slot.orderType = .oco ∧ OtherSideReached slot bbo := by
  unfold triggerOf OrderSlot.StopReached OrderSlot.executionPrice OtherSideReached
  cases slot.isBuy with
  | false =>
    simp only [Bool.false_eq_true, if_false, decide_eq_true_iff]
    split
    · next h => simp [h]
    · next h =>
      split
      · next htarget => simp [h, htarget]
      · next htarget => simpa [h] using htarget
  | true =>
    simp only [if_true, decide_eq_true_iff]
    split
    · next h => simp [h]
    · next h =>
      split
      · next htarget => simp [h, htarget]
      · next htarget => simpa [h] using htarget

/-- An order emits an event for a reason exactly when it is live, of the symbol, and triggered for
that reason. -/
theorem slotEvent_reason {symbol : String} {timestamp : ℕ} {reason : TriggerReason}
    (hreason : reason ≠ .none) :
    (∃ event, slotEvent symbol bbo timestamp slot = some event ∧ event.triggerReason = reason) ↔
      slot.inUse = true ∧ slot.symbol = symbol ∧ (triggerOf slot bbo).1 = reason := by
  unfold slotEvent
  split
  · next hslot =>
    constructor
    · rintro ⟨event, hevent, -⟩
      cases hevent
    · rintro ⟨huse, hsymbol, -⟩
      rcases hslot with hfree | hother
      · rw [huse] at hfree
        cases hfree
      · exact absurd hsymbol hother
  · next hslot =>
    rw [not_or, Bool.not_eq_false, not_not] at hslot
    dsimp only
    split
    · next hnone =>
      constructor
      · rintro ⟨event, hevent, -⟩
        cases hevent
      · rintro ⟨-, -, htriggered⟩
        exact absurd (htriggered.symm.trans hnone) hreason
    · constructor
      · rintro ⟨event, hevent, htriggered⟩
        cases hevent
        exact ⟨hslot.1, hslot.2, htriggered⟩
      · rintro ⟨-, -, htriggered⟩
        exact ⟨_, rfl, htriggered⟩

/-- In an uncrossed book a target is missed when only the other side has reached it. -/
theorem targetInSpread_iff (huncrossed : bbo.bidPrice ≤ bbo.askPrice) :
    slot.TargetInSpread bbo ↔ OtherSideReached slot bbo ∧ ¬slot.TargetReached bbo := by
  obtain ⟨hbid, hask⟩ := Double.ne_nan_of_le huncrossed
  unfold OrderSlot.TargetInSpread OtherSideReached OrderSlot.TargetReached
    OrderSlot.executionPrice
  split
  · refine and_congr_right fun hother => ?_
    exact (Double.not_le hask (Double.ne_nan_of_le hother).2).symm
  · rw [and_comm]
    refine and_congr_right fun hother => ?_
    exact (Double.not_le (Double.ne_nan_of_le hother).1 hbid).symm

/-- **Trigger prices.** At a valid uncrossed quote every target is met, every stop is emitted when
it is reached, and no order is emitted twice, exactly when no live one-cancels-other order of the
symbol whose stop is not reached has its target inside the spread. -/
theorem keepsPrices_iff (manager : TriggerOrderManager) (symbol : String) (timestamp : ℕ)
    (hvalid : bbo.valid = true) (huncrossed : bbo.bidPrice ≤ bbo.askPrice) :
    manager.KeepsPrices symbol bbo timestamp ↔
      ∀ slot ∈ manager.slots, slot.inUse = true → slot.symbol = symbol →
        slot.orderType = .oco → ¬slot.StopReached bbo → ¬slot.TargetInSpread bbo := by
  constructor
  · intro h slot hslot huse hsymbol hoco hstop hspread
    obtain ⟨hother, hmissed⟩ := (targetInSpread_iff huncrossed).mp hspread
    obtain ⟨event, hevent, hreason⟩ := (slotEvent_reason (by decide)).mpr
      ⟨huse, hsymbol, triggerOf_target.mpr ⟨hstop, hoco, hother⟩⟩
    exact hmissed (h.target slot hslot event hevent hreason)
  · intro h
    refine ⟨?_, fun slot hslot event hevent hreason => ?_, fun slot hslot huse hsymbol => ?_,
      manager.evaluate_sublist symbol bbo timestamp⟩
    · rw [evaluate, hvalid, Bool.not_true, if_neg Bool.false_ne_true]
    · obtain ⟨huse, hsymbol, htriggered⟩ := (slotEvent_reason (by decide)).mp
        ⟨event, hevent, hreason⟩
      obtain ⟨hstop, hoco, hother⟩ := triggerOf_target.mp htriggered
      by_contra hmissed
      exact h slot hslot huse hsymbol hoco hstop
        ((targetInSpread_iff huncrossed).mpr ⟨hother, hmissed⟩)
    · rw [slotEvent_reason (by decide), triggerOf_stop]
      exact ⟨fun hevent => hevent.2.2, fun hreached => ⟨huse, hsymbol, hreached⟩⟩

/-- A live sell order: a stop at 95 and a target at 100.5. -/
def targetSlot : OrderSlot where
  inUse := true
  orderId := 1
  symbol := "A"
  orderType := .oco
  stopPrice := .finite 95
  takeProfitPrice := .finite (201 / 2)
  quantity := .finite 1

/-- A manager with this order. -/
def oneTarget : TriggerOrderManager :=
  ((ofCapacity 1).placeOco "A" false (.finite 95) (.finite (201 / 2)) (.finite 1)).1

/-- At 99 to 100 the target is not reached by either side. -/
theorem keepsPrices_below_target :
    oneTarget.KeepsPrices "A" ⟨true, .finite 99, 0, .finite 100, 0⟩ 1 ↔
      ∀ slot ∈ oneTarget.slots, slot.inUse = true → slot.symbol = "A" →
        slot.orderType = .oco → ¬slot.StopReached ⟨true, .finite 99, 0, .finite 100, 0⟩ →
          ¬slot.TargetInSpread ⟨true, .finite 99, 0, .finite 100, 0⟩ :=
  keepsPrices_iff oneTarget "A" 1 rfl (by decide +kernel)

/-- At 100 to 101 the target of 100.5 is emitted, to be executed at 100. -/
theorem target_emitted_below :
    let bbo : BestQuote := ⟨true, .finite 100, 0, .finite 101, 0⟩
    (oneTarget.evaluate "A" bbo 1).map (fun event => (event.triggerReason, event.triggerPrice,
        event.executionPrice)) = [(.takeProfit, .finite (201 / 2), .finite 100)] ∧
      ¬oneTarget.KeepsPrices "A" bbo 1 := by
  intro bbo
  refine ⟨by decide +kernel, fun h => ?_⟩
  have hslots : oneTarget.slots = [targetSlot] := by decide +kernel
  have htriggered : (triggerOf targetSlot bbo).1 = .takeProfit := by decide +kernel
  obtain ⟨event, hevent, hreason⟩ := (slotEvent_reason (by decide)).mpr
    ⟨rfl, rfl, htriggered⟩
  have htarget := h.target targetSlot (by rw [hslots]; exact List.mem_singleton_self _) event
    hevent hreason
  have hbelow : ¬targetSlot.takeProfitPrice ≤ bbo.bidPrice := by decide +kernel
  exact hbelow htarget

end TriggerOrderManager

end TradeBot
