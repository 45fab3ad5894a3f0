import TradeBot.Library.Machine
import TradeBot.Trading.LiveTriggers

/-!
# The slots of a trigger order manager

Over every sequence of calls the stack of free indices lists exactly the slots that are not in
use, and the identifiers in use are those of different placements. Identifiers are 64-bit words
that the manager counts up, so the count is part of the invariant.
-/

namespace TradeBot

open Library

namespace TriggerOrderManager

/-- The calls of a manager. -/
inductive Call where
  | placeStopLoss (symbol : String) (isBuy : Bool) (stopTriggerPrice quantity : Double)
    (strategyId : String)
  | placeOco (symbol : String) (isBuy : Bool) (stopTriggerPrice takeProfitPrice quantity : Double)
    (strategyId : String)
  | cancel (orderId : ℕ)
  | evaluate (symbol : String) (bbo : BestQuote) (timestamp : ℕ)

/-- What a call returns. -/
inductive Answer where
  | placed (orderId : ℕ)
  | canceled (found : Bool)
  | emitted (events : List TriggerFillEvent)
  deriving DecidableEq

/-- A manager under its calls. -/
def managing : Machine TriggerOrderManager Call Answer where
  step manager
    | .placeStopLoss symbol isBuy stopTriggerPrice quantity strategyId =>
      (manager.placeStopLoss symbol isBuy stopTriggerPrice quantity strategyId).map id .placed
    | .placeOco symbol isBuy stopTriggerPrice takeProfitPrice quantity strategyId =>
      (manager.placeOco symbol isBuy stopTriggerPrice takeProfitPrice quantity strategyId).map id
        .placed
    | .cancel orderId => (manager.cancel orderId).map id .canceled
    | .evaluate symbol bbo timestamp => (manager, .emitted (manager.evaluate symbol bbo timestamp))

/-- The arguments that `placeOrder` gets from a call that places an order. -/
structure Placement where
  symbol : String
  type : TriggerOrderType
  isBuy : Bool
  stopPrice : Double
  takeProfitPrice : Double
  quantity : Double
  strategyId : String

/-- The order that a call places. -/
def Call.placement : Call → Option Placement
  | .placeStopLoss symbol isBuy stopTriggerPrice quantity strategyId =>
    some ⟨symbol, .stopLoss, isBuy, stopTriggerPrice, 0, quantity, strategyId⟩
  | .placeOco symbol isBuy stopTriggerPrice takeProfitPrice quantity strategyId =>
    some ⟨symbol, .oco, isBuy, stopTriggerPrice, takeProfitPrice, quantity, strategyId⟩
  | _ => none

/-- The arguments are valid: there is a symbol, and the stop is not zero or less, nor the target
of a one-cancels-other order. -/
def Placement.Valid (placement : Placement) : Prop :=
  placement.symbol ≠ "" ∧ ¬placement.stopPrice ≤ 0 ∧
    (placement.type = .oco → ¬placement.takeProfitPrice ≤ 0)

instance (placement : Placement) : Decidable placement.Valid :=
  inferInstanceAs (Decidable (_ ∧ _ ∧ _))

/-- The order in its slot. -/
def Placement.slot (placement : Placement) (orderId placedTs : ℕ) : OrderSlot where
  inUse := true
  orderId := orderId
  symbol := placement.symbol
  orderType := placement.type
  isBuy := placement.isBuy
  stopPrice := placement.stopPrice
  takeProfitPrice := placement.takeProfitPrice
  quantity := placement.quantity
  placedTs := placedTs
  strategyId := placement.strategyId

/-- A call places an order with valid arguments while a slot is free. -/
def Accepts (manager : TriggerOrderManager) (call : Call) : Prop :=
  manager.freeIdx ≠ [] ∧ ∃ placement ∈ call.placement, placement.Valid

instance (manager : TriggerOrderManager) (call : Call) : Decidable (manager.Accepts call) :=
  inferInstanceAs (Decidable (_ ∧ ∃ placement ∈ call.placement, _))

/-- The number of orders that the calls place. -/
def placements : TriggerOrderManager → List Call → ℕ
  | _, [] => 0
  | manager, call :: calls =>
    (if manager.Accepts call then 1 else 0) + placements (managing.next manager call) calls

section Placing

variable {manager : TriggerOrderManager} {call : Call} {placement : Placement}

/-- Both calls that place an order are calls of `placeOrder`. -/
theorem step_placement (hplacement : call.placement = some placement) :
    managing.step manager call = (manager.placeOrder placement.symbol placement.type
      placement.isBuy placement.stopPrice placement.takeProfitPrice placement.quantity
      placement.strategyId).map id .placed := by
  cases call with
  | placeStopLoss symbol isBuy stopTriggerPrice quantity strategyId =>
    cases hplacement
    rfl
  | placeOco symbol isBuy stopTriggerPrice takeProfitPrice quantity strategyId =>
    cases hplacement
    rfl
  | cancel orderId => cases hplacement
  | evaluate symbol bbo timestamp => cases hplacement

/-- A call that is not accepted returns zero and changes nothing. -/
theorem step_refused (hplacement : call.placement = some placement)
    (hrefused : ¬manager.Accepts call) : managing.step manager call = (manager, .placed 0) := by
  rw [step_placement hplacement, placeOrder]
  split
  · rfl
  · next hstop =>
    split
    · rfl
    · next htarget =>
      split
      · rfl
      · next idx hlast =>
        rw [not_or] at hstop
        refine absurd ⟨?_, placement, hplacement, hstop.1, hstop.2, ?_⟩ hrefused
        · intro hempty
          rw [hempty] at hlast
          cases hlast
        · exact fun hoco hprice => htarget ⟨hoco, hprice⟩

/-- An accepted call fills the slot on top of the stack. -/
theorem step_accepted (h : manager.Accepts call) :
    ∃ placement idx placedTs, call.placement = some placement ∧
      manager.freeIdx.getLast? = some idx ∧ managing.step manager call = ({
        slots := manager.slots.set idx (placement.slot manager.nextOrderId placedTs)
        freeIdx := manager.freeIdx.dropLast
        nextOrderId := (manager.nextOrderId + 1) % 2 ^ 64
        activeCount := manager.activeCount + 1 }, .placed manager.nextOrderId) := by
  obtain ⟨hfree, placement, hplacement, hsymbol, hstop, htarget⟩ := h
  obtain ⟨idx, hlast⟩ := Option.ne_none_iff_exists'.mp
    (mt List.getLast?_eq_none_iff.mp hfree)
  refine ⟨placement, idx, (manager.slots.getD idx default).placedTs, hplacement, hlast, ?_⟩
  rw [step_placement hplacement, placeOrder, if_neg (not_or.mpr ⟨hsymbol, hstop⟩),
    if_neg fun hoco => htarget hoco.1 hoco.2, hlast]
  rfl

end Placing

/-- A manager of a capacity after a number of placements. -/
structure Represents (capacity placed : ℕ) (manager : TriggerOrderManager) : Prop where
  capacity_eq : manager.slots.length = capacity
  pool : SlotPool OrderSlot.inUse manager.slots manager.freeIdx
  count : manager.activeCount + manager.freeIdx.length = capacity
  nodup : manager.liveOrders.Nodup
  orderId_le : ∀ orderId ∈ manager.liveOrders, 0 < orderId ∧ orderId ≤ placed
  nextOrderId_eq : manager.nextOrderId = (placed + 1) % 2 ^ 64

/-- A new manager has all its slots and has placed nothing. -/
theorem represents_ofCapacity (capacity : ℕ) : Represents capacity 0 (ofCapacity capacity) := by
  have hlive : (ofCapacity capacity).liveOrders = [] := by
    rw [liveOrders, List.filterMap_eq_nil_iff]
    intro slot hslot
    rw [List.eq_of_mem_replicate hslot]
    rfl
  refine ⟨List.length_replicate, SlotPool.replicate rfl, ?_, ?_, ?_, rfl⟩
  · change 0 + (List.range capacity).reverse.length = capacity
    rw [List.length_reverse, List.length_range, Nat.zero_add]
  · rw [hlive]
    exact List.nodup_nil
  · rw [hlive]
    exact fun orderId horder => absurd horder List.not_mem_nil

variable {capacity placed : ℕ} {manager : TriggerOrderManager}

/-- An accepted call makes one more placement, with a fresh identifier. -/
theorem Represents.accepted (h : Represents capacity placed manager) {call : Call}
    (haccepts : manager.Accepts call) (hfew : placed + 1 < 2 ^ 64) :
    Represents capacity (placed + 1) (managing.next manager call) := by
  obtain ⟨placement, idx, placedTs, -, hlast, hstep⟩ := step_accepted haccepts
  obtain ⟨slot, hslot, hunused⟩ := h.pool.getLast_free hlast
  have hid : manager.nextOrderId = placed + 1 := by
    rw [h.nextOrderId_eq, Nat.mod_eq_of_lt hfew]
  obtain ⟨rest, hbefore, hafter⟩ := filterMap_set liveId hslot
  have hfree : liveId slot = none := by
    rw [liveId, hunused]
    rfl
  rw [hfree, Option.toList_none, List.nil_append] at hbefore
  have hlive := hafter (placement.slot manager.nextOrderId placedTs)
  have hperm : ((manager.slots.set idx
      (placement.slot manager.nextOrderId placedTs)).filterMap liveId).Perm
        (manager.nextOrderId :: manager.liveOrders) := hlive.trans (hbefore.symm.cons _)
  have hlength := List.length_pos_of_mem (List.mem_of_getLast? hlast)
  rw [Machine.next, hstep]
  refine ⟨?_, h.pool.take hlast rfl, ?_, ?_, ?_, ?_⟩
  · exact List.length_set.trans h.capacity_eq
  · dsimp only
    rw [List.length_dropLast]
    have hcount := h.count
    omega
  · refine hperm.nodup_iff.mpr (List.nodup_cons.mpr ⟨fun hmem => ?_, h.nodup⟩)
    have hle := (h.orderId_le _ hmem).2
    omega
  · intro orderId horder
    rcases List.mem_cons.mp (hperm.mem_iff.mp horder) with rfl | hold
    · omega
    · have hle := h.orderId_le orderId hold
      omega
  · rw [hid]

/-- Any other call makes none. -/
theorem Represents.unaccepted (h : Represents capacity placed manager) {call : Call}
    (hrefused : ¬manager.Accepts call) :
    Represents capacity placed (managing.next manager call) := by
  rw [Machine.next]
  cases hplacement : call.placement with
  | some placement =>
    rw [step_refused hplacement hrefused]
    exact h
  | none =>
    cases call with
    | placeStopLoss symbol isBuy stopTriggerPrice quantity strategyId => cases hplacement
    | placeOco symbol isBuy stopTriggerPrice takeProfitPrice quantity strategyId =>
      cases hplacement
    | evaluate symbol bbo timestamp => exact h
    | cancel orderId =>
      change Represents capacity placed (manager.cancel orderId).1
      rcases manager.cancel_cases orderId with ⟨-, heq⟩ | ⟨idx, slot, hslot, huse, -, heq⟩
      · rw [heq]
        exact h
      · rw [heq]
        have hpool := h.pool.release hslot huse (rfl : OrderSlot.inUse {} = false)
        have hperm := perm_release hslot huse
        have hnodup := hperm.nodup_iff.mp h.nodup
        refine ⟨?_, hpool, ?_, (List.nodup_cons.mp hnodup).2, ?_, h.nextOrderId_eq⟩
        · exact List.length_set.trans h.capacity_eq
        · have hlength := hpool.length_le
          rw [List.length_set, List.length_append, List.length_singleton, h.capacity_eq] at hlength
          have hcount := h.count
          dsimp only
          rw [List.length_append, List.length_singleton]
          omega
        · intro orderId horder
          exact h.orderId_le orderId (hperm.mem_iff.mpr (List.mem_cons_of_mem _ horder))

/-- A run is counted by its placements while the counter of ids does not wrap. -/
theorem Represents.run (h : Represents capacity placed manager) {calls : List Call}
    (hfew : placed + placements manager calls < 2 ^ 64) :
    Represents capacity (placed + placements manager calls) (managing.run manager calls) := by
  induction calls generalizing placed manager with
  | nil => exact h
  | cons call calls ih =>
    rw [Machine.run_cons]
    rw [placements] at hfew ⊢
    by_cases haccepts : manager.Accepts call
    · rw [if_pos haccepts, ← Nat.add_assoc] at hfew ⊢
      exact ih (h.accepted haccepts (by omega)) hfew
    · rw [if_neg haccepts, Nat.zero_add] at hfew ⊢
      exact ih (h.unaccepted haccepts) hfew

/-- A call that places an order returns zero exactly when it is not accepted. -/
theorem Represents.output_iff (h : Represents capacity placed manager) {call : Call}
    {placement : Placement} (hplacement : call.placement = some placement)
    (hfew : manager.Accepts call → placed + 1 < 2 ^ 64) :
    managing.output manager call = .placed 0 ↔ ¬manager.Accepts call := by
  rw [Machine.output]
  constructor
  · intro hzero haccepts
    obtain ⟨_, _, _, -, -, hstep⟩ := step_accepted haccepts
    rw [hstep, h.nextOrderId_eq, Nat.mod_eq_of_lt (hfew haccepts)] at hzero
    cases hzero
  · intro hrefused
    rw [step_refused hplacement hrefused]

/-- Canceling leaves no slot in use with the identifier. -/
theorem Represents.canceled (h : Represents capacity placed manager) (orderId : ℕ) :
    orderId ∉ (manager.cancel orderId).1.liveOrders := by
  rw [(manager.cancel_perm orderId).mem_iff]
  exact h.nodup.not_mem_erase

/-- **Slots of trigger orders.** After every sequence of calls with fewer than `2 ^ 64` placements
the stack lists exactly the slots that are not in use; the identifiers in use are distinct and not
zero, and below the next one as long as that has not wrapped; a call that places an order returns
zero exactly when its arguments are invalid or no slot is free, and then changes nothing; canceling
frees exactly the slot with the identifier; and evaluating a quote changes nothing. -/
theorem slots_of_run (capacity : ℕ) {calls : List Call}
    (hfew : placements (ofCapacity capacity) calls < 2 ^ 64) :
    let placed := placements (ofCapacity capacity) calls
    let manager := managing.run (ofCapacity capacity) calls
    manager.slots.length = capacity ∧
      SlotPool OrderSlot.inUse manager.slots manager.freeIdx ∧
      manager.activeCount + manager.freeIdx.length = capacity ∧
      manager.liveOrders.Nodup ∧
      (∀ orderId ∈ manager.liveOrders,
        orderId ≠ 0 ∧ (placed + 1 < 2 ^ 64 → orderId < manager.nextOrderId)) ∧
      (∀ call, ∀ placement ∈ call.placement, (manager.Accepts call → placed + 1 < 2 ^ 64) →
        (managing.output manager call = .placed 0 ↔
          ¬placement.Valid ∨ manager.freeIdx = []) ∧
        (managing.output manager call = .placed 0 → managing.next manager call = manager)) ∧
      (∀ orderId, orderId ∉ (manager.cancel orderId).1.liveOrders ∧
        (orderId ∉ manager.liveOrders ∧ manager.cancel orderId = (manager, false) ∨
          ∃ idx slot, manager.slots[idx]? = some slot ∧ slot.inUse = true ∧
            slot.orderId = orderId ∧ manager.cancel orderId = ({ manager with
              slots := manager.slots.set idx {}
              freeIdx := manager.freeIdx ++ [idx]
              activeCount := manager.activeCount - 1 }, true))) ∧
      ∀ symbol bbo timestamp,
        managing.next manager (.evaluate symbol bbo timestamp) = manager := by
  intro placed manager
  have h : Represents capacity placed manager := by
    have hrun := (represents_ofCapacity capacity).run (by rwa [Nat.zero_add])
    rwa [Nat.zero_add] at hrun
  refine ⟨h.capacity_eq, h.pool, h.count, h.nodup, ?_, ?_,
    fun orderId => ⟨h.canceled orderId, manager.cancel_cases orderId⟩, fun _ _ _ => rfl⟩
  · intro orderId horder
    obtain ⟨hpos, hle⟩ := h.orderId_le orderId horder
    refine ⟨by omega, fun hlt => ?_⟩
    rw [h.nextOrderId_eq, Nat.mod_eq_of_lt hlt]
    omega
  · intro call placement hplacement hplaced
    have houtput := h.output_iff hplacement hplaced
    refine ⟨houtput.trans ?_, fun hzero => ?_⟩
    · constructor
      · intro hrefused
        by_contra hvalid
        rw [not_or, not_not] at hvalid
        exact hrefused ⟨hvalid.2, placement, hplacement, hvalid.1⟩
      · rintro hinvalid ⟨hfree, other, hother, hvalid⟩
        rcases hinvalid with hinvalid | hempty
        · rw [Option.mem_def.mp hplacement] at hother
          cases hother
          exact hinvalid hvalid
        · exact hfree hempty
    · rw [Machine.next, step_refused hplacement (houtput.mp hzero)]

/-- One order is placed, a second finds no slot, and the first can be canceled. -/
theorem slots_of_run_full :
    let first : Call := .placeStopLoss "A" false (.finite 95) (.finite 1) ""
    let second : Call := .placeStopLoss "A" false (.finite 90) (.finite 1) ""
    let manager := managing.run (ofCapacity 1) [first]
    manager.liveOrders = [1] ∧ SlotPool OrderSlot.inUse manager.slots manager.freeIdx ∧
      managing.output manager second = .placed 0 ∧ managing.next manager second = manager ∧
      1 ∉ (manager.cancel 1).1.liveOrders ∧
      managing.next manager (.evaluate "A" {} 1) = manager := by
  intro first second manager
  obtain ⟨-, hpool, -, -, -, hplace, hcancel, hevaluate⟩ :=
    @slots_of_run 1 [first] (by decide +kernel)
  obtain ⟨hrefused, hkept⟩ := hplace second _ rfl fun _ => by decide +kernel
  have hfull := hrefused.mpr (.inr (by decide +kernel))
  exact ⟨by decide +kernel, hpool, hfull, hkept hfull, (hcancel 1).1, hevaluate "A" {} 1⟩

/-- The stop loss that is placed over and over. -/
def placeAgain : Call := .placeStopLoss "A" false (.finite 1) (.finite 1) ""

/-- An order is placed and canceled, a number of times. -/
def churn : ℕ → List Call
  | 0 => []
  | n + 1 => churn n ++ [placeAgain, .cancel (n + 1)]

/-- A manager of one slot that is free. -/
def vacant (nextOrderId : ℕ) : TriggerOrderManager where
  slots := [{}]
  freeIdx := [0]
  nextOrderId := nextOrderId

/-- A manager of one slot after the stop loss was placed. -/
def occupied (orderId : ℕ) : TriggerOrderManager where
  slots := [{
    inUse := true
    orderId := orderId
    symbol := "A"
    stopPrice := .finite 1
    quantity := .finite 1 }]
  freeIdx := []
  nextOrderId := (orderId + 1) % 2 ^ 64
  activeCount := 1

/-- Placing takes the one free slot. -/
theorem next_placeAgain (orderId : ℕ) :
    managing.next (vacant orderId) placeAgain = occupied orderId := by
  rfl

/-- Cancelling frees it and keeps the next id. -/
theorem next_cancel (orderId : ℕ) :
    managing.next (occupied orderId) (.cancel orderId) = vacant ((orderId + 1) % 2 ^ 64) := by
  have hfound : (occupied orderId).slots.findIdx? (fun slot =>
      slot.inUse && decide (slot.orderId = orderId)) = some 0 := by
    simp [occupied]
  change ((occupied orderId).cancel orderId).1 = _
  rw [cancel, hfound]
  rfl

/-- After many placements the slot is free again, and the next id has grown with each of them. -/
theorem run_churn {n : ℕ} (hn : n + 1 < 2 ^ 64) :
    managing.run (ofCapacity 1) (churn n) = vacant (n + 1) := by
  induction n with
  | zero => rfl
  | succ n ih =>
    rw [churn, Machine.run_append, ih (by omega), Machine.run_cons, next_placeAgain,
      Machine.run_cons, next_cancel, Machine.run_nil, Nat.mod_eq_of_lt hn]

/-- There are no more placements than calls that place an order. -/
theorem placements_le (manager : TriggerOrderManager) (calls : List Call) :
    placements manager calls ≤ calls.countP fun call => call.placement.isSome := by
  induction calls generalizing manager with
  | nil => exact le_rfl
  | cons call calls ih =>
    rw [placements, List.countP_cons]
    have hrest := ih (managing.next manager call)
    have hcall : (if manager.Accepts call then 1 else 0) ≤
        if call.placement.isSome = true then 1 else 0 := by
      split
      · next haccepts =>
        obtain ⟨-, placement, hplacement, -⟩ := haccepts
        rw [if_pos (Option.isSome_of_mem hplacement)]
      · exact Nat.zero_le _
    omega

/-- Each round of the sample places once. -/
theorem countP_churn (n : ℕ) : (churn n).countP (fun call => call.placement.isSome) = n := by
  induction n with
  | zero => rfl
  | succ n ih =>
    rw [churn, List.countP_append, ih]
    rfl

/-- With one placement less than `2 ^ 64` the next identifier is zero, and the one in use is not
below it. -/
theorem not_below_wrapped :
    ¬∀ (capacity : ℕ) (calls : List Call), placements (ofCapacity capacity) calls < 2 ^ 64 →
      ∀ orderId ∈ (managing.run (ofCapacity capacity) calls).liveOrders,
        orderId < (managing.run (ofCapacity capacity) calls).nextOrderId := by
  intro h
  obtain ⟨n, hn⟩ : ∃ n, n + 2 = 2 ^ 64 := ⟨2 ^ 64 - 2, by norm_num⟩
  have hrun : managing.run (ofCapacity 1) (churn n ++ [placeAgain]) = occupied (n + 1) := by
    rw [Machine.run_append, run_churn (by omega), Machine.run_cons, next_placeAgain,
      Machine.run_nil]
  have hfew : placements (ofCapacity 1) (churn n ++ [placeAgain]) < 2 ^ 64 := by
    refine lt_of_le_of_lt (placements_le _ _) ?_
    rw [List.countP_append, countP_churn]
    change n + 1 < 2 ^ 64
    omega
  have hbelow := h 1 (churn n ++ [placeAgain]) hfew (n + 1)
  rw [hrun] at hbelow
  have hlt := hbelow (List.mem_singleton_self _)
  change n + 1 < (n + 1 + 1) % 2 ^ 64 at hlt
  rw [show n + 1 + 1 = 2 ^ 64 from hn, Nat.mod_self] at hlt
  exact Nat.not_lt_zero _ hlt

end TriggerOrderManager

end TradeBot
