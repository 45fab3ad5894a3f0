import TradeBot.PortfolioManager
import TradeBot.Library.Splitting
import Mathlib.Data.List.Nodup

/-!
# What the calls do to the queue of resting orders

An accepted order goes to the end of the queue under the next identifier. A candle looks at every
order once and on its own: the order is filled and leaves the queue, or it stays, with its
trailing stop updated when it has one. So the loop over the queue is a filter of the orders that
stay and a filter of those that are filled, each in the order of the queue.
-/

namespace TradeBot

open Library Financial

variable [FloatFormat]

namespace PortfolioManager

/-- The record of an accepted order: its amounts in whole units, and for a trailing stop the level
as the best price. -/
def placedOrder (order : OrderRecord) (units : Quantity) (capital : Money)
    (limit offset best : Price) (orderId : ℕ) : OrderRecord :=
  { order with
    quantity := units.toDouble
    capitalToCommit := capital.toDouble
    limitPrice := limit.toDouble
    trailOffset := offset.toDouble
    trailBest := if order.orderType = .trailingStop then limit.toDouble else best.toDouble
    orderId := orderId }

/-- An order is refused, and nothing changes, or its record goes to the end of the queue. -/
theorem placePendingOrder_cases (pm : PortfolioManager) (order : OrderRecord) :
    pm.placePendingOrder order = (pm, 0) ∨
      ∃ units capital limit offset best, order.symbol ≠ "" ∧ ¬order.trailOffset < 0 ∧
        price order.limitPrice = some limit ∧ price order.trailOffset = some offset ∧
        pm.placePendingOrder order = ({ pm with
          pendingOrders := pm.pendingOrders ++
            [placedOrder order units capital limit offset best pm.nextOrderId]
          nextOrderId := pm.nextOrderId + 1 }, pm.nextOrderId) := by
  unfold placePendingOrder
  split
  · exact .inl rfl
  · next hguard =>
    simp only [not_or] at hguard
    split
    · next units capital limit offset best _ _ hlimit hoffset _ =>
      exact .inr ⟨units, capital, limit, offset, best, hguard.1, hguard.2.2.2.2.1, hlimit, hoffset,
        rfl⟩
    · exact .inl rfl

omit [FloatFormat] in
/-- A call that finds the order removes one record, and another call changes nothing. -/
theorem cancelPendingOrder_cases (pm : PortfolioManager) (orderId : ℕ) :
    pm.cancelPendingOrder orderId = (pm, false) ∨
      pm.cancelPendingOrder orderId = ({ pm with
        pendingOrders := pm.pendingOrders.eraseP fun order => order.orderId = orderId }, true) := by
  unfold cancelPendingOrder
  split
  · exact .inr rfl
  · exact .inl rfl

section Candle

variable (symbol : String) (high low close : Double) (timestamp : ℕ)

/-- A trailing update changes the stop and the best price only. -/
theorem trailOrder_eq (order : OrderRecord) :
    ∃ limit best, trailOrder order close = { order with
      limitPrice := limit
      trailBest := best } := by
  unfold trailOrder
  split
  · split
    · exact ⟨_, _, rfl⟩
    · split
      · exact ⟨_, _, rfl⟩
      · split <;> exact ⟨_, _, rfl⟩
  · exact ⟨_, _, rfl⟩

/-- The order that a trigger decision leaves is the trailed one for a trailing stop, and the order
itself for any other. -/
theorem evaluateOrder_fst (order : OrderRecord) :
    (evaluateOrder order high low close).1 =
      if order.orderType = .trailingStop then trailOrder order close else order := by
  unfold evaluateOrder
  cases order.orderType with
  | limit =>
    dsimp only
    split <;> rfl
  | stopLoss =>
    dsimp only
    split <;> rfl
  | trailingStop =>
    dsimp only
    split <;> rfl
  | market => rfl

/-- A resting order after a candle of a symbol. -/
def afterCandle (order : OrderRecord) : OrderRecord :=
  if order.symbol = symbol ∧ order.orderType = .trailingStop then trailOrder order close else order

/-- The price at which a candle of a symbol fills a resting order; none when it is not filled. -/
def fillPriceOf (order : OrderRecord) : Option Price :=
  if order.symbol = symbol then
    ((evaluateOrder order high low close).2.bind fun fillPrice => price fillPrice).filter
      (·.isPositive)
  else none

/-- The fill of a resting order. -/
def fillOf (order : OrderRecord) (normalizedFill : Price) : OrderFillResult where
  orderId := order.orderId
  filled := true
  symbol := order.symbol
  orderType := order.orderType
  isBuy := order.isBuy
  fillPrice := normalizedFill.toDouble
  quantity := order.quantity
  capitalToCommit := order.capitalToCommit
  fillTimestamp := timestamp

/-- A candle changes the stop and the best price of a resting order only. -/
theorem afterCandle_eq (order : OrderRecord) :
    ∃ limit best, afterCandle symbol close order = { order with
      limitPrice := limit
      trailBest := best } := by
  unfold afterCandle
  split
  · exact trailOrder_eq close order
  · exact ⟨_, _, rfl⟩

/-- A candle does not change the id of an order. -/
theorem orderId_afterCandle (order : OrderRecord) :
    (afterCandle symbol close order).orderId = order.orderId := by
  obtain ⟨limit, best, heq⟩ := afterCandle_eq symbol close order
  rw [heq]

/-- **The queue is partitioned.** The orders that have no fill price stay, and the others are
filled. -/
theorem evaluateQueue_eq (orders : List OrderRecord) :
    evaluateQueue symbol high low close timestamp orders =
      ((orders.filter fun order => (fillPriceOf symbol high low close order).isNone).map
          (afterCandle symbol close),
        orders.filterMap fun order =>
          (fillPriceOf symbol high low close order).map (fillOf timestamp order)) := by
  induction orders with
  | nil => rfl
  | cons order orders ih =>
    have hstays (hnone : fillPriceOf symbol high low close order = none) :
        (afterCandle symbol close order :: (evaluateQueue symbol high low close timestamp orders).1,
          (evaluateQueue symbol high low close timestamp orders).2) =
        (((order :: orders).filter fun o =>
            (fillPriceOf symbol high low close o).isNone).map (afterCandle symbol close),
          (order :: orders).filterMap fun o =>
            (fillPriceOf symbol high low close o).map (fillOf timestamp o)) := by
      rw [List.filter_cons_of_pos (by rw [hnone]; rfl),
        List.filterMap_cons_none (by rw [hnone]; rfl), List.map_cons, ih]
    rw [evaluateQueue]
    dsimp only
    split
    · next hsymbol =>
      rw [← hstays (if_neg hsymbol), afterCandle, if_neg fun h => hsymbol h.1]
    · next hsymbol =>
      rw [not_not] at hsymbol
      have hafter : (evaluateOrder order high low close).1 = afterCandle symbol close order := by
        rw [evaluateOrder_fst, afterCandle]
        simp only [hsymbol, true_and]
      have hfilled : fillPriceOf symbol high low close order =
          ((evaluateOrder order high low close).2.bind fun fillPrice => price fillPrice).filter
            (·.isPositive) := if_pos hsymbol
      obtain ⟨limit, best, hkept⟩ := afterCandle_eq symbol close order
      split
      · next hnone =>
        rw [hafter]
        apply hstays
        rw [hfilled, hnone, Option.filter_none]
      · next normalizedFill hsome =>
        split
        · next hpositive =>
          have hfill : fillPriceOf symbol high low close order = some normalizedFill := by
            rw [hfilled, hsome, Option.filter_some, if_pos hpositive]
          rw [List.filter_cons_of_neg (by rw [hfill]; simp), ih, hafter, hkept,
            List.filterMap_cons_some (by rw [hfill]; rfl)]
          rfl
        · next hpositive =>
          rw [hafter]
          apply hstays
          rw [hfilled, hsome, Option.filter_some, if_neg hpositive]

/-- What stays of a resting order: itself, or a trailing stop of the symbol with another stop and
another best price. -/
def KeptAs (order kept : OrderRecord) : Prop :=
  kept = order ∨ order.symbol = symbol ∧ order.orderType = .trailingStop ∧
    ∃ limit best, kept = { order with
      limitPrice := limit
      trailBest := best }

/-- What is made of a resting order of the symbol that is filled at a positive price. -/
def FilledAs (order : OrderRecord) (fill : OrderFillResult) : Prop :=
  order.symbol = symbol ∧ ∃ normalizedFill : Price, normalizedFill.isPositive = true ∧
    fill = fillOf timestamp order normalizedFill

variable {symbol timestamp}

omit [FloatFormat] in
/-- A kept order has its old id. -/
theorem KeptAs.orderId_eq {order kept : OrderRecord} (h : KeptAs symbol order kept) :
    kept.orderId = order.orderId := by
  rcases h with rfl | ⟨-, -, limit, best, rfl⟩ <;> rfl

/-- A fill has the id of its order. -/
theorem FilledAs.orderId_eq {order : OrderRecord} {fill : OrderFillResult}
    (h : FilledAs symbol timestamp order fill) : fill.orderId = order.orderId := by
  obtain ⟨-, _, -, rfl⟩ := h
  rfl

variable (symbol timestamp)

/-- A candle splits the queue. -/
theorem splits_evaluateQueue (orders : List OrderRecord) :
    Splits (KeptAs symbol) (FilledAs symbol timestamp) orders
      (evaluateQueue symbol high low close timestamp orders).1
      (evaluateQueue symbol high low close timestamp orders).2 := by
  have hstays (order : OrderRecord) :
      ((fillPriceOf symbol high low close order).map (fillOf timestamp order)).isNone =
        (fillPriceOf symbol high low close order).isNone := Option.isNone_map
  rw [evaluateQueue_eq]
  simp only [← hstays]
  apply Splits.of_filter
  · intro order _ _
    unfold afterCandle
    split
    · next htrailing => exact .inr ⟨htrailing.1, htrailing.2, trailOrder_eq close order⟩
    · exact .inl rfl
  · intro order _ fill hfill
    obtain ⟨normalizedFill, hprice, rfl⟩ := Option.map_eq_some_iff.mp hfill
    unfold fillPriceOf at hprice
    split at hprice
    · next hsymbol =>
      exact ⟨hsymbol, normalizedFill, (Option.filter_eq_some_iff.mp hprice).2, rfl⟩
    · cases hprice

end Candle

/-- A queue whose identifiers were given out once each. -/
structure Numbered (pm : PortfolioManager) : Prop where
  nextOrderId_pos : 0 < pm.nextOrderId
  orderId_pos : ∀ order ∈ pm.pendingOrders, 0 < order.orderId
  orderId_lt : ∀ order ∈ pm.pendingOrders, order.orderId < pm.nextOrderId
  nodup : (pm.pendingOrders.map OrderRecord.orderId).Nodup

section Identifiers

variable {pm pm' : PortfolioManager}

omit [FloatFormat] in
/-- The queue of a fresh portfolio is empty, and its ids start at one. -/
theorem numbered_fresh (capital : Money) : (fresh capital).Numbered where
  nextOrderId_pos := Nat.one_pos
  orderId_pos := fun _ horder => by cases horder
  orderId_lt := fun _ horder => by cases horder
  nodup := List.nodup_nil

omit [FloatFormat] in
/-- Orders may leave the queue. -/
theorem Numbered.of_sublist (h : pm.Numbered) (hnext : pm'.nextOrderId = pm.nextOrderId)
    (hids : (pm'.pendingOrders.map OrderRecord.orderId).Sublist
      (pm.pendingOrders.map OrderRecord.orderId)) : pm'.Numbered := by
  have hold : ∀ order ∈ pm'.pendingOrders, ∃ old ∈ pm.pendingOrders,
      old.orderId = order.orderId := by
    intro order horder
    exact List.mem_map.mp (hids.subset (List.mem_map_of_mem horder))
  refine ⟨?_, fun order horder => ?_, fun order horder => ?_, h.nodup.sublist hids⟩
  · rw [hnext]
    exact h.nextOrderId_pos
  · obtain ⟨old, hmem, hid⟩ := hold order horder
    rw [← hid]
    exact h.orderId_pos old hmem
  · obtain ⟨old, hmem, hid⟩ := hold order horder
    rw [← hid, hnext]
    exact h.orderId_lt old hmem

omit [FloatFormat] in
/-- The identifiers depend on the orders and the next identifier only. -/
theorem Numbered.congr (h : pm.Numbered) (horders : pm'.pendingOrders = pm.pendingOrders)
    (hnext : pm'.nextOrderId = pm.nextOrderId) : pm'.Numbered := by
  apply h.of_sublist hnext
  rw [horders]

/-- A placed order gets an identifier that no resting order has. -/
theorem Numbered.place (h : pm.Numbered) (order : OrderRecord) :
    (pm.placePendingOrder order).1.Numbered := by
  rcases pm.placePendingOrder_cases order with hrefused | ⟨_, _, _, _, _, -, -, -, -, hplaced⟩
  · rw [hrefused]
    exact h
  · rw [hplaced]
    refine ⟨Nat.succ_pos _, ?_, ?_, ?_⟩
    · intro o ho
      rcases List.mem_append.mp ho with hold | hlast
      · exact h.orderId_pos o hold
      · rw [List.mem_singleton.mp hlast]
        exact h.nextOrderId_pos
    · intro o ho
      rcases List.mem_append.mp ho with hold | hlast
      · exact Nat.lt_succ_of_lt (h.orderId_lt o hold)
      · rw [List.mem_singleton.mp hlast]
        exact Nat.lt_succ_self _
    · dsimp only
      rw [List.map_append, List.map_singleton, List.nodup_append]
      refine ⟨h.nodup, List.nodup_singleton _, ?_⟩
      rintro id hold _ hlast rfl
      obtain ⟨o, ho, rfl⟩ := List.mem_map.mp hold
      rw [List.mem_singleton] at hlast
      exact absurd hlast (ne_of_lt (h.orderId_lt o ho))

omit [FloatFormat] in
/-- A cancelled order leaves the queue. -/
theorem Numbered.cancel (h : pm.Numbered) (orderId : ℕ) :
    (pm.cancelPendingOrder orderId).1.Numbered := by
  rcases pm.cancelPendingOrder_cases orderId with hmissed | hfound
  · rw [hmissed]
    exact h
  · rw [hfound]
    exact h.of_sublist rfl (List.eraseP_sublist.map _)

/-- The orders that a candle fills leave the queue. -/
theorem Numbered.evaluate (h : pm.Numbered) (symbol : String) (high low close : Double)
    (timestamp : ℕ) :
    (pm.evaluatePendingOrders symbol high low close timestamp).1.Numbered :=
  h.of_sublist rfl ((splits_evaluateQueue symbol high low close timestamp
    pm.pendingOrders).sublist_kept fun _ _ hkept => hkept.orderId_eq)

omit [FloatFormat] in
/-- Two records of the queue with one identifier are the same. -/
theorem Numbered.eq_of_orderId (h : pm.Numbered) {order order' : OrderRecord}
    (horder : order ∈ pm.pendingOrders) (horder' : order' ∈ pm.pendingOrders)
    (hid : order.orderId = order'.orderId) : order = order' :=
  List.inj_on_of_nodup_map h.nodup horder horder' hid

end Identifiers

end PortfolioManager

end TradeBot
