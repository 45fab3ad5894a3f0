import TradeBot.PortfolioQueue
import TradeBot.PortfolioValuation

/-!
# The records of the portfolio

What the calls of the portfolio and of its queue of resting orders keep beside the
valuation: fees and counters are not negative, symbols are not empty, every amount that
is held as a double has whole units, and no two resting orders share an identifier.
-/

namespace TradeBot

open Library Financial

variable [FloatFormat]

/-- A double that carries whole units of a tag and nothing else. -/
def Double.Aligned (tag : Tag) (value : Double) : Prop := ∃ v : Value tag, value = v.toDouble

/-- A record of the trade log: the amounts are whole units, and a positive quantity left at
a positive price. -/
structure TradeRecord.Sound (record : TradeRecord) : Prop where
  symbol_ne : record.symbol ≠ ""
  entryPrice : record.entryPrice.Aligned .price
  exitPrice : record.exitPrice.Aligned .price
  exitPrice_pos : 0 < record.exitPrice
  quantity : record.quantity.Aligned .quantity
  quantity_pos : 0 < record.quantity
  totalFees : record.totalFees.Aligned .money
  totalFees_nonneg : ¬record.totalFees < 0
  realizedPnL : record.realizedPnL.Aligned .money
  grossPnL : record.grossPnL.Aligned .money

/-- A resting order: the amounts are whole units. -/
structure OrderRecord.Sound (order : OrderRecord) : Prop where
  symbol_ne : order.symbol ≠ ""
  limitPrice : order.limitPrice.Aligned .price
  trailOffset : order.trailOffset.Aligned .price
  trailBest : order.trailBest.Aligned .price
  quantity : order.quantity.Aligned .quantity
  capitalToCommit : order.capitalToCommit.Aligned .money

namespace PortfolioManager

/-- The drawdown of an equity below the largest one. -/
def drawdownOf (largest equity : Money) : Double :=
  if largest.isPositive then (largest.toDouble - equity.toDouble) / largest.toDouble else 0

/-- Records that calls leave behind. -/
structure Recorded (pm : PortfolioManager) : Prop where
  fees_nonneg : 0 ≤ pm.totalFeesPaid.units.toInt
  tradeCount_nonneg : 0 ≤ pm.tradeCount
  roundTripCount_nonneg : 0 ≤ pm.roundTripCount
  symbol_ne : ∀ symbol ∈ pm.positions, symbol ≠ ""
  currentDrawdown_eq : pm.currentDrawdown = drawdownOf pm.maxEquity pm.totalEquity
  tradeLog : ∀ record ∈ pm.tradeLog, record.Sound

/-- A queue of resting orders whose identifiers were given out once each. -/
structure Queued (pm : PortfolioManager) : Prop where
  nextOrderId_pos : 0 < pm.nextOrderId
  sound : ∀ order ∈ pm.pendingOrders, order.Sound
  orderId_pos : ∀ order ∈ pm.pendingOrders, 0 < order.orderId
  orderId_lt : ∀ order ∈ pm.pendingOrders, order.orderId < pm.nextOrderId
  nodup : (pm.pendingOrders.map OrderRecord.orderId).Nodup

/-- A fresh portfolio has recorded nothing, and so nothing wrong. -/
theorem recorded_fresh (capital : Money) : (fresh capital).Recorded where
  fees_nonneg := le_refl 0
  tradeCount_nonneg := le_refl 0
  roundTripCount_nonneg := le_refl 0
  symbol_ne := fun _ hsymbol => absurd hsymbol (AList.notMem_empty _)
  currentDrawdown_eq := by
    unfold drawdownOf
    split
    · next hpos =>
      have hdouble := (zero_lt_toDouble capital).mpr ((isPositive_iff capital).mp hpos)
      change Double.finite 0 = (capital.toDouble - capital.toDouble) / capital.toDouble
      rw [Value.toDouble] at hdouble ⊢
      generalize FloatFormat.double (FloatFormat.double _ / _) = equity at hdouble ⊢
      rw [Double.zero_eq, Double.finite_lt_finite] at hdouble
      change Double.finite 0 = Double.div (.finite (equity + -equity)) (.finite equity)
      rw [Double.div, if_neg hdouble.ne', add_neg_cancel, zero_div]
    · rfl
  tradeLog := fun _ hrecord => by cases hrecord

/-- Queued orders are numbered. -/
theorem Queued.numbered {pm : PortfolioManager} (h : pm.Queued) : pm.Numbered :=
  ⟨h.nextOrderId_pos, h.orderId_pos, h.orderId_lt, h.nodup⟩

/-- Numbered orders that are sound are queued. -/
theorem Numbered.queued {pm : PortfolioManager} (h : pm.Numbered)
    (hsound : ∀ order ∈ pm.pendingOrders, order.Sound) : pm.Queued :=
  ⟨h.nextOrderId_pos, hsound, h.orderId_pos, h.orderId_lt, h.nodup⟩

/-- An empty queue is in order. -/
theorem queued_fresh (capital : Money) : (fresh capital).Queued :=
  (numbered_fresh capital).queued fun _ horder => by cases horder

/-- The queue depends on the orders and the next identifier only. -/
theorem Queued.congr {pm pm' : PortfolioManager} (h : pm.Queued)
    (horders : pm'.pendingOrders = pm.pendingOrders) (hnext : pm'.nextOrderId = pm.nextOrderId) :
    pm'.Queued := by
  apply (h.numbered.congr horders hnext).queued
  rw [horders]
  exact h.sound

section Calls

variable {pm pm' : PortfolioManager} {symbol : String}

/-- What a call that returns does to the records. -/
structure Advances (pm pm' : PortfolioManager) : Prop where
  fees_le : pm.totalFeesPaid.units.toInt ≤ pm'.totalFeesPaid.units.toInt
  tradeCount_le : pm.tradeCount ≤ pm'.tradeCount
  roundTripCount_le : pm.roundTripCount ≤ pm'.roundTripCount
  symbols : ∀ symbol ∈ pm'.positions, symbol ∈ pm.positions ∨ symbol ≠ ""
  currentDrawdown_eq : pm'.currentDrawdown = drawdownOf pm'.maxEquity pm'.totalEquity
  tradeLog : pm'.tradeLog = pm.tradeLog ∨ ∃ record : TradeRecord,
    pm'.tradeLog = pm.tradeLog ++ [record] ∧ record.symbol ∈ pm.positions ∧
      ((∀ symbol ∈ pm.positions, symbol ≠ "") → record.Sound)
  pendingOrders_eq : pm'.pendingOrders = pm.pendingOrders
  nextOrderId_eq : pm'.nextOrderId = pm.nextOrderId

/-- The drawdown of a valuation is that of its equities. -/
theorem valueState_drawdown {cash : Money} {positions : KeyedMap String PositionState}
    {valuation : Valuation} (h : pm.valueState cash positions = .ok valuation) :
    valuation.currentDrawdown = drawdownOf valuation.maxEquity valuation.totalEquity := by
  simp only [valueState, bind_eq_ok, requireValue_eq_ok, pure_eq_ok, Prod.exists] at h
  obtain ⟨value, unrealized, -, equity, -, rfl⟩ := h
  rfl

omit [FloatFormat] in
/-- Inserting a position under a named symbol adds no unnamed one. -/
theorem mem_insert_symbols {p : PositionState} (hsymbol : symbol ≠ "") (other : String)
    (hother : other ∈ pm.positions.insert symbol p) : other ∈ pm.positions ∨ other ≠ "" := by
  rcases (AList.mem_insert _).mp hother with rfl | hmem
  · exact .inr hsymbol
  · exact .inl hmem

omit [FloatFormat] in
/-- Replacing a position adds no symbol. -/
theorem mem_insert_open {p q : PositionState} (hopen : pm.positions.lookup symbol = some q)
    (other : String) (hother : other ∈ pm.positions.insert symbol p) : other ∈ pm.positions := by
  rcases (AList.mem_insert _).mp hother with rfl | hmem
  · rw [← AList.lookup_isSome, hopen]
    rfl
  · exact hmem

/-- An entry writes no record of the trade log. -/
theorem openLong_advances {netPrice : Double} {timestamp : ℕ}
    {fee capitalToCommit explicitUnits : Double} {strategyId : String}
    (h : pm.openLong symbol netPrice timestamp fee capitalToCommit explicitUnits strategyId
      = .ok pm') : pm.Advances pm' := by
  simp only [openLong, bind_eq_ok, throwIf_eq_ok, requirePositive_eq_ok,
    requireNonnegative_eq_ok, requireValue_eq_ok, requireCounterCapacity_eq_ok, pure_eq_ok,
    Prod.exists, decide_eq_false_iff_not, isNegative_eq_false_iff] at h
  obtain ⟨-, hsymbol, -, -, -, -, p, -, entryFee, ⟨-, hfee⟩, budget, -, amount, cost, debit,
    -, -, -, -, -, average, -, nextCash, -, nextFees, hfees, valuation, hvalue, -, -, rfl⟩ := h
  rw [add_eq_some_iff] at hfees
  refine ⟨?_, ?_, le_refl _, mem_insert_symbols hsymbol, valueState_drawdown hvalue, .inl rfl,
    rfl, rfl⟩
  · change pm.totalFeesPaid.units.toInt ≤ nextFees.units.toInt
    omega
  · change pm.tradeCount ≤ pm.tradeCount + 1
    omega

/-- An add-on writes no record of the trade log. -/
theorem addToPosition_advances {current : PositionState}
    {netPrice addedUnits fee capitalToCommit : Double} {strategyId : String}
    (hcurrent : pm.positions.lookup symbol = some current)
    (h : pm.addToPosition current symbol netPrice addedUnits fee capitalToCommit strategyId
      = .ok pm') : pm.Advances pm' := by
  simp only [addToPosition, bind_eq_ok, throwIf_eq_ok, requirePositive_eq_ok,
    requireNonnegative_eq_ok, requireValue_eq_ok, requireCounterCapacity_eq_ok, pure_eq_ok,
    isNegative_eq_false_iff] at h
  obtain ⟨-, -, p, -, amount, -, addedFee, ⟨-, hfee⟩, cost, -, debit, -, -,
    -, -, -, -, -, nextQuantity, -, nextCost, -, nextEntryFee, -,
    average, -, nextCash, -, nextFees, hfees, valuation, hvalue, -, -, rfl⟩ := h
  rw [add_eq_some_iff] at hfees
  refine ⟨?_, ?_, le_refl _, fun other hother => .inl (mem_insert_open hcurrent other hother),
    valueState_drawdown hvalue, .inl rfl, rfl, rfl⟩
  · change pm.totalFeesPaid.units.toInt ≤ nextFees.units.toInt
    omega
  · change pm.tradeCount ≤ pm.tradeCount + 1
    omega

omit [FloatFormat] in
/-- A close keeps the symbols of the other positions. -/
theorem mem_reducePosition {positions next : KeyedMap String PositionState}
    {prior : PositionState} {p : Price} {remaining : Quantity} {cost entryFee : Money}
    (hprior : positions.lookup symbol = some prior)
    (h : reducePosition positions symbol prior p remaining cost entryFee = .ok next)
    (other : String) (hother : other ∈ next) : other ∈ positions := by
  unfold reducePosition at h
  split at h
  · rw [pure_eq_ok] at h
    subst h
    exact ((AList.mem_erase).mp hother).2
  · simp only [bind_eq_ok, requireValue_eq_ok, pure_eq_ok] at h
    obtain ⟨nextCost, -, nextFee, -, average, -, rfl⟩ := h
    rcases (AList.mem_insert _).mp hother with rfl | hmem
    · rw [← AList.lookup_isSome, hprior]
      rfl
    · exact hmem

/-- A close writes one record. -/
theorem reduceOpenPosition_advances {prior : PositionState} {netPrice : Double} {timestamp : ℕ}
    {fee : Double} {strategyId : String} {explicitQuantity : Double}
    (hprior : pm.positions.lookup symbol = some prior) (hheld : 0 < prior.quantity.units.toInt)
    (hentry : 0 ≤ prior.entryFee.units.toInt)
    (h : pm.reduceOpenPosition prior symbol netPrice timestamp fee strategyId explicitQuantity
      = .ok pm') : pm.Advances pm' := by
  have hmem : symbol ∈ pm.positions := by
    rw [← AList.lookup_isSome, hprior]
    rfl
  simp only [reduceOpenPosition, bind_eq_ok, throwIf_eq_ok, requirePositive_eq_ok,
    requireNonnegative_eq_ok, requireValue_eq_ok, requireCounterCapacity_eq_ok, pure_eq_ok,
    isPositive_iff, isNegative_eq_false_iff] at h
  obtain ⟨-, -, p, ⟨-, hprice⟩, exitFee, ⟨-, hexit⟩, closed, hclose, proceeds, -, netProceeds, -,
    cost, -, entryFee, hentryFee, gross, -, afterExitFee, -, realized, -, tradeFees, htradeFees,
    remaining, -, next, hnext, nextCash, -, nextFees, hfees, valuation, hvalue, -, -, -,
    -, rfl⟩ := h
  obtain ⟨-, -, -, hclosed⟩ := closeQuantity_eq_ok hclose
  rw [isPositive_iff, isPositive_iff] at hclosed
  rw [add_eq_some_iff] at hfees htradeFees
  have hnonneg := (proportional_bounds hentry hentryFee).1
  refine ⟨?_, ?_, ?_, fun other hother => .inl (mem_reducePosition hprior hnext other hother),
    valueState_drawdown hvalue, .inr ⟨_, rfl, hmem, fun hsymbols => ?_⟩, rfl, rfl⟩
  · change pm.totalFeesPaid.units.toInt ≤ nextFees.units.toInt
    omega
  · change pm.tradeCount ≤ pm.tradeCount + 1
    omega
  · change pm.roundTripCount ≤ if remaining.isZero then pm.roundTripCount + 1 else pm.roundTripCount
    split <;> omega
  · refine ⟨hsymbols symbol hmem, ⟨_, rfl⟩, ⟨_, rfl⟩, ?_, ⟨_, rfl⟩, ?_, ⟨_, rfl⟩, ?_, ⟨_, rfl⟩,
      ⟨_, rfl⟩⟩
    · exact (zero_lt_toDouble p).mpr hprice
    · exact (zero_lt_toDouble closed).mpr (hclosed hheld)
    · rw [toDouble_lt_zero]
      omega

/-- A mark moves no record. -/
theorem updatePnL_advances {current : PositionState} {currentPrice : Double}
    (hcurrent : pm.positions.lookup symbol = some current)
    (h : pm.updatePnL symbol currentPrice = .ok pm') : pm.Advances pm' := by
  simp only [updatePnL, hcurrent, bind_eq_ok, requirePositive_eq_ok, pure_eq_ok] at h
  obtain ⟨mark, -, valuation, hvalue, rfl⟩ := h
  exact ⟨le_refl _, le_refl _, le_refl _,
    fun other hother => .inl (mem_insert_open hcurrent other hother),
    valueState_drawdown hvalue, .inl rfl, rfl, rfl⟩

/-- A call that returns moves the records forward, or moves nothing. -/
theorem call_advances (hpm : pm.Valued) (c : PortfolioCall) (h : pm.call c = .ok pm') :
    pm.Advances pm' ∨ pm' = pm := by
  cases c with
  | openLong symbol netPrice timestamp fee capitalToCommit explicitUnits strategyId =>
    exact .inl (openLong_advances h)
  | addToLong symbol netPrice quantity fee capitalToCommit strategyId =>
    change pm.addToLong symbol netPrice quantity fee capitalToCommit strategyId = .ok pm' at h
    unfold addToLong at h
    split at h
    · exact .inl (openLong_advances h)
    · next current hcurrent => exact .inl (addToPosition_advances hcurrent h)
  | closePosition symbol netPrice timestamp fee strategyId explicitQuantity =>
    change pm.closePosition symbol netPrice timestamp fee strategyId explicitQuantity = .ok pm' at h
    unfold closePosition at h
    split at h
    · rw [pure_eq_ok] at h
      exact .inr h.symm
    · next prior hprior =>
      have hsound := hpm.sound symbol prior hprior
      exact .inl (reduceOpenPosition_advances hprior hsound.quantity_pos hsound.entryFee_nonneg h)
  | updatePnL symbol currentPrice =>
    change pm.updatePnL symbol currentPrice = .ok pm' at h
    cases hcurrent : pm.positions.lookup symbol with
    | none =>
      simp only [updatePnL, hcurrent, pure_eq_ok] at h
      exact .inr h.symm
    | some current => exact .inl (updatePnL_advances hcurrent h)

/-- The calls of the accounts do not touch the queue. -/
theorem call_queue (c : PortfolioCall) (h : pm.call c = .ok pm') :
    pm'.pendingOrders = pm.pendingOrders ∧ pm'.nextOrderId = pm.nextOrderId := by
  cases c with
  | openLong symbol netPrice timestamp fee capitalToCommit explicitUnits strategyId =>
    have hadvance := openLong_advances h
    exact ⟨hadvance.pendingOrders_eq, hadvance.nextOrderId_eq⟩
  | addToLong symbol netPrice quantity fee capitalToCommit strategyId =>
    change pm.addToLong symbol netPrice quantity fee capitalToCommit strategyId = .ok pm' at h
    unfold addToLong at h
    split at h
    · have hadvance := openLong_advances h
      exact ⟨hadvance.pendingOrders_eq, hadvance.nextOrderId_eq⟩
    · next current hcurrent =>
      have hadvance := addToPosition_advances hcurrent h
      exact ⟨hadvance.pendingOrders_eq, hadvance.nextOrderId_eq⟩
  | closePosition symbol netPrice timestamp fee strategyId explicitQuantity =>
    change pm.closePosition symbol netPrice timestamp fee strategyId explicitQuantity = .ok pm' at h
    unfold closePosition at h
    split at h
    · cases h
      exact ⟨rfl, rfl⟩
    · simp only [reduceOpenPosition, bind_eq_ok, pure_eq_ok] at h
      obtain ⟨-, -, -, -, -, -, -, -, -, -, -, -, -, -, -, -, -, -, -, -, -, -, -, -, -, -, -, -, -,
        -, -, -, -, -, -, -, -, -, rfl⟩ := h
      exact ⟨rfl, rfl⟩
  | updatePnL symbol currentPrice =>
    change pm.updatePnL symbol currentPrice = .ok pm' at h
    cases hcurrent : pm.positions.lookup symbol with
    | none =>
      simp only [updatePnL, hcurrent, pure_eq_ok] at h
      cases h
      exact ⟨rfl, rfl⟩
    | some current =>
      have hadvance := updatePnL_advances hcurrent h
      exact ⟨hadvance.pendingOrders_eq, hadvance.nextOrderId_eq⟩

/-- The records stay sound. -/
theorem Recorded.advance (h : pm.Recorded) (hadvance : pm.Advances pm') : pm'.Recorded := by
  obtain ⟨hfees, htrades, htrips, hsymbols, -, hlog⟩ := h
  refine ⟨hfees.trans hadvance.fees_le, htrades.trans hadvance.tradeCount_le,
    htrips.trans hadvance.roundTripCount_le, fun symbol hmem => ?_, hadvance.currentDrawdown_eq,
    fun record hrecord => ?_⟩
  · rcases hadvance.symbols symbol hmem with hold | hne
    · exact hsymbols symbol hold
    · exact hne
  · rcases hadvance.tradeLog with hsame | ⟨new, happend, -, hnew⟩
    · rw [hsame] at hrecord
      exact hlog record hrecord
    · rw [happend] at hrecord
      rcases List.mem_append.mp hrecord with hold | hlast
      · exact hlog record hold
      · rw [List.mem_singleton.mp hlast]
        exact hnew hsymbols

end Calls

section Queue

variable (symbol : String) (high low close : Double) (timestamp : ℕ)

/-- A trailing update keeps an order sound. -/
theorem trailOrder_sound {order : OrderRecord} (h : order.Sound) :
    (trailOrder order close).Sound := by
  unfold trailOrder
  split
  · split
    · exact h
    · next best _ =>
      split
      · exact h
      · next stop _ =>
        split
        · exact { h with
            limitPrice := ⟨stop, rfl⟩
            trailBest := ⟨best, rfl⟩ }
        · exact h
  · exact h

/-- A sound order stays sound over a candle, which moves its stop at most. -/
theorem afterCandle_sound {order : OrderRecord} (h : order.Sound) :
    (afterCandle symbol close order).Sound := by
  unfold afterCandle
  split
  · exact trailOrder_sound close h
  · exact h

/-- Evaluating the queue keeps it sound. -/
theorem Queued.evaluate {pm : PortfolioManager} (h : pm.Queued) :
    (pm.evaluatePendingOrders symbol high low close timestamp).1.Queued := by
  apply (h.numbered.evaluate symbol high low close timestamp).queued
  intro order horder
  change order ∈ (evaluateQueue symbol high low close timestamp pm.pendingOrders).1 at horder
  rw [evaluateQueue_eq] at horder
  obtain ⟨old, hold, rfl⟩ := List.mem_map.mp horder
  exact afterCandle_sound symbol close (h.sound old (List.mem_of_mem_filter hold))

/-- A placed order is sound when it names a symbol. -/
theorem placedOrder_sound {order : OrderRecord} (hsymbol : order.symbol ≠ "") (units : Quantity)
    (capital : Money) (limit offset best : Price) (orderId : ℕ) :
    (placedOrder order units capital limit offset best orderId).Sound := by
  refine ⟨hsymbol, ⟨limit, rfl⟩, ⟨offset, rfl⟩, ?_, ⟨units, rfl⟩, ⟨capital, rfl⟩⟩
  unfold placedOrder
  dsimp only
  split
  · exact ⟨limit, rfl⟩
  · exact ⟨best, rfl⟩

/-- A placed order is sound. -/
theorem Queued.place {pm : PortfolioManager} (h : pm.Queued) (order : OrderRecord) :
    (pm.placePendingOrder order).1.Queued := by
  apply (h.numbered.place order).queued
  rcases pm.placePendingOrder_cases order with hrefused |
    ⟨units, capital, limit, offset, best, hsymbol, -, -, -, hplaced⟩
  · rw [hrefused]
    exact h.sound
  · rw [hplaced]
    intro o ho
    rcases List.mem_append.mp ho with hold | hlast
    · exact h.sound o hold
    · rw [List.mem_singleton.mp hlast]
      exact placedOrder_sound hsymbol units capital limit offset best _

/-- Cancelling an order leaves the others as they are. -/
theorem Queued.cancel {pm : PortfolioManager} (h : pm.Queued) (orderId : ℕ) :
    (pm.cancelPendingOrder orderId).1.Queued := by
  apply (h.numbered.cancel orderId).queued
  rcases pm.cancelPendingOrder_cases orderId with hmissed | hfound
  · rw [hmissed]
    exact h.sound
  · rw [hfound]
    exact fun o ho => h.sound o (List.eraseP_subset ho)

end Queue

end PortfolioManager

end TradeBot
