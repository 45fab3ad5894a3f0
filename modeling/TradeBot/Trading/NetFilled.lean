import TradeBot.Trading.SoundBooks

/-!
# Net filled quantities

The fills that the order store has recorded for a symbol, purchases less sales. Only a
new execution of an order of the symbol moves this number.
-/

namespace TradeBot

open Library Financial

/-- The filled quantity of a record of the symbol, negative for a sale. -/
def OrderLifecycleRecord.signedFilled (symbol : String) (record : OrderLifecycleRecord) : ℚ :=
  if record.request.canonicalSymbol = symbol then
    match record.request.side with
    | .buy => record.filledQuantity.toRat
    | .sell => -record.filledQuantity.toRat
  else 0

/-- A step that keeps direction, symbol and filled quantity keeps what the order has filled. -/
theorem OrderLifecycleRecord.Kept.signedFilled {record next : OrderLifecycleRecord}
    (h : record.Kept next) (symbol : String) :
    next.signedFilled symbol = record.signedFilled symbol := by
  simp only [OrderLifecycleRecord.signedFilled, h.request_eq, h.filled_eq]

namespace OrderLifecycleStore

/-- The filled purchases less the filled sales over all records of the symbol. -/
def netFilled (store : OrderLifecycleStore) (symbol : String) : ℚ :=
  KeyedMap.total (fun _ record => record.signedFilled symbol) store.records

variable {store : OrderLifecycleStore} {localOrderId : ℕ} {record next : OrderLifecycleRecord}

/-- A new order adds what it has filled. -/
theorem netFilled_commit_new (h : store.find localOrderId = none) (next : OrderLifecycleRecord)
    (eventKey symbol : String) :
    (store.commit localOrderId next eventKey).netFilled symbol =
      next.signedFilled symbol + store.netFilled symbol :=
  KeyedMap.total_insert_of_notMem _ (AList.lookup_eq_none.mp h) next

/-- An order that is replaced changes the sum by the difference. -/
theorem netFilled_commit_next (h : store.find localOrderId = some record)
    (next : OrderLifecycleRecord) (eventKey symbol : String) :
    (store.commit localOrderId next eventKey).netFilled symbol =
      store.netFilled symbol - record.signedFilled symbol + next.signedFilled symbol :=
  KeyedMap.total_insert_of_lookup
    (fun _ (r : OrderLifecycleRecord) => r.signedFilled symbol) h next

/-- Revisions that keep the orders keep the net filled quantity. -/
theorem Keeps.netFilled {last : OrderLifecycleStore} (h : store.Keeps last) (symbol : String) :
    last.netFilled symbol = store.netFilled symbol := by
  have hamounts : KeyedMap.amounts (fun r : OrderLifecycleRecord => r.signedFilled symbol)
      last.records = KeyedMap.amounts (fun r => r.signedFilled symbol) store.records := by
    ext id
    rw [KeyedMap.amounts_apply, KeyedMap.amounts_apply]
    change (last.find id).elim 0 _ = (store.find id).elim 0 _
    cases hfind : store.find id with
    | none =>
      cases hlast : last.find id with
      | none => rfl
      | some r =>
        obtain ⟨record, hrecord, -⟩ := h.of_find hlast
        rw [hfind] at hrecord
        cases hrecord
    | some record =>
      obtain ⟨r, hlast, hkept⟩ := h.find hfind
      rw [hlast]
      exact hkept.signedFilled symbol
  rw [OrderLifecycleStore.netFilled, OrderLifecycleStore.netFilled, ← KeyedMap.sum_amounts,
    ← KeyedMap.sum_amounts, hamounts]

/-- A recorded order has no fills yet. -/
theorem netFilled_recordOrder {order : NormalizedOrder}
    (h : (store.create (BrokerGateway.lifecycleRequest order)).2 = true) (symbol : String) :
    (BrokerGateway.recordOrder store order).netFilled symbol = store.netFilled symbol := by
  obtain ⟨hfind, -, -, hkeeps⟩ := BrokerGateway.recordOrder_cases h
  have hzero : (newRecord (BrokerGateway.lifecycleRequest order)).signedFilled symbol = 0 := by
    have hfilled : (newRecord (BrokerGateway.lifecycleRequest order)).filledQuantity.toRat = 0 :=
      Decimal64.toRat_zero _
    unfold OrderLifecycleRecord.signedFilled
    split
    · split
      · exact hfilled
      · rw [hfilled, neg_zero]
    · rfl
  rw [hkeeps.netFilled, netFilled_commit_new hfind, hzero, zero_add]

end OrderLifecycleStore

namespace PortfolioManager

/-- The quantity held of a symbol, zero without a position. -/
def held (pm : PortfolioManager) (symbol : String) : ℚ :=
  (pm.positions.lookup symbol).elim 0 fun p => p.quantity.toRat

/-- Held quantities are counted in units of the fixed-point scale. -/
theorem held_eq (pm : PortfolioManager) (symbol : String) :
    pm.held symbol = pm.heldUnits symbol / scaleFactor.toInt := by
  unfold held heldUnits
  cases pm.positions.lookup symbol with
  | none => simp only [Option.elim_none, Int.cast_zero, zero_div]
  | some p => rfl

/-- A purchase adds its quantity to one symbol and leaves the others. -/
theorem Bought.held {pm pm' : PortfolioManager} {symbol : String} {amount : Quantity}
    (h : pm.Bought pm' symbol amount) (other : String) :
    pm'.held other = pm.held other + if other = symbol then amount.toRat else 0 := by
  rw [held_eq, held_eq, h.heldUnits]
  split
  · rw [Int.cast_add, add_div]
    rfl
  · rw [add_zero, add_zero]

/-- A sale takes its quantity from one symbol and leaves the others. -/
theorem Sold.held {pm pm' : PortfolioManager} {symbol : String} {amount : Quantity}
    (h : pm.Sold pm' symbol amount) (other : String) :
    pm'.held other = pm.held other - if other = symbol then amount.toRat else 0 := by
  rw [PortfolioManager.held_eq, PortfolioManager.held_eq, h.heldUnits]
  split
  · rw [Int.cast_sub, sub_div]
    rfl
  · rw [sub_zero, sub_zero]

/-- A well-formed portfolio is never short. -/
theorem held_nonneg {pm : PortfolioManager} (h : pm.WellFormed) (symbol : String) :
    0 ≤ pm.held symbol := by
  unfold held
  cases hlookup : pm.positions.lookup symbol with
  | none => exact le_refl _
  | some p =>
    have hpositive := (isPositive_iff _).mp (h.quantity_pos symbol p hlookup)
    change 0 ≤ (p.quantity.units.toInt : ℚ) / scaleFactor.toInt
    exact div_nonneg (by exact_mod_cast hpositive.le) scaleFactor_pos.le

end PortfolioManager

/-- Prices do not change what is held. -/
theorem System.markPrice_held {n : ℕ} (s : System n) (symbol : String) (currentPrice : Double)
    (other : String) :
    (s.markPrice symbol currentPrice).portfolio.held other = s.portfolio.held other := by
  unfold System.markPrice
  split
  · rfl
  · next portfolio hcall =>
    have hledger := (PortfolioManager.updatePnL_ledger hcall).1
    rw [PortfolioManager.held_eq, PortfolioManager.held_eq, ← PortfolioManager.ledger_held,
      ← PortfolioManager.ledger_held, hledger]

/-- What a booking adds to the units held, as a signed quantity: what the portfolio reads of the
increment. -/
theorem ExecutionEngine.Booked.held {engine : ExecutionEngine}
    {portfolio portfolio' : PortfolioManager} {record : OrderLifecycleRecord}
    {execution : ExecutionEvent} {booking : Booking} (hwf : portfolio.WellFormed)
    (h : engine.Booked portfolio record execution booking)
    (hcall : portfolio.call booking.call = .ok portfolio') :
    ∃ moved, quantity booking.incremental.toDouble .rejectUnaligned = some moved ∧
      ∀ other, portfolio'.held other = portfolio.held other +
        if other = engine.symbol then
          match record.request.side with
          | .buy => moved.toRat
          | .sell => -moved.toRat
        else 0 := by
  have hbuy := h.isBuy_eq
  have hbooking := h.call_eq
  cases hside : record.request.side with
  | buy =>
    rw [hbuy, hside, decide_eq_true rfl] at hbooking
    obtain ⟨moved, hmoved, hbought⟩ :=
      ExecutionEngine.bookingCall_bought h.incremental_pos hbooking hcall
    exact ⟨moved, hmoved, hbought.held⟩
  | sell =>
    rw [hbuy, hside, decide_eq_false OrderSide.noConfusion] at hbooking
    obtain ⟨moved, hmoved, hsold⟩ :=
      ExecutionEngine.bookingCall_sold hwf h.incremental_pos hbooking hcall
    refine ⟨moved, hmoved, fun other => ?_⟩
    rw [hsold.held]
    split
    · rw [sub_eq_add_neg]
    · rw [sub_zero, add_zero]

namespace Session

variable {n : ℕ} {s : Session n}

/-- What an applied execution does to the store: one record of an open order moves on, and
the net filled quantities with it. -/
structure AppliedTo (s : Session n) (execution : ExecutionEvent) (store : OrderLifecycleStore)
    (record next : OrderLifecycleRecord) : Prop where
  find_eq : s.system.gateway.lifecycle.find execution.localOrderId = some record
  executed : record.Executed execution next
  scale_le : record.request.quantity.scale ≤ Decimal64.maxScale
  next_eq : store.find execution.localOrderId = some next
  other_eq : ∀ id, id ≠ execution.localOrderId →
    store.find id = s.system.gateway.lifecycle.find id
  net_eq : ∀ symbol, store.netFilled symbol = s.system.gateway.lifecycle.netFilled symbol +
    (next.signedFilled symbol - record.signedFilled symbol)

/-- An applied execution has an order in the store, before and after. -/
theorem appliedTo (h : s.system.books.Sound) {input : Input n} {execution : ExecutionEvent}
    {store : OrderLifecycleStore} (happlied : s.appliedExecution input = some (execution, store)) :
    ∃ record next, s.AppliedTo execution store record next := by
  obtain ⟨-, record, next, hfind, hdecision, rfl⟩ := appliedExecution_eq_some happlied
  refine ⟨record, next, hfind, (h.conserved _ record hfind).executed hdecision,
    h.scale_le _ record hfind, ?_, fun id hid => ?_, fun symbol => ?_⟩
  · rw [OrderLifecycleStore.find_commit, if_pos rfl]
  · rw [OrderLifecycleStore.find_commit, if_neg hid]
  · rw [OrderLifecycleStore.netFilled_commit_next hfind]
    ring

/-- What an applied execution adds to the net filled quantity of a symbol. -/
theorem AppliedTo.signedFilled {execution : ExecutionEvent} {store : OrderLifecycleStore}
    {record next : OrderLifecycleRecord} (h : s.AppliedTo execution store record next)
    (symbol : String) :
    next.signedFilled symbol - record.signedFilled symbol =
      if symbol = record.request.canonicalSymbol then
        match record.request.side with
        | .buy => execution.cumulativeFilledQuantity.toRat - record.filledQuantity.toRat
        | .sell => -(execution.cumulativeFilledQuantity.toRat - record.filledQuantity.toRat)
      else 0 := by
  rw [OrderLifecycleRecord.signedFilled, OrderLifecycleRecord.signedFilled,
    h.executed.request_eq, h.executed.filled_eq]
  by_cases hsymbol : record.request.canonicalSymbol = symbol
  · rw [if_pos hsymbol, if_pos hsymbol, if_pos hsymbol.symm]
    cases record.request.side with
    | buy => rfl
    | sell =>
      dsimp only
      ring
  · rw [if_neg hsymbol, if_neg hsymbol, if_neg (Ne.symm hsymbol), sub_zero]

/-- A booked execution moves the position of its symbol by what the portfolio reads of the booked
increment. -/
theorem AppliedTo.held_booked {execution : ExecutionEvent} {store : OrderLifecycleStore}
    {record next : OrderLifecycleRecord} (happlied : s.AppliedTo execution store record next)
    (h : s.system.books.Sound) {i : Fin n} {booking : Booking} {portfolio : PortfolioManager}
    (hbooked : (s.system.engines i).Booked s.system.portfolio next execution booking)
    (hcall : s.system.portfolio.call booking.call = .ok portfolio) :
    ∃ moved, quantity booking.incremental.toDouble .rejectUnaligned = some moved ∧
      ∀ symbol, portfolio.held symbol - s.system.portfolio.held symbol =
        if symbol = record.request.canonicalSymbol then
          match record.request.side with
          | .buy => moved.toRat
          | .sell => -moved.toRat
        else 0 := by
  have hwf : s.system.portfolio.WellFormed := h.wellFormed.of_accounts
  obtain ⟨moved, hmoved, hheld⟩ := hbooked.held hwf hcall
  refine ⟨moved, hmoved, fun symbol => ?_⟩
  rw [hheld symbol, ← hbooked.symbol_eq, happlied.executed.request_eq, add_sub_cancel_left]

/-- What the engine of an open order has applied, after a booking, is the cumulative
quantity that it has booked. -/
theorem AppliedTo.applied {execution : ExecutionEvent} {store : OrderLifecycleStore}
    {record next : OrderLifecycleRecord} (h : s.AppliedTo execution store record next)
    {i : Fin n} {booking : Booking}
    (hbooked : (s.system.engines i).Booked s.system.portfolio next execution booking)
    (hopen : isTerminal next.state = false) :
    ((s.system.engines i).afterBooking booking execution.localOrderId).appliedBrokerQty.lookup
      execution.localOrderId = some booking.cumulative := by
  have hremaining : booking.remaining.isPositive = true := by
    rw [(quantity_sign (h.executed.remaining_scale ▸ h.scale_le) h.executed.remaining_nonneg
      hbooked.remaining_eq).2]
    refine lt_of_le_of_ne h.executed.remaining_nonneg fun hzero => ?_
    rw [h.executed.terminal_iff.mpr hzero.symm] at hopen
    cases hopen
  rw [ExecutionEngine.afterBooking_applied, if_pos rfl, if_pos hremaining]

end Session

end TradeBot
