import TradeBot.Trading.GatewayExclusivity
import TradeBot.Trading.NetFilled

/-!
# Fills and positions agree

The order store and the portfolio are two ledgers of the same fills. An execution moves the
position by its increment if and only if what its engine can book of it is that increment. The
engine reads the quantities of the event through a double, so that it can book another quantity
than the one reported; amounts of at most `2 ^ 52` units are read as they are.
-/

namespace TradeBot

open Library Financial

/-- The engine can book an execution, and the portfolio reads the quantity `moved` of what is new
in it: the quantities, the price and the fee of the event can be read and have the right signs,
the part that the engine has not yet applied is positive, and the portfolio accepts the call. -/
def ExecutionEngine.CanBook (engine : ExecutionEngine) (portfolio : PortfolioManager)
    (record : OrderLifecycleRecord) (execution : ExecutionEvent) (moved : Quantity) : Prop :=
  ∃ (cumulative remaining increment : Quantity) (fillPrice : Price) (fillFee : Money)
    (call : PortfolioCall) (portfolio' : PortfolioManager),
    quantity execution.cumulativeFilledQuantity.toDouble .rejectUnaligned = some cumulative ∧
    cumulative.isPositive = true ∧
    quantity execution.remainingQuantity.toDouble .rejectUnaligned = some remaining ∧
    remaining.isNegative = false ∧
    subtract cumulative (engine.appliedQuantity execution.localOrderId) = some increment ∧
    increment.isPositive = true ∧
    price execution.fillPrice.toDouble .rejectUnaligned = some fillPrice ∧
    fillPrice.isPositive = true ∧
    money execution.fee.toDouble .rejectUnaligned = some fillFee ∧ fillFee.isNegative = false ∧
    engine.bookingCall portfolio (decide (record.request.side = .buy)) fillPrice fillFee increment
      execution.timestampNs record.request.sourceId = some call ∧
    portfolio.call call = .ok portfolio' ∧
    quantity increment.toDouble .rejectUnaligned = some moved

namespace Session

variable {n : ℕ} {s : Session n}

/-- Of every execution that the step's input makes the store apply, the engine of its order's
symbol can book the new part and nothing else: there is none, and none can be booked, or what can
be booked is the increment of the filled quantity. -/
def FillsBookable (s : Session n) (input : Input n) : Prop :=
  ∀ execution store, s.appliedExecution input = some (execution, store) →
    ∀ i record, s.system.gateway.lifecycle.find execution.localOrderId = some record →
      record.request.canonicalSymbol = (s.system.engines i).symbol →
      (execution.cumulativeFilledQuantity.toRat = record.filledQuantity.toRat ∧
        ∀ moved, ¬(s.system.engines i).CanBook s.system.portfolio record execution moved) ∨
      ∃ moved, (s.system.engines i).CanBook s.system.portfolio record execution moved ∧
        moved.toRat = execution.cumulativeFilledQuantity.toRat - record.filledQuantity.toRat

/-- The position of each engine's symbol moves by the increment of what the orders of the
symbol have filled. -/
def BooksIncrement (s : Session n) (input : Input n) : Prop :=
  ∀ execution store, s.appliedExecution input = some (execution, store) →
    ∀ i, (session.next s input).system.portfolio.held (s.system.engines i).symbol -
        s.system.portfolio.held (s.system.engines i).symbol =
      store.netFilled (s.system.engines i).symbol -
        s.system.gateway.lifecycle.netFilled (s.system.engines i).symbol

instance (input : Input n) : Decidable (s.BooksIncrement input) :=
  match happlied : s.appliedExecution input with
  | none => isTrue fun execution store h => by
    rw [happlied] at h
    cases h
  | some (execution, store) => decidable_of_iff
    (∀ i, (session.next s input).system.portfolio.held (s.system.engines i).symbol -
        s.system.portfolio.held (s.system.engines i).symbol =
      store.netFilled (s.system.engines i).symbol -
        s.system.gateway.lifecycle.netFilled (s.system.engines i).symbol)
    ⟨fun h other store' hother => by
      rw [happlied] at hother
      cases hother
      exact h, fun h => h execution store happlied⟩

/-- After an applied execution the engines have handled it. -/
private theorem next_of_applied {input : Input n} {execution : ExecutionEvent}
    {store : OrderLifecycleStore} (h : s.appliedExecution input = some (execution, store)) :
    ∃ gateway, gateway.lifecycle = store ∧
      (session.next s input).system =
        { s.system with gateway := gateway }.notifyExecution execution := by
  obtain ⟨rfl, -⟩ := appliedExecution_eq_some h
  rcases s.system.gateway.handleExecution_cases execution with
    ⟨-, -, hrefused⟩ | ⟨hcalled, happlied⟩
  · simp only [appliedExecution] at h
    split at h
    · next heq =>
      rw [heq] at hrefused
      exact absurd rfl hrefused
    · cases h
  · simp only [appliedExecution, happlied, Option.some.injEq, Prod.mk.injEq, true_and] at h
    refine ⟨(s.system.gateway.handleExecution execution).1, h, ?_⟩
    change s.system.deliver (.execution execution) = _
    simp only [System.deliver, hcalled, if_true]

/-- What the engine can book, it books. -/
theorem exists_booked {i : Fin n} {execution : ExecutionEvent}
    {record next : OrderLifecycleRecord} {moved : Quantity}
    (hexec : record.Executed execution next)
    (hsymbol : record.request.canonicalSymbol = (s.system.engines i).symbol)
    (h : (s.system.engines i).CanBook s.system.portfolio record execution moved) :
    ∃ booking portfolio, (s.system.engines i).Booked s.system.portfolio next execution booking ∧
      s.system.portfolio.call booking.call = .ok portfolio ∧
      quantity booking.incremental.toDouble .rejectUnaligned = some moved := by
  obtain ⟨cumulative, remaining, increment, fillPrice, fillFee, call, portfolio, hcumulative,
    hcumulativePos, hremaining, hremainingNonneg, hincrement, hincrementPos, hprice, hpricePos,
    hfee, hfeeNonneg, hcall, hportfolio, hmoved⟩ := h
  refine ⟨{
    isBuy := decide (record.request.side = .buy)
    call := call
    fillPrice := fillPrice
    fillFee := fillFee
    incremental := increment
    cumulative := cumulative
    remaining := remaining
    requestedPrice := (record.request.referencePrice.map (·.toDouble)).getD fillPrice.toDouble
    strategyId := record.request.sourceId }, portfolio, ?_, hportfolio, hmoved⟩
  refine ⟨?_, hcumulative, hcumulativePos, hremaining, hremainingNonneg, hprice, hpricePos, hfee,
    hfeeNonneg, hincrement, hincrementPos, ?_, ?_, ?_, ?_⟩
  · rw [hexec.request_eq]
    exact hsymbol
  · rw [hexec.request_eq]
  · rw [hexec.request_eq]
    exact hcall
  · rw [hexec.request_eq]
  · rw [hexec.request_eq]

/-- What the engine books, it can book. -/
private theorem canBook_of_booked {i : Fin n} {execution : ExecutionEvent} {booking : Booking}
    {record next : OrderLifecycleRecord} {portfolio : PortfolioManager} {moved : Quantity}
    (hexec : record.Executed execution next)
    (hbooked : (s.system.engines i).Booked s.system.portfolio next execution booking)
    (hcall : s.system.portfolio.call booking.call = .ok portfolio)
    (hmoved : quantity booking.incremental.toDouble .rejectUnaligned = some moved) :
    (s.system.engines i).CanBook s.system.portfolio record execution moved := by
  have hcallEq := hbooked.call_eq
  rw [hbooked.isBuy_eq, hexec.request_eq] at hcallEq
  exact ⟨booking.cumulative, booking.remaining, booking.incremental, booking.fillPrice,
    booking.fillFee, booking.call, portfolio, hbooked.cumulative_eq, hbooked.cumulative_pos,
    hbooked.remaining_eq, hbooked.remaining_nonneg, hbooked.incremental_eq,
    hbooked.incremental_pos, hbooked.fillPrice_eq, hbooked.fillPrice_pos, hbooked.fillFee_eq,
    hbooked.fillFee_nonneg, hcallEq, hcall, hmoved⟩

/-- An execution has one reading. -/
private theorem canBook_unique {engine : ExecutionEngine} {portfolio : PortfolioManager}
    {record : OrderLifecycleRecord} {execution : ExecutionEvent} {moved moved' : Quantity}
    (h : engine.CanBook portfolio record execution moved)
    (h' : engine.CanBook portfolio record execution moved') : moved = moved' := by
  obtain ⟨cumulative, _, increment, _, _, _, _, hcumulative, -, -, -, hincrement, -, -, -, -, -, -,
    -, hmoved⟩ := h
  obtain ⟨cumulative', _, increment', _, _, _, _, hcumulative', -, -, -, hincrement', -, -, -, -,
    -, -, -, hmoved'⟩ := h'
  obtain rfl : cumulative = cumulative' :=
    Option.some.inj (hcumulative.symm.trans hcumulative')
  obtain rfl : increment = increment' := Option.some.inj (hincrement.symm.trans hincrement')
  exact Option.some.inj (hmoved.symm.trans hmoved')

/-- What is booked of a small quantity is what is new in it: no reading changes it. -/
theorem moved_of_small {engine : ExecutionEngine} {portfolio : PortfolioManager}
    {record : OrderLifecycleRecord} {execution : ExecutionEvent} {moved : Quantity}
    (h : engine.CanBook portfolio record execution moved)
    (hscale : execution.cumulativeFilledQuantity.scale ≤ Financial.scale)
    (hsmall : |execution.cumulativeFilledQuantity.toRat * 10 ^ Financial.scale| ≤ 2 ^ 52)
    (happlied : 0 ≤ (engine.appliedQuantity execution.localOrderId).units.toInt) :
    moved.toRat = execution.cumulativeFilledQuantity.toRat -
      (engine.appliedQuantity execution.localOrderId).toRat := by
  obtain ⟨cumulative, _, increment, _, _, _, _, hcumulative, -, -, -, hincrement, hpositive, -, -,
    -, -, -, -, hmoved⟩ := h
  obtain ⟨hread, rfl⟩ :=
    increment_of_small hscale hsmall happlied hcumulative hincrement hpositive hmoved
  rw [← hread]
  exact subtract_eq_some_iff_toRat.mp hincrement

/-- What a system holds can be read off its books. -/
private theorem held_eq_of_books {t : System n} {b : Books n} (h : t.books = b)
    (symbol : String) : t.portfolio.held symbol = b.accounts.held symbol := by
  rw [← h]
  rfl

/-- The net filled quantities can be read off the books as well. -/
private theorem netFilled_eq_of_books {t : System n} {b : Books n} (h : t.books = b)
    (symbol : String) : t.gateway.lifecycle.netFilled symbol = b.lifecycle.netFilled symbol := by
  rw [← h]
  rfl

/-- **An execution moves the position by its increment exactly when that can be booked.** -/
theorem booksIncrement_iff (h : s.system.books.Sound) (input : Input n) :
    s.BooksIncrement input ↔ s.FillsBookable input := by
  constructor
  · intro hincrement execution store hinput i found hfound hsymbol
    obtain ⟨gateway, rfl, hnext⟩ := next_of_applied hinput
    obtain ⟨record, next, happlied⟩ := appliedTo h hinput
    obtain rfl : found = record := Option.some.inj (hfound.symm.trans happlied.find_eq)
    have hdifference := hincrement execution _ hinput i
    rw [hnext, happlied.net_eq, add_sub_cancel_left, happlied.signedFilled,
      if_pos hsymbol.symm] at hdifference
    rcases settled h.wired happlied.next_eq with
      ⟨hother, -⟩ | ⟨k, hk, hfailed, hbooks⟩ | ⟨k, booking, portfolio, hbooked, hcall, hbooks⟩
    · exact absurd (happlied.executed.request_eq ▸ hsymbol) (hother i)
    · rw [happlied.executed.request_eq] at hk
      obtain rfl : k = i := h.wired.symbol_injective (hk.symm.trans hsymbol)
      refine Or.inl ⟨?_, fun moved hcan => ?_⟩
      · have hbook : ({ s.system with gateway := gateway }.notifyExecution
            execution).portfolio.held (s.system.engines k).symbol =
            s.system.portfolio.held (s.system.engines k).symbol :=
          held_eq_of_books hbooks _
        rw [hbook, sub_self] at hdifference
        cases hside : found.request.side with
        | buy =>
          simp only [hside] at hdifference
          linarith
        | sell =>
          simp only [hside] at hdifference
          linarith
      · obtain ⟨booking, portfolio, hbooked, hcall, -⟩ :=
          exists_booked happlied.executed hsymbol hcan
        exact hfailed booking portfolio hbooked hcall
    · have hk := hbooked.symbol_eq
      rw [happlied.executed.request_eq] at hk
      obtain rfl : k = i := h.wired.symbol_injective (hk.symm.trans hsymbol)
      obtain ⟨moved, hmoved, hheld⟩ := happlied.held_booked h hbooked hcall
      refine Or.inr ⟨moved, canBook_of_booked happlied.executed hbooked hcall hmoved, ?_⟩
      have hsymbolHeld := hheld (s.system.engines k).symbol
      rw [if_pos hsymbol.symm] at hsymbolHeld
      have hbook : ({ s.system with gateway := gateway }.notifyExecution
          execution).portfolio.held (s.system.engines k).symbol =
          portfolio.held (s.system.engines k).symbol :=
        held_eq_of_books hbooks _
      rw [hbook, hsymbolHeld] at hdifference
      cases hside : found.request.side with
      | buy => simpa only [hside] using hdifference
      | sell => simpa only [hside, neg_inj] using hdifference
  · intro hbookable execution store hinput i
    obtain ⟨gateway, rfl, hnext⟩ := next_of_applied hinput
    obtain ⟨record, next, happlied⟩ := appliedTo h hinput
    rw [hnext, happlied.net_eq, add_sub_cancel_left, happlied.signedFilled]
    rcases settled h.wired happlied.next_eq with
      ⟨hother, hbooks⟩ | ⟨k, hsymbol, hfailed, hbooks⟩ | ⟨k, booking, portfolio, hbooked, hcall,
        hbooks⟩
    · rw [held_eq_of_books hbooks, if_neg]
      · exact sub_self _
      · intro heq
        exact hother i (by rw [happlied.executed.request_eq, heq])
    · -- nothing was booked, so nothing could be, and there was nothing new
      rw [happlied.executed.request_eq] at hsymbol
      rcases hbookable execution _ hinput k record happlied.find_eq hsymbol with
        ⟨hsame, -⟩ | ⟨moved, hcan, -⟩
      · rw [held_eq_of_books hbooks, hsame, sub_self, neg_zero]
        cases record.request.side with
        | buy => exact (sub_self _).trans (ite_self _).symm
        | sell => exact (sub_self _).trans (ite_self _).symm
      · obtain ⟨booking, portfolio, hbooked, hcall, -⟩ :=
          exists_booked happlied.executed hsymbol hcan
        exact absurd hcall (hfailed booking portfolio hbooked)
    · have hsymbol := hbooked.symbol_eq
      rw [happlied.executed.request_eq] at hsymbol
      obtain ⟨moved, hmoved, hheld⟩ := happlied.held_booked h hbooked hcall
      have hcan := canBook_of_booked happlied.executed hbooked hcall hmoved
      rcases hbookable execution _ hinput k record happlied.find_eq hsymbol with
        ⟨-, hnone⟩ | ⟨increment, hincrement, hamount⟩
      · exact absurd hcan (hnone moved)
      · rw [held_eq_of_books hbooks]
        change portfolio.held _ - _ = _
        rw [hheld, canBook_unique hcan hincrement, hamount]

/-- Each position is the net of what the orders of its symbol have filled. -/
def PositionsAgree (s : Session n) : Prop :=
  ∀ i, s.system.portfolio.held (s.system.engines i).symbol =
    s.system.gateway.lifecycle.netFilled (s.system.engines i).symbol

instance : Decidable s.PositionsAgree := inferInstanceAs (Decidable (∀ _, _ = _))

/-- A fresh session holds and has filled nothing. -/
theorem positionsAgree_of_fresh (h : s.system.Fresh) : s.PositionsAgree := by
  intro i
  unfold PortfolioManager.held
  rw [h.positions_eq, h.lifecycle_eq]
  rfl

/-- Positions stay in agreement while every execution can be booked and no resting order is
filled locally. -/
theorem positionsAgree_next (h : s.system.books.Sound) (hagree : s.PositionsAgree)
    {input : Input n} (hbookable : s.FillsBookable input) (hresting : s.FillsNoRestingOrder input) :
    (session.next s input).PositionsAgree := by
  intro j
  rw [(wiring_next h.wired.bound input j).1]
  have hj := hagree j
  rcases effect h.wired.bound input with
    hbooks | ⟨i, hbooks⟩ | ⟨i, args, isBuy, order, -, horder, hbooks⟩ | ⟨store, hkeeps, hbooks⟩ |
    ⟨execution, gateway, happlied, hnotify⟩ | ⟨symbol, currentPrice, -, hmark⟩ |
    ⟨i, candle, hcandle, hpending⟩
  · rw [held_eq_of_books hbooks, netFilled_eq_of_books hbooks]
    exact hj
  · rw [held_eq_of_books hbooks, netFilled_eq_of_books hbooks]
    exact hj
  · rw [held_eq_of_books hbooks, netFilled_eq_of_books hbooks]
    exact hj.trans (OrderLifecycleStore.netFilled_recordOrder
      (s.system.executeOrder_recorded horder).created _).symm
  · rw [held_eq_of_books hbooks, netFilled_eq_of_books hbooks]
    exact hj.trans (hkeeps.netFilled _).symm
  · have hmoved := (booksIncrement_iff h input).mpr hbookable execution _ happlied j
    have hstore : (session.next s input).system.gateway = gateway := by
      rw [hnotify, (System.notifyExecution_wiring _ execution).1]
    rw [hstore]
    linarith
  · rw [hmark, System.markPrice_held, hj]
    rw [netFilled_eq_of_books (System.markPrice_books _ _ _)]
    rfl
  · have hportfolio : (s.system.processPendingOrders i candle).1.portfolio =
        (s.system.portfolio.evaluatePendingOrders candle.symbol candle.high candle.low
          candle.close candle.epochTimestamp).1 :=
      System.processFills_portfolio _ (hresting i candle hcandle)
    rw [hpending, netFilled_eq_of_books (System.processPendingOrders_books _ _ _), hportfolio]
    exact hj

/-- A purchase at a market price of one hundred, which the broker accepts. -/
def acceptedBuy : List (Input 1) :=
  [.execute 0 { signal := .buy, marketPrice := .finite 100, timestamp := 1 },
    .deliver (.acknowledgement {
      localOrderId := 1, externalOrderId := "broker-1", accepted := true,
      timestampNs := 2, sequence := 4, eventKey := "accepted-1" }),
    .submitReturned true]

/-- A fill of two hundred units of the purchase, out of the 499.25087406 ordered. -/
def partialFill (fillPrice : Decimal64) : Input 1 :=
  .deliver (.execution {
    localOrderId := 1, externalOrderId := "broker-1", cumulativeFilledQuantity := ⟨20000000000, 8⟩,
    remainingQuantity := ⟨29925087406, 8⟩, fillPrice := fillPrice, timestampNs := 3,
    sequence := 5, eventKey := "fill-1" })

end Session

end TradeBot
