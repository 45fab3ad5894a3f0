import TradeBot.PortfolioAccounting
import TradeBot.Trading.Books

/-!
# What a broker execution does to the books

The engine of the order's symbol books the fill or reports an error; the engines of
other symbols report an error and book nothing. So an execution that the store
applied reaches the books through one engine at most.
-/

namespace TradeBot

open Library Financial

variable [FloatFormat]

namespace PortfolioManager

/-- A purchase adds its amount to the units held of its symbol. -/
theorem Bought.heldUnits {pm pm' : PortfolioManager} {symbol : String} {amount : Quantity}
    (h : pm.Bought pm' symbol amount) (other : String) :
    pm'.heldUnits other =
      pm.heldUnits other + if other = symbol then amount.units.toInt else 0 := by
  obtain ⟨cost, fee, hledger⟩ := h.posted
  rw [← ledger_held, ← ledger_held, hledger, CostLedger.post, Finsupp.add_apply,
    Finsupp.single_apply]
  simp only [eq_comm]

/-- A sale takes its amount from the units held of its symbol. -/
theorem Sold.heldUnits {pm pm' : PortfolioManager} {symbol : String} {amount : Quantity}
    (h : pm.Sold pm' symbol amount) (other : String) :
    pm'.heldUnits other =
      pm.heldUnits other - if other = symbol then amount.units.toInt else 0 := by
  rw [← ledger_held, ← ledger_held, h.held_eq, Finsupp.sub_apply, Finsupp.single_apply]
  simp only [eq_comm]

end PortfolioManager

namespace ExecutionEngine

variable {engine : ExecutionEngine} {portfolio portfolio' : PortfolioManager}
  {record : OrderLifecycleRecord} {execution : ExecutionEvent} {booking : Booking}

/-- What the engine books for an execution of an order: the amounts of the event as
values, and the part of its quantity that was not yet applied. -/
structure Booked (engine : ExecutionEngine) (portfolio : PortfolioManager)
    (record : OrderLifecycleRecord) (execution : ExecutionEvent) (booking : Booking) : Prop where
  symbol_eq : record.request.canonicalSymbol = engine.symbol
  cumulative_eq : quantity execution.cumulativeFilledQuantity.toDouble .rejectUnaligned =
    some booking.cumulative
  cumulative_pos : booking.cumulative.isPositive = true
  remaining_eq : quantity execution.remainingQuantity.toDouble .rejectUnaligned =
    some booking.remaining
  remaining_nonneg : booking.remaining.isNegative = false
  fillPrice_eq : price execution.fillPrice.toDouble .rejectUnaligned = some booking.fillPrice
  fillPrice_pos : booking.fillPrice.isPositive = true
  fillFee_eq : money execution.fee.toDouble .rejectUnaligned = some booking.fillFee
  fillFee_nonneg : booking.fillFee.isNegative = false
  incremental_eq : subtract booking.cumulative (engine.appliedQuantity execution.localOrderId) =
    some booking.incremental
  incremental_pos : booking.incremental.isPositive = true
  isBuy_eq : booking.isBuy = decide (record.request.side = .buy)
  call_eq : engine.bookingCall portfolio booking.isBuy booking.fillPrice booking.fillFee
    booking.incremental execution.timestampNs record.request.sourceId = some booking.call
  requestedPrice_eq : booking.requestedPrice =
    (record.request.referencePrice.map (·.toDouble)).getD booking.fillPrice.toDouble
  strategyId_eq : booking.strategyId = record.request.sourceId

/-- A booking is decided for an execution of a known order, when all that it needs is represented.
-/
theorem decideBooking_eq_some {lifecycle : Option OrderLifecycleRecord} :
    engine.decideBooking portfolio lifecycle execution = some booking ↔
      ∃ record, lifecycle = some record ∧ engine.Booked portfolio record execution booking := by
  simp only [decideBooking, Option.bind_eq_bind, Option.bind_eq_some_iff,
    Option.filter_eq_some_iff, decide_eq_true_eq, Option.pure_def, Option.some.injEq,
    Bool.not_eq_true']
  constructor
  · rintro ⟨record, ⟨rfl, hsymbol⟩, cumulative, ⟨hcumulative, hcpos⟩, remaining,
      ⟨hremaining, hrneg⟩, fillPrice, ⟨hprice, hppos⟩, fillFee, ⟨hfee, hfneg⟩, incremental,
      ⟨hincremental, hipos⟩, call, hcall, rfl⟩
    exact ⟨record, rfl, ⟨hsymbol, hcumulative, hcpos, hremaining, hrneg, hprice, hppos, hfee,
      hfneg, hincremental, hipos, rfl, hcall, rfl, rfl⟩⟩
  · rintro ⟨record, rfl, h⟩
    obtain ⟨isBuy, call, fillPrice, fillFee, incremental, cumulative, remaining, requestedPrice,
      strategyId⟩ := booking
    have hisBuy := h.isBuy_eq
    have hrequested := h.requestedPrice_eq
    have hstrategy := h.strategyId_eq
    dsimp only at hisBuy hrequested hstrategy
    subst hisBuy hrequested hstrategy
    exact ⟨record, ⟨rfl, h.symbol_eq⟩, cumulative, ⟨h.cumulative_eq, h.cumulative_pos⟩,
      remaining, ⟨h.remaining_eq, h.remaining_nonneg⟩, fillPrice,
      ⟨h.fillPrice_eq, h.fillPrice_pos⟩, fillFee, ⟨h.fillFee_eq, h.fillFee_nonneg⟩, incremental,
      ⟨h.incremental_eq, h.incremental_pos⟩, call, h.call_eq, rfl⟩

/-- The call that books a purchase buys what the portfolio reads of the increment. -/
theorem bookingCall_bought {fillPrice : Price} {fillFee : Money} {incremental : Quantity}
    {timestampNs : ℕ} {strategyId : String} {call : PortfolioCall}
    (hincremental : incremental.isPositive = true)
    (hcall : engine.bookingCall portfolio true fillPrice fillFee incremental timestampNs
      strategyId = some call) (h : portfolio.call call = .ok portfolio') :
    ∃ moved, quantity incremental.toDouble .rejectUnaligned = some moved ∧
      portfolio.Bought portfolio' engine.symbol moved := by
  have hpositive := (zero_lt_toDouble incremental).mpr ((isPositive_iff _).mp hincremental)
  simp only [bookingCall, if_true, Option.bind_eq_some_iff, Option.map_eq_some_iff] at hcall
  obtain ⟨cost, -, debit, -, hcall⟩ := hcall
  split at hcall
  · cases hcall
    obtain ⟨amount, hbought, hamount⟩ := PortfolioManager.addToLong_bought h
    exact ⟨amount, hamount hpositive, hbought⟩
  · cases hcall
    obtain ⟨amount, hbought, hamount⟩ := PortfolioManager.openLong_bought h
    exact ⟨amount, hamount hpositive, hbought⟩

/-- The call that books a sale sells what the portfolio reads of the increment. -/
theorem bookingCall_sold {fillPrice : Price} {fillFee : Money} {incremental : Quantity}
    {timestampNs : ℕ} {strategyId : String} {call : PortfolioCall}
    (hwf : portfolio.WellFormed) (hincremental : incremental.isPositive = true)
    (hcall : engine.bookingCall portfolio false fillPrice fillFee incremental timestampNs
      strategyId = some call) (h : portfolio.call call = .ok portfolio') :
    ∃ moved, quantity incremental.toDouble .rejectUnaligned = some moved ∧
      portfolio.Sold portfolio' engine.symbol moved := by
  have hpositive := (zero_lt_toDouble incremental).mpr ((isPositive_iff _).mp hincremental)
  simp only [bookingCall, Bool.false_eq_true, if_false, Option.bind_eq_some_iff] at hcall
  obtain ⟨held, hheld, hcall⟩ := hcall
  split at hcall
  · cases hcall
  · next hguard =>
    cases hcall
    rcases PortfolioManager.closePosition_sold hwf h with
      ⟨hnone, -⟩ | ⟨prior, amount, -, hsold, hamount, -⟩
    · -- without a position the held quantity is zero, which the engine refuses
      simp only [PortfolioManager.getPositionQuantity, hnone] at hheld
      rw [quantity, normalized, normalize_zero, Option.map_some, Option.some.injEq] at hheld
      rw [← hheld] at hguard
      exact absurd (by rfl) hguard
    · exact ⟨amount, hamount hpositive, hsold⟩

end ExecutionEngine

namespace System

variable {n : ℕ} (s : System n)

/-- Settling a booking writes the accounts and what was applied into the books. -/
theorem books_settleBooking (i : Fin n) (execution : ExecutionEvent) (booking : Booking) :
    (s.settleBooking i execution booking).books =
      s.books.withBooking i s.portfolio.accounts
        ((s.engines i).afterBooking booking execution.localOrderId).appliedBrokerQty := by
  unfold settleBooking
  simp only
  generalize hrecorded : System.recordSlippage _ i _ _ _ _ _ = recorded
  have hdesk : s.SameDesk recorded :=
    hrecorded ▸ (s.sameDesk_recordTrade i _).trans (sameDesk_recordSlippage _ i _ _ _ _ _)
  change (recorded.setEngine i _).books = _
  simp only [books, setEngine, Books.withBooking, Books.mk.injEq, hdesk.portfolio_eq,
    hdesk.gateway_eq, hdesk.observers_eq, hdesk.engines_eq, true_and]
  funext j
  by_cases hj : j = i
  · subst hj
    simp only [Function.update_self]
    rfl
  · simp only [Function.update_of_ne hj]

/-- What one engine does with an execution: nothing when it is not bound, otherwise a
booking that the portfolio accepts, or else an error report. -/
theorem onBrokerExecution_cases (i : Fin n) (execution : ExecutionEvent) :
    ((s.engines i).bound = false ∧ s.onBrokerExecution i execution = s) ∨
      (s.onBrokerExecution i execution = s.reportApiError ∧
        ∀ record booking portfolio,
          s.gateway.orderLifecycle execution.localOrderId = some record →
          (s.engines i).Booked s.portfolio record execution booking →
            s.portfolio.call booking.call ≠ .ok portfolio) ∨
      ∃ record booking portfolio, s.gateway.orderLifecycle execution.localOrderId = some record ∧
        (s.engines i).Booked s.portfolio record execution booking ∧
        s.portfolio.call booking.call = .ok portfolio ∧
        s.onBrokerExecution i execution =
          { s with portfolio := portfolio }.settleBooking i execution booking := by
  unfold onBrokerExecution
  simp only
  split
  · next hbound =>
    rw [Bool.not_eq_true'] at hbound
    exact Or.inl ⟨hbound, rfl⟩
  · right
    split
    · next hnone =>
      refine Or.inl ⟨rfl, fun record booking portfolio hrecord hbooked => ?_⟩
      rw [ExecutionEngine.decideBooking_eq_some.mpr ⟨record, hrecord, hbooked⟩] at hnone
      cases hnone
    · next booking hbooking =>
      obtain ⟨record, hrecord, hbooked⟩ := ExecutionEngine.decideBooking_eq_some.mp hbooking
      split
      · next e herror =>
        refine Or.inl ⟨rfl, fun record' booking' portfolio hrecord' hbooked' hcall => ?_⟩
        rw [ExecutionEngine.decideBooking_eq_some.mpr ⟨record', hrecord', hbooked'⟩,
          Option.some.injEq] at hbooking
        rw [hbooking, herror] at hcall
        cases hcall
      · next portfolio hcall =>
        exact Or.inr ⟨record, booking, portfolio, hrecord, hbooked, hcall, rfl⟩

/-- A bound engine of another symbol reports an error. -/
theorem onBrokerExecution_otherSymbol {i : Fin n} {execution : ExecutionEvent}
    {record : OrderLifecycleRecord} (hbound : (s.engines i).bound = true)
    (hrecord : s.gateway.orderLifecycle execution.localOrderId = some record)
    (hsymbol : record.request.canonicalSymbol ≠ (s.engines i).symbol) :
    s.onBrokerExecution i execution = s.reportApiError := by
  have hnone : (s.engines i).decideBooking s.portfolio
      (s.gateway.orderLifecycle execution.localOrderId) execution = none := by
    rw [Option.eq_none_iff_forall_ne_some]
    intro booking hbooking
    obtain ⟨found, hfound, hbooked⟩ := ExecutionEngine.decideBooking_eq_some.mp hbooking
    rw [hrecord, Option.some.injEq] at hfound
    subst hfound
    exact hsymbol hbooked.symbol_eq
  simp only [onBrokerExecution, hbound, hnone, Bool.not_true, Bool.false_eq_true, if_false]

variable {s} in
/-- What an engine books does not depend on the rest of the system. -/
theorem SameDesk.onBrokerExecution {t : System n} (h : s.SameDesk t) (i : Fin n)
    (execution : ExecutionEvent) :
    (t.onBrokerExecution i execution).books = (s.onBrokerExecution i execution).books := by
  unfold System.onBrokerExecution
  simp only [h.portfolio_eq, h.gateway_eq, h.engines_eq]
  split
  · exact h.books_eq
  · split
    · exact h.books_eq
    · split
      · exact h.books_eq
      · next portfolio hcall =>
        rw [books_settleBooking, books_settleBooking]
        simp only [books, h.observers_eq]

/-- The engine never changes the gateway when it handles an execution. -/
theorem onBrokerExecution_gateway (i : Fin n) (execution : ExecutionEvent) :
    (s.onBrokerExecution i execution).gateway = s.gateway := by
  rcases s.onBrokerExecution_cases i execution with
    ⟨-, h⟩ | ⟨h, -⟩ | ⟨-, booking, portfolio, -, -, -, h⟩
  · rw [h]
  · rw [h]
    rfl
  · rw [h]
    exact ((sameDesk_recordTrade _ i _).trans
      (sameDesk_recordSlippage _ i _ _ _ _ _)).gateway_eq

/-- The books after an engine has handled an execution. -/
theorem onBrokerExecution_books (i : Fin n) (execution : ExecutionEvent) :
    ((s.onBrokerExecution i execution).books = s.books ∧
        ((s.engines i).bound = true → ∀ record booking portfolio,
          s.gateway.orderLifecycle execution.localOrderId = some record →
          (s.engines i).Booked s.portfolio record execution booking →
            s.portfolio.call booking.call ≠ .ok portfolio)) ∨
      ∃ record booking portfolio, s.gateway.orderLifecycle execution.localOrderId = some record ∧
        (s.engines i).Booked s.portfolio record execution booking ∧
        s.portfolio.call booking.call = .ok portfolio ∧
        (s.onBrokerExecution i execution).books = s.books.withBooking i portfolio.accounts
          ((s.engines i).afterBooking booking execution.localOrderId).appliedBrokerQty := by
  rcases s.onBrokerExecution_cases i execution with
    ⟨hunbound, h⟩ | ⟨h, hfailed⟩ | ⟨record, booking, portfolio, hrecord, hbooked, hcall, h⟩
  · refine Or.inl ⟨congrArg books h, fun hbound => ?_⟩
    rw [hunbound] at hbound
    cases hbound
  · exact Or.inl ⟨(congrArg books h).trans s.books_reportApiError, fun _ => hfailed⟩
  · refine Or.inr ⟨record, booking, portfolio, hrecord, hbooked, hcall, ?_⟩
    rw [h, books_settleBooking]
    rfl

/-- Handling an execution does not rewire any engine. -/
theorem onBrokerExecution_wiring (i : Fin n) (execution : ExecutionEvent) (j : Fin n) :
    ((s.onBrokerExecution i execution).engines j).symbol = (s.engines j).symbol ∧
      ((s.onBrokerExecution i execution).engines j).bound = (s.engines j).bound := by
  have hsymbol : ((s.onBrokerExecution i execution).engines j).symbol =
      ((s.onBrokerExecution i execution).books.engines j).symbol := rfl
  have hbound : ((s.onBrokerExecution i execution).engines j).bound =
      ((s.onBrokerExecution i execution).books.engines j).bound := rfl
  rw [hsymbol, hbound]
  rcases s.onBrokerExecution_books i execution with
    ⟨h, -⟩ | ⟨-, booking, portfolio, -, -, -, h⟩
  · rw [h]
    exact ⟨rfl, rfl⟩
  · rw [h, Books.withBooking_symbol, Books.withBooking_bound]
    exact ⟨rfl, rfl⟩

/-- The observers of an execution leave the gateway and the wiring of the engines alone. -/
theorem notifyExecution_wiring (execution : ExecutionEvent) :
    (s.notifyExecution execution).gateway = s.gateway ∧
      ∀ j, ((s.notifyExecution execution).engines j).symbol = (s.engines j).symbol ∧
        ((s.notifyExecution execution).engines j).bound = (s.engines j).bound := by
  unfold notifyExecution
  induction s.executionObservers generalizing s with
  | nil => exact ⟨rfl, fun _ => ⟨rfl, rfl⟩⟩
  | cons i observers ih =>
    rw [List.foldl_cons]
    obtain ⟨hgateway, hengines⟩ := ih (s.onBrokerExecution i execution)
    refine ⟨hgateway.trans (s.onBrokerExecution_gateway i execution), fun j => ?_⟩
    obtain ⟨hsymbol, hbound⟩ := s.onBrokerExecution_wiring i execution j
    exact ⟨(hengines j).1.trans hsymbol, (hengines j).2.trans hbound⟩

/-- Engines of other symbols change nothing that bookings depend on. -/
theorem sameDesk_otherSymbols (observers : List (Fin n)) {execution : ExecutionEvent}
    {record : OrderLifecycleRecord} (hbound : ∀ i ∈ observers, (s.engines i).bound = true)
    (hrecord : s.gateway.orderLifecycle execution.localOrderId = some record)
    (hsymbol : ∀ i ∈ observers, record.request.canonicalSymbol ≠ (s.engines i).symbol) :
    s.SameDesk (observers.foldl (fun s i => s.onBrokerExecution i execution) s) := by
  induction observers generalizing s with
  | nil => exact SameDesk.refl s
  | cons i observers ih =>
    rw [List.foldl_cons, s.onBrokerExecution_otherSymbol (hbound i List.mem_cons_self) hrecord
      (hsymbol i List.mem_cons_self)]
    exact s.sameDesk_reportApiError.trans (ih s.reportApiError
      (fun j hj => hbound j (List.mem_cons_of_mem i hj)) hrecord
      (fun j hj => hsymbol j (List.mem_cons_of_mem i hj)))

/-- An applied execution reaches the books through the engine of its symbol only. -/
theorem notifyExecution_books {execution : ExecutionEvent} {record : OrderLifecycleRecord}
    (hwired : s.books.Wired)
    (hrecord : s.gateway.orderLifecycle execution.localOrderId = some record) :
    ((∀ i, record.request.canonicalSymbol ≠ (s.engines i).symbol) ∧
        (s.notifyExecution execution).books = s.books) ∨
      ∃ i, record.request.canonicalSymbol = (s.engines i).symbol ∧
        (s.notifyExecution execution).books = (s.onBrokerExecution i execution).books := by
  have hbound (i : Fin n) : (s.engines i).bound = true := hwired.bound i
  by_cases hnone : ∀ i, record.request.canonicalSymbol ≠ (s.engines i).symbol
  · exact Or.inl ⟨hnone, (s.sameDesk_otherSymbols _ (fun i _ => hbound i) hrecord
      fun i _ => hnone i).books_eq⟩
  · push Not at hnone
    obtain ⟨i, hi⟩ := hnone
    refine Or.inr ⟨i, hi, ?_⟩
    obtain ⟨before, after, hsplit⟩ := List.append_of_mem (hwired.observes i)
    have hother (j : Fin n) (hj : j ≠ i) :
        record.request.canonicalSymbol ≠ (s.engines j).symbol := by
      intro heq
      exact hj (hwired.symbol_injective (heq.symm.trans hi))
    have hnodup := hwired.observers_nodup
    rw [hsplit] at hnodup
    obtain ⟨-, hafter, hdisjoint⟩ := List.nodup_append.mp hnodup
    have hbefore_ne (j : Fin n) (hj : j ∈ before) : j ≠ i :=
      hdisjoint j hj i List.mem_cons_self
    have hafter_ne (j : Fin n) (hj : j ∈ after) : j ≠ i := by
      rintro rfl
      exact (List.nodup_cons.mp hafter).1 hj
    -- the observers before the engine report errors, it books, and those after report again
    have hfirst := s.sameDesk_otherSymbols before (fun j _ => hbound j) hrecord
      fun j hj => hother j (hbefore_ne j hj)
    set first := before.foldl (fun s i => s.onBrokerExecution i execution) s
    have hlast := (first.onBrokerExecution i execution).sameDesk_otherSymbols after
      (fun j _ => by
        rw [(first.onBrokerExecution_wiring i execution j).2, hfirst.engines_eq]
        exact hbound j)
      (by
        rw [onBrokerExecution_gateway, hfirst.gateway_eq]
        exact hrecord)
      (fun j hj => by
        rw [(first.onBrokerExecution_wiring i execution j).1, hfirst.engines_eq]
        exact hother j (hafter_ne j hj))
    have hobservers : s.executionObservers = before ++ i :: after := hsplit
    rw [notifyExecution, hobservers, List.foldl_append, List.foldl_cons, hlast.books_eq,
      hfirst.onBrokerExecution]

end System

end TradeBot
