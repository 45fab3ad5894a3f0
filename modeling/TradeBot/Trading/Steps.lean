import TradeBot.Trading.Bookings
import TradeBot.Trading.Dispatch

/-!
# What one input of a session can do

With every engine bound, an input leaves the books alone, or it takes an order
identifier, records one order, revises a record without touching its quantities,
delivers an execution that the store applies, marks the portfolio, or processes the
resting orders of the portfolio. The results about sessions need this list only.
-/

namespace TradeBot

open Library

namespace BrokerGateway

variable (gateway : BrokerGateway)

/-- The return of a dispatch keeps the request and the fills of every order. -/
theorem finishDispatch_keeps (order : NormalizedOrder) (submitted : Bool) :
    gateway.lifecycle.Keeps (gateway.finishDispatch order submitted).1.lifecycle := by
  unfold finishDispatch
  cases submitted with
  | true => exact OrderLifecycleStore.Keeps.refl _
  | false => exact OrderLifecycleStore.markUnknown_keeps _ _ _ _ _ _ _

/-- The begin of a cancellation keeps the request and the fills of every order. -/
theorem beginCancel_keeps (request : CancelRequest) :
    gateway.lifecycle.Keeps (gateway.beginCancel request).1.lifecycle := by
  have hkeeps := gateway.lifecycle.requestCancel_keeps request
  unfold beginCancel
  split
  · exact OrderLifecycleStore.Keeps.refl _
  · split
    · next store heq =>
      rw [heq] at hkeeps
      exact hkeeps
    · exact OrderLifecycleStore.Keeps.refl _

/-- The return of a cancellation keeps the request and the fills of every order. -/
theorem finishCancel_keeps (request : CancelRequest) (canceled : Bool) :
    gateway.lifecycle.Keeps (gateway.finishCancel request canceled).1.lifecycle := by
  unfold finishCancel
  cases canceled with
  | true => exact OrderLifecycleStore.Keeps.refl _
  | false => exact OrderLifecycleStore.markUnknown_keeps _ _ _ _ _ _ _

/-- An acknowledgement keeps the request and the fills of every order. -/
theorem handleAcknowledgement_keeps (acknowledgement : OrderAcknowledgement) :
    gateway.lifecycle.Keeps (gateway.handleAcknowledgement acknowledgement).1.lifecycle := by
  have hkeeps := gateway.lifecycle.applyAcknowledgement_keeps acknowledgement
  unfold handleAcknowledgement
  split
  · next store heq =>
    rw [heq] at hkeeps
    exact hkeeps
  · exact OrderLifecycleStore.Keeps.refl _

/-- A cancel event keeps the request and the fills of every order. -/
theorem handleCancel_keeps (result : CancelResult) :
    gateway.lifecycle.Keeps (gateway.handleCancel result).lifecycle := by
  have hkeeps := gateway.lifecycle.applyCancelResult_keeps result
  unfold handleCancel
  split
  · next store heq =>
    rw [heq] at hkeeps
    exact hkeeps
  · exact OrderLifecycleStore.Keeps.refl _

/-- The observers are called exactly when the store has applied the execution. -/
theorem handleExecution_cases (execution : ExecutionEvent) :
    ((gateway.handleExecution execution).2 = false ∧
        (gateway.handleExecution execution).1.lifecycle = gateway.lifecycle ∧
        (gateway.lifecycle.applyExecution execution).2 ≠ .applied) ∨
      ((gateway.handleExecution execution).2 = true ∧
        gateway.lifecycle.applyExecution execution =
          ((gateway.handleExecution execution).1.lifecycle, .applied)) := by
  unfold handleExecution
  cases happly : gateway.lifecycle.applyExecution execution with
  | mk store result => cases result <;> simp

end BrokerGateway

namespace System

variable {n : ℕ} (s : System n)

/-- Of the books the return of a dispatch changes the order store only. -/
theorem finishDispatch_books (i : Fin n) (order : NormalizedOrder) (submitted : Bool) :
    (s.finishDispatch i order submitted).1.books =
      s.books.withLifecycle (s.gateway.finishDispatch order submitted).1.lifecycle := by
  unfold finishDispatch
  simp only
  split
  · split
    · rw [books_block, books_reportApiError, books_withGateway]
    · rw [books_withGateway]
  · exact System.books_setEngine _ rfl

/-- Of the books an acknowledgement changes the order store only. -/
theorem deliver_acknowledgement_books (acknowledgement : OrderAcknowledgement) :
    (s.deliver (.acknowledgement acknowledgement)).books =
      s.books.withLifecycle (s.gateway.handleAcknowledgement acknowledgement).1.lifecycle := by
  unfold deliver
  simp only
  split
  · rw [books_reportApiError, books_withGateway]
  · rw [books_withGateway]

/-- A mark changes the accounts only. -/
theorem markPrice_books (symbol : String) (currentPrice : Double) :
    (s.markPrice symbol currentPrice).books =
      s.books.withAccounts (s.markPrice symbol currentPrice).portfolio.accounts := by
  unfold markPrice
  split <;> rfl

/-- The bookkeeping after a local fill of a resting order. -/
private theorem filled_books (i : Fin n) (portfolio : PortfolioManager) (entry : TradeLogEntry) :
    let t := ({ s with portfolio := portfolio }.setEngine i
      { s.engines i with filledCount := (s.engines i).filledCount + 1 }).recordTrade i entry
    t.books = s.books.withAccounts t.portfolio.accounts := by
  intro t
  have hdesk := sameDesk_recordTrade ({ s with portfolio := portfolio }.setEngine i
    { s.engines i with filledCount := (s.engines i).filledCount + 1 }) i entry
  rw [hdesk.books_eq, hdesk.portfolio_eq]
  exact books_setEngine { s with portfolio := portfolio } rfl

/-- Of the books a resting purchase that is filled changes the accounts only. -/
private theorem enterPending_books {i : Fin n} {fill : OrderFillResult} {plan : EntryPlan}
    {t : System n} (h : s.enterPending i fill plan = .ok t) :
    t.books = s.books.withAccounts t.portfolio.accounts := by
  simp only [enterPending, bind_eq_ok, pure_eq_ok] at h
  obtain ⟨portfolio, -, rfl⟩ := h
  exact s.filled_books i portfolio _

/-- Of the books a resting sale that is filled changes the accounts only. -/
private theorem exitPending_books {i : Fin n} {fill : OrderFillResult} {plan : ExitPlan}
    {t : System n} (h : s.exitPending i fill plan = .ok t) :
    t.books = s.books.withAccounts t.portfolio.accounts := by
  simp only [exitPending, bind_eq_ok, pure_eq_ok] at h
  obtain ⟨portfolio, -, rfl⟩ := h
  exact s.filled_books i portfolio _

/-- The resting orders change the accounts only. -/
theorem processFills_books (i : Fin n) (fills : List OrderFillResult) (filledCount : ℕ) :
    (processFills i s fills filledCount).1.books =
      s.books.withAccounts (processFills i s fills filledCount).1.portfolio.accounts := by
  have htrans {s t u : System n} (h : t.books = s.books.withAccounts t.portfolio.accounts)
      (h' : u.books = t.books.withAccounts u.portfolio.accounts) :
      u.books = s.books.withAccounts u.portfolio.accounts := by
    rw [h', h]
    rfl
  induction fills generalizing s filledCount with
  | nil => rfl
  | cons fill fills ih =>
    unfold processFills
    split
    · exact ih s filledCount
    · exact htrans (s.books_block i) (ih (s.block i) filledCount)
    · split
      · rfl
      · next t ht => exact htrans (s.enterPending_books ht) (ih t (filledCount + 1))
    · split
      · rfl
      · next t ht => exact htrans (s.exitPending_books ht) (ih t (filledCount + 1))

/-- Of the books a candle for the resting orders changes the accounts only. -/
theorem processPendingOrders_books (i : Fin n) (candle : MarketCandle) :
    (s.processPendingOrders i candle).1.books =
      s.books.withAccounts (s.processPendingOrders i candle).1.portfolio.accounts :=
  processFills_books _ i _ 0

end System

namespace Session

variable {n : ℕ} (s : Session n)

/-- The `execute` call that an input makes, if any. -/
def executeCall : Input n → Option (Fin n × ExecuteArgs)
  | .execute i args => match s.control with
    | .idle => some (i, args)
    | _ => none
  | .executeTriggered atr routeLatencyMs => match s.control with
    | .triggering i ⟨event :: _, _⟩ => some (i, System.triggerArgs event atr routeLatencyMs)
    | _ => none
  | _ => none

/-- The execution that an input delivers, if the store applies it, with the store
that results. -/
def appliedExecution : Input n → Option (ExecutionEvent × OrderLifecycleStore)
  | .deliver (.execution execution) =>
    match s.system.gateway.lifecycle.applyExecution execution with
    | (store, .applied) => some (execution, store)
    | _ => none
  | _ => none

/-- The candle with which an input processes the resting orders, if it does. -/
def pendingCandle : Input n → Option (Fin n × MarketCandle)
  | .processPendingOrders i candle => match s.control with
    | .idle => some (i, candle)
    | _ => none
  | _ => none

/-- What an input does to the system: the books afterwards and why. -/
inductive Effect (s : Session n) (input : Input n) (t : System n) : Prop
  | quiet (h : t.books = s.system.books)
  | allocated (i : Fin n) (h : t.books = s.system.books.allocate i)
  | recorded (i : Fin n) (args : ExecuteArgs) (isBuy : Bool) (order : NormalizedOrder)
      (hcall : s.executeCall input = some (i, args))
      (horder : s.system.executeOrder i args = some (isBuy, order))
      (h : t.books = (s.system.books.allocate i).withLifecycle
        (BrokerGateway.recordOrder s.system.gateway.lifecycle order))
  | revised (store : OrderLifecycleStore) (hkeeps : s.system.gateway.lifecycle.Keeps store)
      (h : t.books = s.system.books.withLifecycle store)
  | executed (execution : ExecutionEvent) (gateway : BrokerGateway)
      (happlied : s.appliedExecution input = some (execution, gateway.lifecycle))
      (h : t = { s.system with gateway := gateway }.notifyExecution execution)
  | marked (symbol : String) (currentPrice : Double)
      (hinput : input = .markPrice symbol currentPrice)
      (h : t = s.system.markPrice symbol currentPrice)
  | pending (i : Fin n) (candle : MarketCandle) (hcandle : s.pendingCandle input = some (i, candle))
      (h : t = (s.system.processPendingOrders i candle).1)

variable {s}

/-- The effect of a call of `execute` on the books. -/
private theorem effect_execute {input : Input n} {t : System n} {i : Fin n} {args : ExecuteArgs}
    (hbound : (s.system.engines i).bound = true) (hcall : s.executeCall input = some (i, args))
    (h : t.books = (s.system.beginExecute i args).1.books) : Effect s input t := by
  rcases s.system.beginExecute_books hbound args with hsame | halloc | ⟨isBuy, order, horder, hrec⟩
  · exact .quiet (h.trans hsame)
  · exact .allocated i (h.trans halloc)
  · exact .recorded i args isBuy order hcall horder (h.trans hrec)

/-- The effect of the return of a dispatch on the books. -/
private theorem effect_finishDispatch {input : Input n} {t : System n} {i : Fin n}
    {order : NormalizedOrder} {accepted : Bool}
    (h : t.books = (s.system.finishDispatch i order accepted).1.books) : Effect s input t :=
  .revised _ (s.system.gateway.finishDispatch_keeps order accepted)
    (h.trans (s.system.finishDispatch_books i order accepted))

/-- The effect of a broker event on the books. -/
private theorem effect_deliver (s : Session n) (event : BrokerEvent) :
    Effect s (.deliver event) (s.system.deliver event) := by
  cases event with
  | acknowledgement acknowledgement =>
    exact .revised _ (s.system.gateway.handleAcknowledgement_keeps acknowledgement)
      (s.system.deliver_acknowledgement_books acknowledgement)
  | execution execution =>
    rcases s.system.gateway.handleExecution_cases execution with
      ⟨hcalled, hstore, -⟩ | ⟨hcalled, happlied⟩
    · refine .quiet ?_
      simp only [System.deliver, hcalled, Bool.false_eq_true, if_false]
      rw [System.books_withGateway, hstore]
      rfl
    · refine .executed execution (s.system.gateway.handleExecution execution).1 ?_ ?_
      · simp only [appliedExecution, happlied]
      · simp only [System.deliver, hcalled, if_true]
  | cancelResult result =>
    exact .revised _ (s.system.gateway.handleCancel_keeps result) rfl
  | health health => exact .quiet rfl

/-- Counting a trigger that was executed leaves the books. -/
private theorem books_countTriggered (system : System n) (i : Fin n) (event : TriggerFillEvent)
    (loop : TriggerLoop) : (countTriggered system i event loop).1.system.books = system.books :=
  system.books_cancelTrigger i event.orderId

/-- A triggered exit changes the books as its call of `execute` does. -/
private theorem books_stepTriggered (system : System n) (i : Fin n) (event : TriggerFillEvent)
    (loop : TriggerLoop) (atr : Option Double) (routeLatencyMs : ℚ) :
    (stepTriggered system i event loop atr routeLatencyMs).1.system.books =
      (system.beginExecute i (System.triggerArgs event atr routeLatencyMs)).1.books := by
  unfold stepTriggered
  split
  · next heq => rw [heq]
  · next heq => rw [heq]
  · next heq => rw [heq, books_countTriggered]
  · next heq => rw [heq]

/-- The return of the adapter changes the books as the return of the dispatch does. -/
theorem books_stepSubmitReturned (system : System n) (i : Fin n) (order : NormalizedOrder)
    (loop : Option (TriggerFillEvent × TriggerLoop)) (accepted : Bool) :
    (stepSubmitReturned system i order loop accepted).1.system.books =
      (system.finishDispatch i order accepted).1.books := by
  unfold stepSubmitReturned
  simp only
  split
  · rfl
  · rfl
  · rw [books_countTriggered]
  · rfl

/-- An idle session begins the call of `execute` that it is asked for. -/
theorem next_execute (system : System n) (i : Fin n) (args : ExecuteArgs) :
    (session.next ⟨system, .idle⟩ (.execute i args)).system = (system.beginExecute i args).1 := by
  change (stepExecute system i args).1.system = _
  unfold stepExecute
  split
  · next heq => rw [heq]
  · next heq => rw [heq]

/-- **What one input of a session can do**, when every engine is bound. -/
theorem effect (hbound : ∀ i, (s.system.engines i).bound = true) (input : Input n) :
    Effect s input (session.next s input).system := by
  obtain ⟨system, control⟩ := s
  cases input with
  | deliver event => exact effect_deliver _ event
  | risk input => exact .quiet rfl
  | adapterConnection connected => exact .quiet rfl
  | execute i args =>
    cases control with
    | idle =>
      exact effect_execute (hbound i) (show executeCall _ _ = some (i, args) from rfl)
        (congrArg System.books (next_execute system i args))
    | _ => exact .quiet rfl
  | submitReturned accepted =>
    cases control with
    | submitting i order loop =>
      exact effect_finishDispatch (books_stepSubmitReturned system i order loop accepted)
    | _ => exact .quiet rfl
  | requestCancel request =>
    cases control with
    | idle =>
      refine .revised _ (system.gateway.beginCancel_keeps request) ?_
      change (stepRequestCancel system request).1.system.books = _
      unfold stepRequestCancel
      split
      · next heq => rw [heq, System.books_withGateway]
      · next heq => rw [heq, System.books_withGateway]
    | _ => exact .quiet rfl
  | cancelReturned accepted =>
    cases control with
    | canceling request =>
      exact .revised _ (system.gateway.finishCancel_keeps request accepted) rfl
    | _ => exact .quiet rfl
  | processTriggerOrders i bbo timestamp => cases control <;> exact .quiet rfl
  | executeTriggered atr routeLatencyMs =>
    cases control with
    | triggering i loop =>
      obtain ⟨events, executed⟩ := loop
      cases events with
      | nil => exact .quiet rfl
      | cons event events =>
        exact effect_execute (hbound i) rfl
          (books_stepTriggered system i event ⟨events, executed⟩ atr routeLatencyMs)
    | _ => exact .quiet rfl
  | placeStopLossTrigger i stopPrice quantity strategyId =>
    cases control with
    | idle => exact .quiet (system.books_updateTriggers i _)
    | _ => exact .quiet rfl
  | placeOcoTrigger i stopPrice takeProfitPrice quantity strategyId =>
    cases control with
    | idle => exact .quiet (system.books_updateTriggers i _)
    | _ => exact .quiet rfl
  | placePendingOrder order =>
    cases control with
    | idle => exact .quiet (system.books_placePendingOrder order)
    | _ => exact .quiet rfl
  | processPendingOrders i candle =>
    cases control with
    | idle => exact .pending i candle rfl rfl
    | _ => exact .quiet rfl
  | markPrice symbol currentPrice =>
    cases control with
    | idle => exact .marked symbol currentPrice rfl rfl
    | _ => exact .quiet rfl
  | setSymbolAlias canonicalSymbol executionAlias => cases control <;> exact .quiet rfl
  | setInstrumentSpec spec => cases control <;> exact .quiet rfl

/-- An execution that the store applies commits a valid next record. -/
theorem appliedExecution_eq_some {input : Input n} {execution : ExecutionEvent}
    {store : OrderLifecycleStore} (h : s.appliedExecution input = some (execution, store)) :
    input = .deliver (.execution execution) ∧ ∃ record next,
      s.system.gateway.lifecycle.find execution.localOrderId = some record ∧
        OrderLifecycleStore.decideExecution execution record = .ok next ∧
        store = s.system.gateway.lifecycle.commit execution.localOrderId next
          execution.eventKey := by
  cases input with
  | deliver event =>
    cases event with
    | execution delivered =>
      rcases happly : s.system.gateway.lifecycle.applyExecution delivered with ⟨after, result⟩
      simp only [appliedExecution, happly] at h
      split at h
      · next heq =>
        cases h
        cases heq
        rcases OrderLifecycleStore.handleEvent_cases happly with
          ⟨-, hresult⟩ | ⟨record, next, hfind, -, -, hdecision, hcommit, -⟩
        · exact absurd rfl hresult
        · exact ⟨rfl, record, next, hfind, hdecision, hcommit⟩
      · cases h
    | _ => cases h
  | _ => cases h

/-- What a delivered execution of an order does to the books, beyond the store: it is
booked by the engine of the order's symbol, or it is not booked at all. -/
inductive Settled (s : Session n) (execution : ExecutionEvent) (next : OrderLifecycleRecord)
    (store : OrderLifecycleStore) (t : System n) : Prop
  | otherSymbol (hsymbol : ∀ i, next.request.canonicalSymbol ≠ (s.system.engines i).symbol)
      (h : t.books = s.system.books.withLifecycle store)
  | reported (i : Fin n) (hsymbol : next.request.canonicalSymbol = (s.system.engines i).symbol)
      (hfailed : ∀ booking portfolio,
        (s.system.engines i).Booked s.system.portfolio next execution booking →
          s.system.portfolio.call booking.call ≠ .ok portfolio)
      (h : t.books = s.system.books.withLifecycle store)
  | booked (i : Fin n) (booking : Booking) (portfolio : PortfolioManager)
      (hbooked : (s.system.engines i).Booked s.system.portfolio next execution booking)
      (hcall : s.system.portfolio.call booking.call = .ok portfolio)
      (h : t.books = (s.system.books.withLifecycle store).withBooking i portfolio.accounts
        ((s.system.engines i).afterBooking booking execution.localOrderId).appliedBrokerQty)

/-- **A delivered execution is settled by the engine of its symbol.** -/
theorem settled (hwired : s.system.books.Wired) {execution : ExecutionEvent}
    {gateway : BrokerGateway} {next : OrderLifecycleRecord}
    (hfind : gateway.lifecycle.find execution.localOrderId = some next) :
    Settled s execution next gateway.lifecycle
      ({ s.system with gateway := gateway }.notifyExecution execution) := by
  have hwired' : { s.system with gateway := gateway }.books.Wired :=
    hwired.withLifecycle gateway.lifecycle
  rcases System.notifyExecution_books { s.system with gateway := gateway } hwired' hfind with
    ⟨hsymbol, h⟩ | ⟨i, hsymbol, h⟩
  · exact .otherSymbol hsymbol h
  · rcases System.onBrokerExecution_books { s.system with gateway := gateway } i execution with
      ⟨hbooks, hfailed⟩ | ⟨record, booking, portfolio, hrecord, hbooked, hcall, hbooks⟩
    · exact .reported i hsymbol
        (fun booking portfolio => hfailed (hwired.bound i) next booking portfolio hfind)
        (h.trans hbooks)
    · rw [BrokerGateway.orderLifecycle, hfind, Option.some.injEq] at hrecord
      subst hrecord
      exact .booked i booking portfolio hbooked hcall (h.trans hbooks)

/-- No input changes the symbol of an engine or unbinds it. -/
theorem wiring_next (hbound : ∀ i, (s.system.engines i).bound = true) (input : Input n)
    (j : Fin n) :
    ((session.next s input).system.engines j).symbol = (s.system.engines j).symbol ∧
      ((session.next s input).system.engines j).bound = (s.system.engines j).bound := by
  have hread {t : System n} {b : Books n} (h : t.books = b) :
      (t.engines j).symbol = (b.engines j).symbol ∧ (t.engines j).bound = (b.engines j).bound := by
    rw [← h]
    exact ⟨rfl, rfl⟩
  rcases effect hbound input with
    h | ⟨i, h⟩ | ⟨i, _, _, _, -, -, h⟩ | ⟨_, -, h⟩ | ⟨execution, gateway, -, h⟩ |
    ⟨symbol, currentPrice, -, h⟩ | ⟨i, candle, -, h⟩
  · exact hread h
  · obtain ⟨hsymbol, hbound⟩ := hread h
    exact ⟨hsymbol.trans (Books.allocate_symbol i j), hbound.trans (Books.allocate_bound i j)⟩
  · obtain ⟨hsymbol, hbound⟩ := hread h
    exact ⟨hsymbol.trans (Books.allocate_symbol i j), hbound.trans (Books.allocate_bound i j)⟩
  · exact hread h
  · rw [h]
    exact ({ s.system with gateway := gateway }.notifyExecution_wiring execution).2 j
  · rw [h]
    exact hread (s.system.markPrice_books symbol currentPrice)
  · rw [h]
    exact hread (s.system.processPendingOrders_books i candle)

end Session

end TradeBot
