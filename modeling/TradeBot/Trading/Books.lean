import TradeBot.Session
import TradeBot.Lifecycle.Decisions

/-!
# The books of a system

What orders and bookings depend on: the accounts of the portfolio, the order
lifecycle store, the observers of executions, and what each engine keeps about its
orders. Everything else that a step does leaves the books alone. The store is
followed one record at a time: an event that is no execution keeps every order.
-/

namespace TradeBot

open Library

/-- The portfolio without its resting orders. -/
def PortfolioManager.accounts (pm : PortfolioManager) : PortfolioManager :=
  { pm with pendingOrders := [], nextOrderId := 0 }

/-- What an engine keeps about its orders, and how it is wired. -/
structure EngineBook where
  symbol : String
  bound : Bool
  nextLocalOrderId : ℕ
  appliedBrokerQty : KeyedMap ℕ Financial.Quantity

/-- The book of an engine. -/
def ExecutionEngine.book (engine : ExecutionEngine) : EngineBook where
  symbol := engine.symbol
  bound := engine.bound
  nextLocalOrderId := engine.nextLocalOrderId
  appliedBrokerQty := engine.appliedBrokerQty

/-- What orders and bookings depend on. -/
structure Books (n : ℕ) where
  accounts : PortfolioManager
  lifecycle : OrderLifecycleStore
  observers : List (Fin n)
  engines : Fin n → EngineBook

/-- The books of a system. -/
def System.books {n : ℕ} (s : System n) : Books n where
  accounts := s.portfolio.accounts
  lifecycle := s.gateway.lifecycle
  observers := s.executionObservers
  engines i := (s.engines i).book

namespace Books

variable {n : ℕ} (b : Books n)

/-- The books with another store. -/
def withLifecycle (store : OrderLifecycleStore) : Books n := { b with lifecycle := store }

/-- The books with other accounts. -/
def withAccounts (accounts : PortfolioManager) : Books n := { b with accounts := accounts }

/-- The books after an engine has taken its next order identifier. -/
def allocate (i : Fin n) : Books n :=
  { b with engines := Function.update b.engines i { b.engines i with
      nextLocalOrderId := (b.engines i).nextLocalOrderId + 1 } }

/-- The books after a booking. -/
def withBooking (i : Fin n) (accounts : PortfolioManager)
    (applied : KeyedMap ℕ Financial.Quantity) : Books n :=
  { b with
    accounts := accounts
    engines := Function.update b.engines i { b.engines i with appliedBrokerQty := applied } }

/-- Every engine is bound and observes executions once, and no two engines trade the
same symbol. -/
structure Wired : Prop where
  bound : ∀ i, (b.engines i).bound = true
  symbol_injective : Function.Injective fun i => (b.engines i).symbol
  observers_nodup : b.observers.Nodup
  observes : ∀ i, i ∈ b.observers

variable {b}

/-- The wiring of the engines does not depend on the order store. -/
theorem Wired.withLifecycle (h : b.Wired) (store : OrderLifecycleStore) :
    (b.withLifecycle store).Wired :=
  ⟨h.bound, h.symbol_injective, h.observers_nodup, h.observes⟩

/-- The wiring of the engines does not depend on the portfolio. -/
theorem Wired.withAccounts (h : b.Wired) (accounts : PortfolioManager) :
    (b.withAccounts accounts).Wired :=
  ⟨h.bound, h.symbol_injective, h.observers_nodup, h.observes⟩

/-- Using up an order number changes the symbol of no engine. -/
@[simp] theorem allocate_symbol (i j : Fin n) :
    ((b.allocate i).engines j).symbol = (b.engines j).symbol := by
  by_cases hj : j = i
  · subst hj
    simp only [allocate, Function.update_self]
  · simp only [allocate, Function.update_of_ne hj]

/-- Using up an order number leaves every engine bound or unbound as it was. -/
@[simp] theorem allocate_bound (i j : Fin n) :
    ((b.allocate i).engines j).bound = (b.engines j).bound := by
  by_cases hj : j = i
  · subst hj
    simp only [allocate, Function.update_self]
  · simp only [allocate, Function.update_of_ne hj]

/-- Using up an order number changes no applied quantity. -/
@[simp] theorem allocate_appliedBrokerQty (i j : Fin n) :
    ((b.allocate i).engines j).appliedBrokerQty = (b.engines j).appliedBrokerQty := by
  by_cases hj : j = i
  · subst hj
    simp only [allocate, Function.update_self]
  · simp only [allocate, Function.update_of_ne hj]

/-- Engines stay wired when one of them uses up an order number. -/
theorem Wired.allocate (h : b.Wired) (i : Fin n) : (b.allocate i).Wired := by
  refine ⟨fun j => ?_, fun j k hjk => h.symbol_injective ?_, h.observers_nodup, h.observes⟩
  · rw [allocate_bound]
    exact h.bound j
  · simpa only [allocate_symbol] using hjk

/-- Booking a fill changes the symbol of no engine. -/
@[simp] theorem withBooking_symbol (i : Fin n) (accounts : PortfolioManager)
    (applied : KeyedMap ℕ Financial.Quantity) (j : Fin n) :
    ((b.withBooking i accounts applied).engines j).symbol = (b.engines j).symbol := by
  by_cases hj : j = i
  · subst hj
    simp only [withBooking, Function.update_self]
  · simp only [withBooking, Function.update_of_ne hj]

/-- Booking a fill leaves every engine bound or unbound as it was. -/
@[simp] theorem withBooking_bound (i : Fin n) (accounts : PortfolioManager)
    (applied : KeyedMap ℕ Financial.Quantity) (j : Fin n) :
    ((b.withBooking i accounts applied).engines j).bound = (b.engines j).bound := by
  by_cases hj : j = i
  · subst hj
    simp only [withBooking, Function.update_self]
  · simp only [withBooking, Function.update_of_ne hj]

/-- The engine that books a fill has the new applied quantities. -/
theorem withBooking_applied_self (i : Fin n) (accounts : PortfolioManager)
    (applied : KeyedMap ℕ Financial.Quantity) :
    ((b.withBooking i accounts applied).engines i).appliedBrokerQty = applied := by
  simp only [withBooking, Function.update_self]

/-- The other engines keep their applied quantities. -/
theorem withBooking_applied_of_ne {i j : Fin n} (h : j ≠ i) (accounts : PortfolioManager)
    (applied : KeyedMap ℕ Financial.Quantity) :
    ((b.withBooking i accounts applied).engines j).appliedBrokerQty =
      (b.engines j).appliedBrokerQty := by
  simp only [withBooking, Function.update_of_ne h]

/-- Engines stay wired when one of them books a fill. -/
theorem Wired.withBooking (h : b.Wired) (i : Fin n) (accounts : PortfolioManager)
    (applied : KeyedMap ℕ Financial.Quantity) : (b.withBooking i accounts applied).Wired := by
  refine ⟨fun j => ?_, fun j k hjk => h.symbol_injective ?_, h.observers_nodup, h.observes⟩
  · rw [withBooking_bound]
    exact h.bound j
  · simpa only [withBooking_symbol] using hjk

end Books

namespace System

variable {n : ℕ} (s : System n)

/-- A change of an engine that keeps its book keeps the books. -/
theorem books_setEngine {i : Fin n} {engine : ExecutionEngine}
    (h : engine.book = (s.engines i).book) : (s.setEngine i engine).books = s.books := by
  have hengines : (fun j => ((s.setEngine i engine).engines j).book) =
      fun j => (s.engines j).book := by
    funext j
    by_cases hj : j = i
    · subst hj
      simp only [setEngine, Function.update_self, h]
    · simp only [setEngine, Function.update_of_ne hj]
  simp only [books, hengines]
  rfl

/-- An engine that takes its next identifier changes only that in the books. -/
theorem books_setEngine_allocate (i : Fin n) :
    (s.setEngine i { s.engines i with
      nextLocalOrderId := (s.engines i).nextLocalOrderId + 1 }).books = s.books.allocate i := by
  simp only [books, setEngine, Books.allocate, Books.mk.injEq, true_and]
  funext j
  by_cases hj : j = i
  · subst hj
    simp only [Function.update_self]
    rfl
  · simp only [Function.update_of_ne hj]

/-- A blocked signal is counted and leaves the books. -/
@[simp] theorem books_block (i : Fin n) : (s.block i).books = s.books :=
  s.books_setEngine rfl

/-- Reporting an API error leaves the books. -/
@[simp] theorem books_reportApiError : s.reportApiError.books = s.books := rfl

/-- Two systems that differ at most in risk engine, analytics and clock. -/
structure SameDesk (s t : System n) : Prop where
  portfolio_eq : t.portfolio = s.portfolio
  gateway_eq : t.gateway = s.gateway
  engines_eq : t.engines = s.engines
  observers_eq : t.executionObservers = s.executionObservers

/-- A system has the same desk as itself. -/
theorem SameDesk.refl : s.SameDesk s := ⟨rfl, rfl, rfl, rfl⟩

variable {s} in

/-- Having the same desk is transitive. -/
theorem SameDesk.trans {t u : System n} (h : s.SameDesk t) (h' : t.SameDesk u) :
    s.SameDesk u :=
  ⟨h'.portfolio_eq.trans h.portfolio_eq, h'.gateway_eq.trans h.gateway_eq,
    h'.engines_eq.trans h.engines_eq, h'.observers_eq.trans h.observers_eq⟩

variable {s} in

/-- Systems with the same desk have the same books. -/
theorem SameDesk.books_eq {t : System n} (h : s.SameDesk t) : t.books = s.books := by
  simp only [books, h.portfolio_eq, h.gateway_eq, h.engines_eq, h.observers_eq]

/-- Reporting an API error leaves the desk. -/
theorem sameDesk_reportApiError : s.SameDesk s.reportApiError := ⟨rfl, rfl, rfl, rfl⟩

/-- Recording a trade for the analytics leaves the desk. -/
theorem sameDesk_recordTrade (i : Fin n) (entry : TradeLogEntry) :
    s.SameDesk (s.recordTrade i entry) := by
  unfold recordTrade
  split
  · exact ⟨rfl, rfl, rfl, rfl⟩
  · exact SameDesk.refl s

/-- Recording a slippage for the analytics leaves the desk. -/
theorem sameDesk_recordSlippage (i : Fin n) (timestamp : ℕ) (symbol : String)
    (expectedPrice actualPrice quantity : Double) :
    s.SameDesk (s.recordSlippage i timestamp symbol expectedPrice actualPrice quantity) := by
  unfold recordSlippage
  split
  · exact ⟨rfl, rfl, rfl, rfl⟩
  · exact SameDesk.refl s

/-- Recording a latency leaves the books. -/
@[simp] theorem books_recordLatency (i : Fin n) (elapsed : ℚ) :
    (s.recordLatency i elapsed).books = s.books :=
  s.books_setEngine rfl

/-- Calls of the trigger manager leave the books. -/
@[simp] theorem books_updateTriggers (i : Fin n)
    (update : TriggerOrderManager → TriggerOrderManager × ℕ) :
    (s.updateTriggers i update).1.books = s.books := by
  unfold updateTriggers
  split
  · rfl
  · exact s.books_setEngine rfl

/-- Cancelling a trigger leaves the books. -/
@[simp] theorem books_cancelTrigger (i : Fin n) (orderId : ℕ) :
    (s.cancelTrigger i orderId).books = s.books := by
  unfold cancelTrigger
  split
  · rfl
  · exact s.books_setEngine rfl

/-- A resting order is no part of the books until it is filled. -/
@[simp] theorem books_placePendingOrder (order : OrderRecord) :
    (s.placePendingOrder order).1.books = s.books := by
  simp only [placePendingOrder, books, Books.mk.injEq, and_true]
  unfold PortfolioManager.placePendingOrder
  split
  · rfl
  · split <;> rfl

/-- The gateway may change, all but its store. -/
theorem books_withGateway (gateway : BrokerGateway) :
    { s with gateway := gateway }.books = s.books.withLifecycle gateway.lifecycle := rfl

end System

/-- A record that an event may have revised, with its order as it was. -/
structure OrderLifecycleRecord.Kept (record next : OrderLifecycleRecord) : Prop where
  request_eq : next.request = record.request
  filled_eq : next.filledQuantity = record.filledQuantity
  remaining_eq : next.remainingQuantity = record.remainingQuantity
  terminal : isTerminal record.state = true → isTerminal next.state = true

/-- A record is kept by doing nothing. -/
theorem OrderLifecycleRecord.Kept.refl (record : OrderLifecycleRecord) : record.Kept record :=
  ⟨rfl, rfl, rfl, id⟩

/-- A record that is kept twice in a row is kept. -/
theorem OrderLifecycleRecord.Kept.trans {record next last : OrderLifecycleRecord}
    (h : record.Kept next) (h' : next.Kept last) : record.Kept last :=
  ⟨h'.request_eq.trans h.request_eq, h'.filled_eq.trans h.filled_eq,
    h'.remaining_eq.trans h.remaining_eq, fun ht => h'.terminal (h.terminal ht)⟩

/-- An order that is open after a revision was open before it. -/
theorem OrderLifecycleRecord.Kept.isOpen {record next : OrderLifecycleRecord}
    (h : record.Kept next) (hopen : isTerminal next.state = false) :
    isTerminal record.state = false := by
  by_contra hterminal
  rw [Bool.not_eq_false] at hterminal
  rw [h.terminal hterminal] at hopen
  cases hopen

namespace OrderLifecycleStore

/-- Two stores have the same orders, up to their states. -/
def Keeps (store next : OrderLifecycleStore) : Prop :=
  ∀ localOrderId, Option.Rel OrderLifecycleRecord.Kept (store.find localOrderId)
    (next.find localOrderId)

/-- A store keeps its own records. -/
theorem Keeps.refl (store : OrderLifecycleStore) : store.Keeps store := by
  intro localOrderId
  cases store.find localOrderId with
  | none => exact Option.Rel.none
  | some record => exact Option.Rel.some (.refl record)

/-- A store that keeps what another one kept keeps the records of the first. -/
theorem Keeps.trans {store next last : OrderLifecycleStore} (h : store.Keeps next)
    (h' : next.Keeps last) : store.Keeps last := by
  intro localOrderId
  have hfirst := h localOrderId
  have hsecond := h' localOrderId
  revert hfirst hsecond
  generalize store.find localOrderId = first
  generalize next.find localOrderId = second
  generalize last.find localOrderId = third
  rintro (⟨hab⟩ | _) hsecond
  · rcases hsecond with ⟨hbc⟩
    exact Option.Rel.some (hab.trans hbc)
  · cases hsecond
    exact Option.Rel.none

/-- What was found before is found after, and conversely. -/
theorem Keeps.of_find {store next : OrderLifecycleStore} (h : store.Keeps next)
    {localOrderId : ℕ} {last : OrderLifecycleRecord} (hfind : next.find localOrderId = some last) :
    ∃ record, store.find localOrderId = some record ∧ record.Kept last := by
  have hrel := h localOrderId
  rw [hfind] at hrel
  generalize hfound : store.find localOrderId = found at hrel
  rcases hrel with ⟨hkept⟩
  exact ⟨_, rfl, hkept⟩

/-- Every record of a store is found again, kept, in a store that keeps it. -/
theorem Keeps.find {store next : OrderLifecycleStore} (h : store.Keeps next)
    {localOrderId : ℕ} {record : OrderLifecycleRecord}
    (hfind : store.find localOrderId = some record) :
    ∃ last, next.find localOrderId = some last ∧ record.Kept last := by
  have hrel := h localOrderId
  rw [hfind] at hrel
  generalize hfound : next.find localOrderId = found at hrel
  rcases hrel with ⟨hkept⟩
  exact ⟨_, rfl, hkept⟩

/-- An event whose decision keeps the order keeps every order. -/
theorem handleEvent_keeps (store : OrderLifecycleStore) (localOrderId : ℕ) (eventKey : String)
    {decision : OrderLifecycleRecord → Except Refusal OrderLifecycleRecord}
    (hdecision : ∀ record next, decision record = .ok next → record.Kept next) :
    store.Keeps (store.handleEvent localOrderId eventKey decision).1 := by
  rcases hhandle : store.handleEvent localOrderId eventKey decision with ⟨store', result⟩
  rcases handleEvent_cases hhandle with
    ⟨rfl, -⟩ | ⟨record, next, hfind, -, -, hnext, rfl, -⟩
  · exact Keeps.refl _
  · intro other
    change Option.Rel _ _ ((store.commit localOrderId next eventKey).find other)
    rw [find_commit]
    split
    · next heq =>
      subst heq
      rw [hfind]
      exact Option.Rel.some (hdecision record next hnext)
    · exact Keeps.refl store other

/-- A transition changes the state of a record and leaves its request and its fills. -/
theorem decideTransition_kept {target : OrderLifecycleState} {eventKey : String}
    {timestampNs sequence : ℕ} {record next : OrderLifecycleRecord}
    (h : decideTransition target eventKey timestampNs sequence record = .ok next) :
    record.Kept next := by
  obtain ⟨-, hstate, rfl⟩ := decideTransition_eq_ok.mp h
  refine ⟨rfl, rfl, rfl, fun ht => ?_⟩
  rw [isTerminal_of_canTransition hstate] at ht
  cases ht

/-- A transition that the store decides keeps every record. -/
theorem transition_keeps (store : OrderLifecycleStore) (localOrderId : ℕ)
    (target : OrderLifecycleState) (eventKey : String) (timestampNs sequence : ℕ) :
    store.Keeps (store.transition localOrderId target eventKey timestampNs sequence).1 :=
  handleEvent_keeps store localOrderId eventKey fun _ _ => decideTransition_kept

/-- Marking an order as unknown keeps every record. -/
theorem markUnknown_keeps (store : OrderLifecycleStore) (localOrderId : ℕ) (eventKey : String)
    (failure : FailureCategory) (reason : String) (timestampNs sequence : ℕ) :
    store.Keeps
      (store.markUnknown localOrderId eventKey failure reason timestampNs sequence).1 := by
  rw [markUnknown_eq_handleEvent]
  apply handleEvent_keeps
  intro record next h
  obtain ⟨revised, hrevised, rfl⟩ := map_eq_ok.mp h
  have hkept := decideTransition_kept hrevised
  exact ⟨hkept.request_eq, hkept.filled_eq, hkept.remaining_eq, hkept.terminal⟩

/-- An acknowledgement keeps the request and the fills of every record. -/
theorem applyAcknowledgement_keeps (store : OrderLifecycleStore) (ack : OrderAcknowledgement) :
    store.Keeps (store.applyAcknowledgement ack).1 := by
  apply handleEvent_keeps
  intro record next h
  obtain ⟨-, -, hstate, rfl⟩ := decideAcknowledgement_eq_ok.mp h
  refine ⟨rfl, rfl, rfl, fun ht => ?_⟩
  rw [isTerminal_of_canTransition hstate] at ht
  cases ht

/-- A request to cancel keeps the request and the fills of every record. -/
theorem requestCancel_keeps (store : OrderLifecycleStore) (request : CancelRequest) :
    store.Keeps (store.requestCancel request).1 := by
  apply handleEvent_keeps
  intro record next h
  obtain ⟨-, hstate, rfl⟩ := decideCancelRequest_eq_ok.mp h
  refine ⟨rfl, rfl, rfl, fun ht => ?_⟩
  rw [isTerminal_of_canTransition hstate] at ht
  cases ht

/-- The result of a cancellation keeps the request and the fills of every record. -/
theorem applyCancelResult_keeps (store : OrderLifecycleStore) (result : CancelResult) :
    store.Keeps (store.applyCancelResult result).1 := by
  apply handleEvent_keeps
  intro record next h
  obtain ⟨-, hstate, outcome, -, rfl⟩ := decideCancelResult_eq_ok.mp h
  refine ⟨rfl, rfl, rfl, fun ht => ?_⟩
  rw [hstate] at ht
  cases ht

end OrderLifecycleStore

end TradeBot
