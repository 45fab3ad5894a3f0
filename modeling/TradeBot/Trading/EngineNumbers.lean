import TradeBot.Gateway.DispatchKeys
import TradeBot.Trading.PaperSteps
import TradeBot.Trading.SoundBooks

/-!
# The numbers that engines give their orders

Each engine counts its own orders and makes the key of an order from its number. The store
knows such a key only together with an order of that number, and the orders of an engine have
lower numbers than its next one. So a dispatch that the risk engine and the gateway permit
fails only where another engine's order has the number already.
-/

namespace TradeBot

open Library

/-- The idempotency key that an engine makes for an order. -/
def executionKey (localOrderId : ℕ) : String := "execution-" ++ toString localOrderId

/-- The keys under which engines find their executions begin alike. -/
theorem executionKey_beginsWith (localOrderId : ℕ) :
    BeginsWith "execution-" (executionKey localOrderId) := beginsWith_append _ _

/-- Different orders have different ones. -/
theorem executionKey_injective : Function.Injective executionKey := by
  intro m n h
  apply numbered_injective "execution-" ""
  simpa only [executionKey, String.append_empty] using h

namespace BrokerGateway

variable {gateway : BrokerGateway} {request : OrderRequest} {order : NormalizedOrder}

/-- A request that can be normalized is complete. -/
theorem normalizeOrder_complete (h : gateway.normalizeOrder request = .ok order) :
    request.localOrderId ≠ 0 ∧ request.canonicalSymbol ≠ "" ∧ request.idempotencyKey ≠ "" := by
  unfold normalizeOrder at h
  split at h
  · cases h
  · next hcomplete =>
    simp only [not_or] at hcomplete
    exact ⟨hcomplete.1, hcomplete.2.1, hcomplete.2.2.2⟩

/-- The quantity of a normalized order has a scale that the store accepts. -/
theorem normalizeOrder_scale (h : gateway.normalizeOrder request = .ok order) :
    order.normalizedQuantity.scale ≤ Decimal64.maxScale := by
  obtain ⟨-, hquantity, -⟩ := normalizeOrder_eq_ok h
  obtain ⟨-, -, minimum, -, hminimum, -⟩ := normalizeQuantity_eq_ok hquantity
  unfold rescaleTowardZero at hminimum
  split at hminimum
  · cases hminimum
  · next hscales =>
    rw [not_or, not_lt, not_lt] at hscales
    exact hscales.2

/-- The store creates a normalized order when it knows neither the number nor the key. -/
theorem create_normalized (h : gateway.normalizeOrder request = .ok order)
    {store : OrderLifecycleStore} (hfind : store.find request.localOrderId = none)
    (hkey : request.idempotencyKey ∉ store.appliedEventKeys) :
    (store.create (lifecycleRequest order)).2 = true := by
  obtain ⟨hid, hsymbol, hnonempty⟩ := normalizeOrder_complete h
  obtain ⟨rfl, hpositive, -⟩ := normalizeOrder_spec h
  have hscale := not_lt.mpr (normalizeOrder_scale h)
  have hnew : order.request.localOrderId ∉ store.records := AList.lookup_eq_none.mp hfind
  simp only [OrderLifecycleStore.create, lifecycleRequest, hid, hsymbol, hpositive, hnonempty,
    hscale, hnew, hkey, Bool.not_true, Bool.false_eq_true, or_self, if_false]

/-- **A permitted order is taken exactly when its number is free.** -/
theorem takes_iff (h : gateway.normalizeOrder request = .ok order)
    (hkey : request.idempotencyKey = executionKey request.localOrderId)
    (hsequence : request.sequence < 2 ^ 64) (hmarks : gateway.lifecycle.MarksRecorded)
    (hkeys : gateway.lifecycle.Records executionKey) {decision : RiskDecision}
    (hallowed : decision.allowed = true) (hconnected : gateway.isConnected = true) :
    gateway.takes order decision = true ↔
      gateway.lifecycle.find request.localOrderId = none := by
  have hrequest : order.request = request := (normalizeOrder_spec h).1
  constructor
  · intro htakes
    simp only [takes, Bool.and_eq_true] at htakes
    rw [← hrequest]
    exact (recordOrder_cases htakes.1.2).1
  · intro hfind
    have hfresh : request.idempotencyKey ∉ gateway.lifecycle.appliedEventKeys := by
      intro hmem
      rw [hkey] at hmem
      have hfound := hkeys _ hmem
      rw [hfind] at hfound
      cases hfound
    have hcreate := create_normalized h hfind hfresh
    have havoids : ¬BeginsWith "gateway-" order.request.idempotencyKey := by
      rw [hrequest, hkey]
      intro hbegins
      rcases hbegins.comparable (executionKey_beginsWith _) with h | h
      · exact absurd h (by decide)
      · exact absurd h (by decide)
    have hmarked := markDispatched_created hmarks havoids (hrequest ▸ hsequence) hcreate
    simp only [takes, hallowed, hconnected, hcreate, hmarked, Bool.and_self]

end BrokerGateway

/-- The orders of each engine have lower numbers than its next one. -/
def Books.Numbered {n : ℕ} (b : Books n) : Prop :=
  ∀ i localOrderId record, b.lifecycle.find localOrderId = some record →
    record.request.canonicalSymbol = (b.engines i).symbol →
      localOrderId < (b.engines i).nextLocalOrderId

namespace Books.Numbered

variable {n : ℕ} {b : Books n}

/-- The numbers of orders do not depend on the accounts. -/
theorem withAccounts (h : b.Numbered) (accounts : PortfolioManager) :
    (b.withAccounts accounts).Numbered := h

/-- A store that keeps its orders keeps their numbers. -/
theorem withKept (h : b.Numbered) {store : OrderLifecycleStore}
    (hkeeps : b.lifecycle.Keeps store) : (b.withLifecycle store).Numbered := by
  intro i id last hlast hsymbol
  obtain ⟨record, hrecord, hkept⟩ := hkeeps.of_find hlast
  rw [hkept.request_eq] at hsymbol
  exact h i id record hrecord hsymbol

/-- A booking changes no number. -/
theorem withBooking (h : b.Numbered) (i : Fin n) (accounts : PortfolioManager)
    (applied : KeyedMap ℕ Financial.Quantity) : (b.withBooking i accounts applied).Numbered := by
  intro j id record hrecord hsymbol
  rw [withBooking_symbol] at hsymbol
  have hlt := h j id record hrecord hsymbol
  by_cases hj : j = i
  · subst hj
    simpa only [Books.withBooking, Function.update_self] using hlt
  · simpa only [Books.withBooking, Function.update_of_ne hj] using hlt

/-- A new id is above all that were used. -/
theorem allocate (h : b.Numbered) (i : Fin n) : (b.allocate i).Numbered := by
  intro j id record hrecord hsymbol
  rw [allocate_symbol] at hsymbol
  have hlt := h j id record hrecord hsymbol
  by_cases hj : j = i
  · subst hj
    simp only [Books.allocate, Function.update_self]
    omega
  · simpa only [Books.allocate, Function.update_of_ne hj] using hlt

/-- A record of an order that the store has had keeps the numbers. -/
theorem commit (h : b.Numbered) {localOrderId : ℕ} {record next : OrderLifecycleRecord}
    (hfind : b.lifecycle.find localOrderId = some record)
    (hrequest : next.request = record.request) (eventKey : String) :
    (b.withLifecycle (b.lifecycle.commit localOrderId next eventKey)).Numbered := by
  intro i id found hfound hsymbol
  change (b.lifecycle.commit localOrderId next eventKey).find id = some found at hfound
  rw [OrderLifecycleStore.find_commit] at hfound
  split at hfound
  · next heq =>
    cases hfound
    subst heq
    rw [hrequest] at hsymbol
    exact h i _ record hfind hsymbol
  · exact h i id found hfound hsymbol

/-- An engine's new order takes its next number. -/
theorem recordOrder (h : b.Numbered) (hwired : b.Wired) {i : Fin n} {order : NormalizedOrder}
    (hid : order.request.localOrderId = (b.engines i).nextLocalOrderId)
    (hsymbol : order.request.canonicalSymbol = (b.engines i).symbol)
    (hcreated : (b.lifecycle.create (BrokerGateway.lifecycleRequest order)).2 = true) :
    ((b.allocate i).withLifecycle (BrokerGateway.recordOrder b.lifecycle order)).Numbered := by
  obtain ⟨-, -, -, hkeeps⟩ := BrokerGateway.recordOrder_cases hcreated
  intro j id last hlast hj
  obtain ⟨record, hrecord, hkept⟩ := hkeeps.of_find hlast
  change last.request.canonicalSymbol = ((b.allocate i).engines j).symbol at hj
  rw [hkept.request_eq, allocate_symbol] at hj
  change id < ((b.allocate i).engines j).nextLocalOrderId
  rw [OrderLifecycleStore.find_commit] at hrecord
  split at hrecord
  · next heq =>
    cases hrecord
    have hji : j = i := hwired.symbol_injective (hj.symm.trans hsymbol)
    subst hji
    simp only [Books.allocate, Function.update_self]
    omega
  · exact h.allocate i j id record hrecord ((allocate_symbol i j).symm ▸ hj)

end Books.Numbered

namespace Session

variable {n : ℕ} {s : Session n}

/-- Every input keeps the numbers of the orders below the next ones. -/
theorem numbered_next (h : s.system.books.Numbered) (hwired : s.system.books.Wired)
    (input : Input n) : (session.next s input).system.books.Numbered := by
  rcases effect hwired.bound input with
    hbooks | ⟨i, hbooks⟩ | ⟨i, args, isBuy, order, -, horder, hbooks⟩ | ⟨store, hkeeps, hbooks⟩ |
    ⟨execution, gateway, happlied, hnotify⟩ | ⟨symbol, currentPrice, -, hmark⟩ |
    ⟨i, candle, -, hpending⟩
  · rw [hbooks]
    exact h
  · rw [hbooks]
    exact h.allocate i
  · obtain ⟨hid, hsymbol, -, hcreated, -, -⟩ := s.system.executeOrder_recorded horder
    rw [hbooks]
    exact h.recordOrder hwired hid hsymbol hcreated
  · rw [hbooks]
    exact h.withKept hkeeps
  · obtain ⟨-, record, next, hfind, hdecision, hstore⟩ := appliedExecution_eq_some happlied
    obtain ⟨-, -, -, -, hnext⟩ := OrderLifecycleStore.decideExecution_eq_ok.mp hdecision
    have hrequest : next.request = record.request := by
      rw [hnext]
      rfl
    have hcommit := h.commit hfind hrequest execution.eventKey
    change (s.system.books.withLifecycle (s.system.gateway.lifecycle.commit _ _ _)).Numbered
      at hcommit
    rw [← hstore] at hcommit
    have hfound : gateway.lifecycle.find execution.localOrderId = some next := by
      rw [hstore, OrderLifecycleStore.find_commit, if_pos rfl]
    rw [hnotify]
    rcases settled hwired hfound with
      ⟨-, hbooks⟩ | ⟨i, -, -, hbooks⟩ | ⟨i, booking, portfolio, -, -, hbooks⟩
    · rw [hbooks]
      exact hcommit
    · rw [hbooks]
      exact hcommit
    · rw [hbooks]
      exact hcommit.withBooking i _ _
  · rw [hmark, System.markPrice_books]
    exact h.withAccounts _
  · rw [hpending, System.processPendingOrders_books]
    exact h.withAccounts _

end Session

end TradeBot
