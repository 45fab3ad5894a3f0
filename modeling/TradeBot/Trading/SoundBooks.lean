import TradeBot.Lifecycle.Quantities
import TradeBot.Trading.Steps

/-!
# Sound books

What holds of the books in every reachable state, whatever the broker reports and
whether or not its fills can be booked: the wiring, well-formed accounts, conserved
order quantities, and that an engine applies fills only to orders of its own symbol.
-/

namespace TradeBot

open Library Financial

/-- The quantities of an order add up as long as a step keeps them. -/
theorem OrderLifecycleRecord.Conserved.of_kept {record next : OrderLifecycleRecord}
    (h : record.Conserved) (hkept : record.Kept next) : next.Conserved := by
  obtain ⟨hs, hs', hf, hr, hsum⟩ := h
  rw [← hkept.filled_eq, ← hkept.request_eq] at hs
  rw [← hkept.remaining_eq, ← hkept.request_eq] at hs'
  rw [← hkept.filled_eq] at hf
  rw [← hkept.remaining_eq] at hr
  rw [← hkept.filled_eq, ← hkept.remaining_eq, ← hkept.request_eq] at hsum
  exact ⟨hs, hs', hf, hr, hsum⟩

/-- A record and the next one, after an execution of the order. -/
structure OrderLifecycleRecord.Executed (record : OrderLifecycleRecord)
    (execution : ExecutionEvent) (next : OrderLifecycleRecord) : Prop where
  request_eq : next.request = record.request
  filled_eq : next.filledQuantity = execution.cumulativeFilledQuantity
  isOpen : isTerminal record.state = false
  filled_nonneg : 0 ≤ record.filledQuantity.units.toInt
  filled_le : record.filledQuantity.toRat ≤ execution.cumulativeFilledQuantity.toRat
  cumulative_scale : execution.cumulativeFilledQuantity.scale = record.request.quantity.scale
  remaining_scale : execution.remainingQuantity.scale = record.request.quantity.scale
  remaining_nonneg : 0 ≤ execution.remainingQuantity.units.toInt
  terminal_iff : isTerminal next.state = true ↔ execution.remainingQuantity.units.toInt = 0

/-- What an applied execution does to its record. -/
theorem OrderLifecycleRecord.Conserved.executed {record next : OrderLifecycleRecord}
    {execution : ExecutionEvent} (h : record.Conserved)
    (hdecision : OrderLifecycleStore.decideExecution execution record = .ok next) :
    record.Executed execution next := by
  obtain ⟨-, hvalid, hmono, hstate, rfl⟩ :=
    OrderLifecycleStore.decideExecution_eq_ok.mp hdecision
  obtain ⟨hs, hs', -, hr, -⟩ := OrderLifecycleRecord.validQuantities_iff.mp hvalid
  refine ⟨rfl, rfl, OrderLifecycleStore.isTerminal_of_canTransition hstate, h.filled_nonneg, ?_,
    hs, hs', hr, ?_⟩
  · rw [Decimal64.toRat, Decimal64.toRat, hs, h.filled_scale,
      div_le_div_iff_of_pos_right (by positivity), Int.cast_le]
    rw [Int64.lt_iff_toInt_lt] at hmono
    omega
  · have hzero : execution.remainingQuantity.isZero = true ↔
        execution.remainingQuantity.units.toInt = 0 := by
      rw [Decimal64.isZero, decide_eq_true_iff, ← Int64.toInt_inj]
      rfl
    rw [← hzero]
    cases execution.remainingQuantity.isZero <;> simp [appendAudit, isTerminal]

namespace Books

variable {n : ℕ} {b : Books n}

/-- The books are wired, their accounts and order quantities are in order, and no engine
has applied a fill to an order that is not of its symbol. -/
structure Sound (b : Books n) : Prop where
  wired : b.Wired
  wellFormed : b.accounts.WellFormed
  conserved : b.lifecycle.Conserved
  scale_le : ∀ localOrderId record, b.lifecycle.find localOrderId = some record →
    record.request.quantity.scale ≤ Decimal64.maxScale
  unapplied : ∀ i localOrderId, (∀ record, b.lifecycle.find localOrderId = some record →
      record.request.canonicalSymbol ≠ (b.engines i).symbol) →
    (b.engines i).appliedBrokerQty.lookup localOrderId = none

/-- Sound books stay sound with other well-formed accounts. -/
theorem Sound.withAccounts (h : b.Sound) {accounts : PortfolioManager}
    (hwf : accounts.WellFormed) : (b.withAccounts accounts).Sound :=
  ⟨h.wired.withAccounts accounts, hwf, h.conserved, h.scale_le, h.unapplied⟩

/-- Taking an order id leaves the books sound. -/
theorem Sound.allocate (h : b.Sound) (i : Fin n) : (b.allocate i).Sound := by
  refine ⟨h.wired.allocate i, h.wellFormed, h.conserved, h.scale_le, fun j id hid => ?_⟩
  rw [allocate_appliedBrokerQty]
  simp only [allocate_symbol] at hid
  exact h.unapplied j id hid

/-- Revised records keep the books sound. -/
theorem Sound.withKept (h : b.Sound) {store : OrderLifecycleStore}
    (hkeeps : b.lifecycle.Keeps store) : (b.withLifecycle store).Sound := by
  refine ⟨h.wired.withLifecycle store, h.wellFormed, fun id last hlast => ?_,
    fun id last hlast => ?_, fun i id hid => h.unapplied i id fun record hrecord => ?_⟩
  · obtain ⟨record, hrecord, hkept⟩ := hkeeps.of_find hlast
    exact (h.conserved id record hrecord).of_kept hkept
  · obtain ⟨record, hrecord, hkept⟩ := hkeeps.of_find hlast
    rw [hkept.request_eq]
    exact h.scale_le id record hrecord
  · obtain ⟨last, hlast, hkept⟩ := hkeeps.find hrecord
    have hother := hid last hlast
    rw [hkept.request_eq] at hother
    exact hother

/-- A record that is new, or the next one of its order, keeps the books sound. -/
theorem Sound.commit (h : b.Sound) {localOrderId : ℕ} {next : OrderLifecycleRecord}
    {eventKey : String}
    (hprior : b.lifecycle.find localOrderId = none ∨ ∃ record,
      b.lifecycle.find localOrderId = some record ∧ next.request = record.request)
    (hconserved : next.Conserved) (hscale : next.request.quantity.scale ≤ Decimal64.maxScale) :
    (b.withLifecycle (b.lifecycle.commit localOrderId next eventKey)).Sound := by
  refine ⟨h.wired.withLifecycle _, h.wellFormed, OrderLifecycleStore.conserved_commit h.conserved
    hconserved eventKey, fun id found hfound => ?_, fun i id hid => h.unapplied i id
    fun record hrecord => ?_⟩
  · change (b.lifecycle.commit localOrderId next eventKey).find id = some found at hfound
    rw [OrderLifecycleStore.find_commit] at hfound
    split at hfound
    · cases hfound
      exact hscale
    · exact h.scale_le id found hfound
  · change ∀ record, (b.lifecycle.commit localOrderId next eventKey).find id = some record → _
      at hid
    rw [OrderLifecycleStore.find_commit] at hid
    split at hid
    · next heq =>
      subst heq
      rcases hprior with hnone | ⟨prior, hfound, hrequest⟩
      · rw [hnone] at hrecord
        cases hrecord
      · obtain rfl : record = prior := Option.some.inj (hrecord.symm.trans hfound)
        rw [← hrequest]
        exact hid next rfl
    · exact hid record hrecord

/-- A recorded order keeps the books sound. -/
theorem Sound.recordOrder (h : b.Sound) {order : NormalizedOrder}
    (hcreated : (b.lifecycle.create (BrokerGateway.lifecycleRequest order)).2 = true) :
    (b.withLifecycle (BrokerGateway.recordOrder b.lifecycle order)).Sound := by
  obtain ⟨hfind, hpositive, hscale, hkeeps⟩ := BrokerGateway.recordOrder_cases hcreated
  have hnew : (b.withLifecycle (b.lifecycle.commit order.request.localOrderId
      (OrderLifecycleStore.newRecord (BrokerGateway.lifecycleRequest order))
      order.request.idempotencyKey)).Sound :=
    h.commit (Or.inl hfind) (OrderLifecycleStore.conserved_newRecord hpositive) hscale
  exact hnew.withKept hkeeps

/-- A booking of an order of the engine's symbol keeps the books sound. -/
theorem Sound.withBooking (h : b.Sound) {i : Fin n} {accounts : PortfolioManager}
    {applied : KeyedMap ℕ Quantity} {localOrderId : ℕ} {record : OrderLifecycleRecord}
    (hwf : accounts.WellFormed) (hfind : b.lifecycle.find localOrderId = some record)
    (hsymbol : record.request.canonicalSymbol = (b.engines i).symbol)
    (happlied : ∀ other, other ≠ localOrderId →
      applied.lookup other = (b.engines i).appliedBrokerQty.lookup other) :
    (b.withBooking i accounts applied).Sound := by
  refine ⟨h.wired.withBooking i accounts applied, hwf, h.conserved, h.scale_le,
    fun j id hid => ?_⟩
  rw [withBooking_symbol] at hid
  by_cases hj : j = i
  · subst hj
    have hne : id ≠ localOrderId := by
      rintro rfl
      exact hid record hfind hsymbol
    simp only [Books.withBooking, Function.update_self]
    rw [happlied id hne]
    exact h.unapplied j id hid
  · simp only [Books.withBooking, Function.update_of_ne hj]
    exact h.unapplied j id hid

end Books

/-- The accounts of a well-formed portfolio are well formed. -/
theorem PortfolioManager.WellFormed.accounts {pm : PortfolioManager} (h : pm.WellFormed) :
    pm.accounts.WellFormed :=
  ⟨h.quantity_pos, h.record_money⟩

/-- And nothing else of it matters for that. -/
theorem PortfolioManager.WellFormed.of_accounts {pm : PortfolioManager}
    (h : pm.accounts.WellFormed) : pm.WellFormed :=
  ⟨h.quantity_pos, h.record_money⟩

/-- A booking changes what the engine has applied to its own order only. -/
theorem ExecutionEngine.afterBooking_applied (engine : ExecutionEngine) (booking : Booking)
    (localOrderId other : ℕ) :
    (engine.afterBooking booking localOrderId).appliedBrokerQty.lookup other =
      if other = localOrderId then
        if booking.remaining.isPositive then some booking.cumulative else none
      else engine.appliedBrokerQty.lookup other := by
  unfold afterBooking
  by_cases hother : other = localOrderId
  · subst hother
    by_cases hremaining : booking.remaining.isPositive = true
    · simp only [hremaining, if_true, AList.lookup_insert]
    · simp only [hremaining, Bool.false_eq_true, if_false, if_true, AList.lookup_erase]
  · by_cases hremaining : booking.remaining.isPositive = true
    · simp only [hremaining, if_true, if_neg hother, AList.lookup_insert_ne hother]
    · simp only [hremaining, Bool.false_eq_true, if_false, if_neg hother,
        AList.lookup_erase_ne hother]

namespace System

variable {n : ℕ} {s : System n}

/-- The portfolio stays well formed while resting fills are booked one by one. -/
private theorem processFills_wellFormed {i : Fin n} {fills : List OrderFillResult}
    (hwf : s.portfolio.WellFormed) (filledCount : ℕ) :
    (processFills i s fills filledCount).1.portfolio.WellFormed := by
  induction fills generalizing s filledCount with
  | nil => exact hwf
  | cons fill fills ih =>
    unfold processFills
    split
    · exact ih hwf filledCount
    · exact ih (s := s.block i) hwf filledCount
    · next plan hdecision =>
      split
      · exact hwf
      · next t ht =>
        simp only [enterPending, bind_eq_ok, pure_eq_ok] at ht
        obtain ⟨portfolio, hcall, rfl⟩ := ht
        refine ih ?_ (filledCount + 1)
        rw [(sameDesk_recordTrade _ i _).portfolio_eq]
        exact hwf.call (.openLong _ _ _ _ _ _ _) hcall
    · next plan hdecision =>
      split
      · exact hwf
      · next t ht =>
        simp only [exitPending, bind_eq_ok, pure_eq_ok] at ht
        obtain ⟨portfolio, hcall, rfl⟩ := ht
        refine ih ?_ (filledCount + 1)
        rw [(sameDesk_recordTrade _ i _).portfolio_eq]
        exact hwf.call (.closePosition _ _ _ _ _ _) hcall

/-- And over a candle, whatever it fills. -/
theorem processPendingOrders_wellFormed (hwf : s.portfolio.WellFormed) (i : Fin n)
    (candle : MarketCandle) : (s.processPendingOrders i candle).1.portfolio.WellFormed := by
  have hevaluated : (s.portfolio.evaluatePendingOrders candle.symbol candle.high candle.low
      candle.close candle.epochTimestamp).1.WellFormed :=
    ⟨hwf.quantity_pos, hwf.record_money⟩
  exact processFills_wellFormed (s := { s with portfolio := _ }) hevaluated 0

/-- The engines are wired, nothing is held, and no order has been recorded. -/
structure Fresh (s : System n) : Prop where
  wired : s.books.Wired
  wellFormed : s.portfolio.WellFormed
  positions_eq : s.portfolio.positions = ∅
  lifecycle_eq : s.gateway.lifecycle = .empty
  applied_eq : ∀ i, (s.engines i).appliedBrokerQty = ∅

/-- Engines of different symbols over one portfolio and one gateway are wired. -/
theorem wire_wired {portfolio : PortfolioManager} {risk : RiskEngine} {gateway : BrokerGateway}
    {engines : Fin n → ExecutionEngine} {clock : ℕ → ℕ}
    (h : Function.Injective fun i => (engines i).symbol) :
    (wire portfolio risk gateway engines clock).books.Wired :=
  ⟨fun _ => rfl, h, List.nodup_finRange n, List.mem_finRange⟩

/-- The system of `main`, with one engine for each of several symbols, is fresh. -/
theorem mainPaper_fresh {symbols : Fin n → String} (h : Function.Injective symbols) :
    (mainPaper symbols).Fresh :=
  ⟨wire_wired h, (PortfolioManager.balanced_fresh _).wellFormed, rfl, rfl, fun _ => rfl⟩

/-- A fresh system has sound books. -/
theorem Fresh.sound (h : s.Fresh) : s.books.Sound := by
  have hnone (id : ℕ) (record : OrderLifecycleRecord) :
      s.books.lifecycle.find id ≠ some record := by
    intro hfind
    change s.gateway.lifecycle.find id = some record at hfind
    rw [h.lifecycle_eq] at hfind
    cases hfind
  refine ⟨h.wired, h.wellFormed.accounts, fun id record hfind => absurd hfind (hnone id record),
    fun id record hfind => absurd hfind (hnone id record), fun i id _ => ?_⟩
  change (s.engines i).appliedBrokerQty.lookup id = none
  rw [h.applied_eq]
  rfl

/-- A price update keeps the portfolio well formed. -/
theorem markPrice_wellFormed (hwf : s.portfolio.WellFormed) (symbol : String)
    (currentPrice : Double) : (s.markPrice symbol currentPrice).portfolio.WellFormed := by
  unfold markPrice
  split
  · exact hwf
  · next portfolio hcall => exact hwf.call (.updatePnL symbol currentPrice) hcall

end System

namespace Session

variable {n : ℕ} {s : Session n}

/-- The record that an execution makes keeps the books sound. -/
theorem sound_commitExecution {execution : ExecutionEvent} {record next : OrderLifecycleRecord}
    (h : s.system.books.Sound)
    (hfind : s.system.gateway.lifecycle.find execution.localOrderId = some record)
    (hdecision : OrderLifecycleStore.decideExecution execution record = .ok next) :
    (s.system.books.withLifecycle (s.system.gateway.lifecycle.commit execution.localOrderId next
      execution.eventKey)).Sound := by
  have hrevises : OrderLifecycleStore.Revises record next :=
    @OrderLifecycleStore.decision_revises _ _ (.applyExecution execution) _ rfl hdecision
  refine h.commit (Or.inr ⟨record, hfind, hrevises.request_eq⟩)
    (OrderLifecycleRecord.conserved_of_revises (h.conserved _ record hfind) hrevises) ?_
  rw [hrevises.request_eq]
  exact h.scale_le _ record hfind

/-- **Sound books stay sound** over every input. -/
theorem sound_next (h : s.system.books.Sound) (input : Input n) :
    (session.next s input).system.books.Sound := by
  rcases effect h.wired.bound input with
    hbooks | ⟨i, hbooks⟩ | ⟨i, args, isBuy, order, -, horder, hbooks⟩ | ⟨store, hkeeps, hbooks⟩ |
    ⟨execution, gateway, happlied, hnotify⟩ | ⟨symbol, currentPrice, -, hmark⟩ |
    ⟨i, candle, -, hpending⟩
  · rw [hbooks]
    exact h
  · rw [hbooks]
    exact h.allocate i
  · rw [hbooks]
    exact (h.recordOrder (s.system.executeOrder_recorded horder).created).allocate i
  · rw [hbooks]
    exact h.withKept hkeeps
  · obtain ⟨-, record, next, hfind, hdecision, hstore⟩ := appliedExecution_eq_some happlied
    have hsound := sound_commitExecution h hfind hdecision
    rw [← hstore] at hsound
    have hnext : gateway.lifecycle.find execution.localOrderId = some next := by
      rw [hstore, OrderLifecycleStore.find_commit, if_pos rfl]
    rw [hnotify]
    rcases settled h.wired hnext with
      ⟨-, hbooks⟩ | ⟨i, -, -, hbooks⟩ | ⟨i, booking, portfolio, hbooked, hcall, hbooks⟩
    · rw [hbooks]
      exact hsound
    · rw [hbooks]
      exact hsound
    · rw [hbooks]
      have hwf : s.system.portfolio.WellFormed := h.wellFormed.of_accounts
      refine hsound.withBooking (hwf.call booking.call hcall).accounts hnext hbooked.symbol_eq
        fun other hother => ?_
      rw [ExecutionEngine.afterBooking_applied, if_neg hother]
      rfl
  · have hwf : s.system.portfolio.WellFormed := h.wellFormed.of_accounts
    rw [hmark, System.markPrice_books]
    exact h.withAccounts (System.markPrice_wellFormed hwf symbol currentPrice).accounts
  · have hwf : s.system.portfolio.WellFormed := h.wellFormed.of_accounts
    rw [hpending, System.processPendingOrders_books]
    exact h.withAccounts (System.processPendingOrders_wellFormed hwf i candle).accounts

end Session

end TradeBot
