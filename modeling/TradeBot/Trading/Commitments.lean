import TradeBot.Trading.FillAgreement

/-!
# Commitments of open orders

An engine decides from the booked position alone, so orders that are still open count
for nothing in its decisions. While each new order finds no open order of its side, and
sales are not rounded up when they are booked, the open sales stay covered by the
position whatever the broker delays or splits.
-/

namespace TradeBot

open Library Financial

/-- The record is of an order of the symbol and side that is not in a terminal state. -/
def OrderLifecycleRecord.IsOpen (symbol : String) (side : OrderSide)
    (record : OrderLifecycleRecord) : Prop :=
  record.request.canonicalSymbol = symbol ∧ record.request.side = side ∧
    isTerminal record.state = false

instance (symbol : String) (side : OrderSide) (record : OrderLifecycleRecord) :
    Decidable (record.IsOpen symbol side) :=
  inferInstanceAs (Decidable (_ ∧ _ ∧ _))

/-- An order that is open after a revision was open before it. -/
theorem OrderLifecycleRecord.Kept.isOpen_of_isOpen {record next : OrderLifecycleRecord}
    (h : record.Kept next) {symbol : String} {side : OrderSide} (hopen : next.IsOpen symbol side) :
    record.IsOpen symbol side := by
  obtain ⟨hsymbol, hside, hstate⟩ := hopen
  rw [h.request_eq] at hsymbol hside
  exact ⟨hsymbol, hside, h.isOpen hstate⟩

/-- The unfilled quantity of all open sales of the symbol. -/
def OrderLifecycleStore.openSales (store : OrderLifecycleStore) (symbol : String) : ℚ :=
  KeyedMap.total (fun _ (record : OrderLifecycleRecord) =>
    if record.IsOpen symbol .sell then record.remainingQuantity.toRat else 0) store.records

/-- No order of the symbol and side is open. -/
def OrderLifecycleStore.NoneOpen (store : OrderLifecycleStore) (symbol : String)
    (side : OrderSide) : Prop :=
  ∀ id record, store.find id = some record → ¬record.IsOpen symbol side

instance (store : OrderLifecycleStore) (symbol : String) (side : OrderSide) :
    Decidable (store.NoneOpen symbol side) :=
  decidable_of_iff (∀ entry ∈ store.records.entries, ¬entry.2.IsOpen symbol side)
    ⟨fun h id record hfind => h ⟨id, record⟩ (AList.mem_lookup_iff.mp hfind),
      fun h entry hentry => h entry.1 entry.2 (AList.mem_lookup_iff.mpr hentry)⟩

/-- The open orders of an engine: at most one of each side, and a sale is covered by the
position once what the engine has not yet applied of it is taken into account. -/
structure Books.Covered {n : ℕ} (b : Books n) : Prop where
  sound : b.Sound
  unique : ∀ i side id id' record record', b.lifecycle.find id = some record →
    b.lifecycle.find id' = some record' → record.IsOpen (b.engines i).symbol side →
    record'.IsOpen (b.engines i).symbol side → id = id'
  applied_le : ∀ i id record, b.lifecycle.find id = some record →
    record.IsOpen (b.engines i).symbol .sell →
    (((b.engines i).appliedBrokerQty.lookup id).getD 0).toRat ≤ record.filledQuantity.toRat
  covers : ∀ i id record, b.lifecycle.find id = some record →
    record.IsOpen (b.engines i).symbol .sell →
    record.request.quantity.toRat - (((b.engines i).appliedBrokerQty.lookup id).getD 0).toRat ≤
      b.accounts.held (b.engines i).symbol

namespace Books.Covered

variable {n : ℕ} {b : Books n}

/-- A new id commits to nothing. -/
theorem allocate (h : b.Covered) (i : Fin n) : (b.allocate i).Covered := by
  refine ⟨h.sound.allocate i, fun j => ?_, fun j => ?_, fun j => ?_⟩
  · rw [allocate_symbol]
    exact h.unique j
  · rw [allocate_symbol, allocate_appliedBrokerQty]
    exact h.applied_le j
  · rw [allocate_symbol, allocate_appliedBrokerQty]
    exact h.covers j

/-- Accounts that hold the same quantities cover the same orders. -/
theorem withAccounts (h : b.Covered) {accounts : PortfolioManager} (hwf : accounts.WellFormed)
    (hheld : ∀ symbol, accounts.held symbol = b.accounts.held symbol) :
    (b.withAccounts accounts).Covered := by
  refine ⟨h.sound.withAccounts hwf, h.unique, h.applied_le, fun i id record hfind hopen => ?_⟩
  exact (h.covers i id record hfind hopen).trans_eq (hheld _).symm

/-- Orders that a store keeps stay covered. -/
theorem withKept (h : b.Covered) {store : OrderLifecycleStore} (hkeeps : b.lifecycle.Keeps store) :
    (b.withLifecycle store).Covered := by
  refine ⟨h.sound.withKept hkeeps, fun i side id id' last last' hlast hlast' hopen hopen' => ?_,
    fun i id last hlast hopen => ?_, fun i id last hlast hopen => ?_⟩
  · obtain ⟨record, hrecord, hkept⟩ := hkeeps.of_find hlast
    obtain ⟨record', hrecord', hkept'⟩ := hkeeps.of_find hlast'
    exact h.unique i side id id' record record' hrecord hrecord'
      (hkept.isOpen_of_isOpen hopen) (hkept'.isOpen_of_isOpen hopen')
  · obtain ⟨record, hrecord, hkept⟩ := hkeeps.of_find hlast
    rw [hkept.filled_eq]
    exact h.applied_le i id record hrecord (hkept.isOpen_of_isOpen hopen)
  · obtain ⟨record, hrecord, hkept⟩ := hkeeps.of_find hlast
    rw [hkept.request_eq]
    exact h.covers i id record hrecord (hkept.isOpen_of_isOpen hopen)

/-- A new order that finds no open order of its side keeps the open sales covered. -/
theorem recordOrder (h : b.Covered) {order : NormalizedOrder}
    (hcreated : (b.lifecycle.create (BrokerGateway.lifecycleRequest order)).2 = true)
    (hnone : b.lifecycle.NoneOpen order.request.canonicalSymbol order.request.side)
    (hheld : order.request.side = .sell →
      order.normalizedQuantity.toRat ≤ b.accounts.held order.request.canonicalSymbol) :
    (b.withLifecycle (BrokerGateway.recordOrder b.lifecycle order)).Covered := by
  obtain ⟨hfind, hpositive, hscale, hkeeps⟩ := BrokerGateway.recordOrder_cases hcreated
  set placed := OrderLifecycleStore.newRecord (BrokerGateway.lifecycleRequest order)
  have hcases (id : ℕ) (record : OrderLifecycleRecord)
      (hrecord : (b.lifecycle.commit order.request.localOrderId placed
        order.request.idempotencyKey).find id = some record) :
      (id = order.request.localOrderId ∧ record = placed) ∨
        b.lifecycle.find id = some record := by
    rw [OrderLifecycleStore.find_commit] at hrecord
    split at hrecord
    · next heq =>
      cases hrecord
      exact Or.inl ⟨heq, rfl⟩
    · exact Or.inr hrecord
  have hunapplied (i : Fin n) :
      (((b.engines i).appliedBrokerQty.lookup order.request.localOrderId).getD 0).toRat = 0 := by
    have hnone : (b.engines i).appliedBrokerQty.lookup order.request.localOrderId = none :=
      h.sound.unapplied i _ fun record hrecord => by
        rw [hfind] at hrecord
        cases hrecord
    rw [hnone]
    exact Value.toRat_zero
  have hnew : (b.withLifecycle (b.lifecycle.commit order.request.localOrderId placed
      order.request.idempotencyKey)).Covered := by
    refine ⟨h.sound.commit (Or.inl hfind) (OrderLifecycleStore.conserved_newRecord hpositive)
      hscale, fun i side id id' record record' hrecord hrecord' hopen hopen' => ?_,
      fun i id record hrecord hopen => ?_, fun i id record hrecord hopen => ?_⟩
    · rcases hcases id record hrecord with ⟨rfl, rfl⟩ | hold
      · rcases hcases id' record' hrecord' with ⟨rfl, rfl⟩ | hold'
        · rfl
        · obtain ⟨hsymbol, hside, -⟩ := hopen
          rw [← hsymbol, ← hside] at hopen'
          exact absurd hopen' (hnone id' record' hold')
      · rcases hcases id' record' hrecord' with ⟨rfl, rfl⟩ | hold'
        · obtain ⟨hsymbol, hside, -⟩ := hopen'
          rw [← hsymbol, ← hside] at hopen
          exact absurd hopen (hnone id record hold)
        · exact h.unique i side id id' record record' hold hold' hopen hopen'
    · rcases hcases id record hrecord with ⟨rfl, rfl⟩ | hold
      · exact (hunapplied i).trans_le (Decimal64.toRat_zero _).ge
      · exact h.applied_le i id record hold hopen
    · rcases hcases id record hrecord with ⟨rfl, rfl⟩ | hold
      · obtain ⟨hsymbol, hside, -⟩ := hopen
        have hcovered := hheld hside
        rw [show order.request.canonicalSymbol = (b.engines i).symbol from hsymbol] at hcovered
        change order.normalizedQuantity.toRat - (((b.engines i).appliedBrokerQty.lookup
          order.request.localOrderId).getD 0).toRat ≤ b.accounts.held (b.engines i).symbol
        rw [hunapplied, sub_zero]
        exact hcovered
      · exact h.covers i id record hold hopen
  exact hnew.withKept hkeeps

/-- What is open of the engine's sales is covered by the position. -/
theorem openSales_le (h : b.Covered) (i : Fin n) :
    b.lifecycle.openSales (b.engines i).symbol ≤ b.accounts.held (b.engines i).symbol := by
  refine KeyedMap.total_le_of_unique _ (PortfolioManager.held_nonneg h.sound.wellFormed _)
    (fun id record hfind => ?_) (fun id record id' record' hfind hfind' hne hne' => ?_)
  · split
    · next hopen =>
      have hsum := (h.sound.conserved id record hfind).toRat_add
      have happlied := h.applied_le i id record hfind hopen
      have hcovers := h.covers i id record hfind hopen
      linarith
    · exact PortfolioManager.held_nonneg h.sound.wellFormed _
  · have hopen : record.IsOpen (b.engines i).symbol .sell := by
      by_contra hclosed
      exact hne (if_neg hclosed)
    have hopen' : record'.IsOpen (b.engines i).symbol .sell := by
      by_contra hclosed
      exact hne' (if_neg hclosed)
    exact h.unique i .sell id id' record record' hfind hfind' hopen hopen'

end Books.Covered

/-- A fresh system has no orders to cover. -/
theorem System.Fresh.covered {n : ℕ} {s : System n} (h : s.Fresh) : s.books.Covered := by
  have hnone (id : ℕ) (record : OrderLifecycleRecord) :
      s.books.lifecycle.find id ≠ some record := by
    intro hfind
    change s.gateway.lifecycle.find id = some record at hfind
    rw [h.lifecycle_eq] at hfind
    cases hfind
  exact ⟨h.sound, fun i side id id' record record' hfind => absurd hfind (hnone id record),
    fun i id record hfind => absurd hfind (hnone id record),
    fun i id record hfind => absurd hfind (hnone id record)⟩

namespace Session

variable {n : ℕ} {s : Session n}

/-- An order that the step's call records finds no open order of its symbol and side. -/
def OrdersOneByOne (s : Session n) (input : Input n) : Prop :=
  ∀ i args isBuy order, s.executeCall input = some (i, args) →
    s.system.executeOrder i args = some (isBuy, order) →
      s.system.gateway.lifecycle.NoneOpen (s.system.engines i).symbol
        (if isBuy then .buy else .sell)

instance (input : Input n) : Decidable (s.OrdersOneByOne input) :=
  match hcall : s.executeCall input with
  | none => isTrue fun i args isBuy order h => by
    rw [hcall] at h
    cases h
  | some (i, args) =>
    match horder : s.system.executeOrder i args with
    | none => isTrue fun j args' isBuy order h h' => by
      rw [hcall] at h
      cases h
      rw [horder] at h'
      cases h'
    | some (isBuy, order) => decidable_of_iff
      (s.system.gateway.lifecycle.NoneOpen (s.system.engines i).symbol
        (if isBuy then .buy else .sell))
      ⟨fun hnone j args' isBuy' order' h h' => by
        rw [hcall] at h
        cases h
        rw [horder] at h'
        cases h'
        exact hnone, fun h => h i args isBuy order hcall horder⟩

/-- No quantity of a sale is read as more than it is: neither the held quantity that a signal to
sell reads, nor the cumulative quantity of an execution that the store applies, nor the increment
that is booked for it. -/
def SalesNotRoundedUp (s : Session n) (input : Input n) : Prop :=
  (∀ call ∈ s.executeCall input, call.2.signal = .sell →
    ∀ p ∈ s.system.portfolio.positions.lookup (s.system.engines call.1).symbol,
      ∀ held ∈ quantity p.quantity.toDouble .rejectUnaligned, held.toRat ≤ p.quantity.toRat) ∧
  ∀ applied ∈ s.appliedExecution input,
    ∀ record ∈ s.system.gateway.lifecycle.find applied.1.localOrderId,
      record.request.side = .sell →
        ∀ sold ∈ quantity applied.1.cumulativeFilledQuantity.toDouble .rejectUnaligned,
          sold.toRat ≤ applied.1.cumulativeFilledQuantity.toRat ∧
            ∀ i, ∀ increment ∈ subtract sold
                ((s.system.engines i).appliedQuantity applied.1.localOrderId),
              increment.isPositive = true →
                ∀ moved ∈ quantity increment.toDouble .rejectUnaligned,
                  moved.toRat ≤ increment.toRat

instance (input : Input n) : Decidable (s.SalesNotRoundedUp input) :=
  inferInstanceAs (Decidable (_ ∧ _))

/-- What is open after an applied execution was open before it, with no more filled. -/
private theorem AppliedTo.open_before {execution : ExecutionEvent} {store : OrderLifecycleStore}
    {record next : OrderLifecycleRecord} (happlied : s.AppliedTo execution store record next)
    {id : ℕ} {found : OrderLifecycleRecord} {symbol : String} {side : OrderSide}
    (hfound : store.find id = some found) (hopen : found.IsOpen symbol side) :
    ∃ prior, s.system.gateway.lifecycle.find id = some prior ∧ prior.IsOpen symbol side ∧
      prior.request = found.request ∧
        prior.filledQuantity.toRat ≤ found.filledQuantity.toRat := by
  have hexec := happlied.executed
  by_cases hid : id = execution.localOrderId
  · subst hid
    obtain rfl : next = found := Option.some.inj (happlied.next_eq.symm.trans hfound)
    obtain ⟨hsymbol, hside, -⟩ := hopen
    rw [hexec.request_eq] at hsymbol hside
    refine ⟨record, happlied.find_eq, ⟨hsymbol, hside, hexec.isOpen⟩, hexec.request_eq.symm, ?_⟩
    rw [hexec.filled_eq]
    exact hexec.filled_le
  · exact ⟨found, (happlied.other_eq id hid).symm.trans hfound, hopen, rfl, le_refl _⟩

/-- So no second order of a symbol and side is open after it. -/
private theorem AppliedTo.unique_open {execution : ExecutionEvent} {store : OrderLifecycleStore}
    {record next : OrderLifecycleRecord} (happlied : s.AppliedTo execution store record next)
    (h : s.system.books.Covered) {i : Fin n} {side : OrderSide} {id id' : ℕ}
    {found found' : OrderLifecycleRecord} (hfound : store.find id = some found)
    (hfound' : store.find id' = some found')
    (hopen : found.IsOpen (s.system.engines i).symbol side)
    (hopen' : found'.IsOpen (s.system.engines i).symbol side) : id = id' := by
  obtain ⟨prior, hprior, hpriorOpen, -⟩ := happlied.open_before hfound hopen
  obtain ⟨prior', hprior', hpriorOpen', -⟩ := happlied.open_before hfound' hopen'
  exact h.unique i side id id' prior prior' hprior hprior' hpriorOpen hpriorOpen'

/-- An execution that is not booked changes no commitment: it can only fill. -/
private theorem covered_unbooked (h : s.system.books.Covered) {execution : ExecutionEvent}
    {store : OrderLifecycleStore} {record next : OrderLifecycleRecord}
    (happlied : s.AppliedTo execution store record next)
    (hsound : (s.system.books.withLifecycle store).Sound) :
    (s.system.books.withLifecycle store).Covered := by
  refine ⟨hsound, fun i side id id' found found' => happlied.unique_open h,
    fun j id found hfound hopen => ?_, fun j id found hfound hopen => ?_⟩
  · obtain ⟨prior, hprior, hpriorOpen, -, hle⟩ := happlied.open_before hfound hopen
    exact (h.applied_le j id prior hprior hpriorOpen).trans hle
  · obtain ⟨prior, hprior, hpriorOpen, hrequest, -⟩ := happlied.open_before hfound hopen
    rw [← hrequest]
    exact h.covers j id prior hprior hpriorOpen

/-- An execution keeps the open sales covered, unless it is rounded up. -/
private theorem covered_executed (h : s.system.books.Covered) {input : Input n}
    (hrounded : s.SalesNotRoundedUp input) {execution : ExecutionEvent} {gateway : BrokerGateway}
    (hinput : s.appliedExecution input = some (execution, gateway.lifecycle))
    (hsound : ({ s.system with gateway := gateway }.notifyExecution execution).books.Sound) :
    ({ s.system with gateway := gateway }.notifyExecution execution).books.Covered := by
  obtain ⟨record, next, happlied⟩ := appliedTo h.sound hinput
  have hexec := happlied.executed
  revert hsound
  rcases settled h.sound.wired happlied.next_eq with
    ⟨-, hbooks⟩ | ⟨i, -, -, hbooks⟩ | ⟨i, booking, portfolio, hbooked, hcall, hbooks⟩
  · rw [hbooks]
    exact covered_unbooked h happlied
  · rw [hbooks]
    exact covered_unbooked h happlied
  · rw [hbooks]
    have hsymbol := hbooked.symbol_eq
    rw [hexec.request_eq] at hsymbol
    obtain ⟨moved, hmoved, hheld⟩ := happlied.held_booked h.sound hbooked hcall
    have hmovedNonneg := quantity_nonneg hbooked.incremental_pos hmoved
    have happliedEq := subtract_eq_some_iff_toRat.mp hbooked.incremental_eq
    have hkept (j : Fin n) (id : ℕ) (hid : id ≠ execution.localOrderId) :
        (((s.system.books.withLifecycle gateway.lifecycle).withBooking i portfolio.accounts
          ((s.system.engines i).afterBooking booking execution.localOrderId).appliedBrokerQty
            ).engines j).appliedBrokerQty.lookup id =
          (s.system.engines j).appliedBrokerQty.lookup id := by
      by_cases hj : j = i
      · subst hj
        rw [Books.withBooking_applied_self, ExecutionEngine.afterBooking_applied, if_neg hid]
      · rw [Books.withBooking_applied_of_ne hj]
        rfl
    refine fun hsound => ⟨hsound, fun j side id id' found found' hfound hfound' hopen hopen' => ?_,
      fun j id found hfound hopen => ?_, fun j id found hfound hopen => ?_⟩
    · rw [Books.withBooking_symbol] at hopen hopen'
      exact happlied.unique_open h hfound hfound' hopen hopen'
    · rw [Books.withBooking_symbol] at hopen
      by_cases hid : id = execution.localOrderId
      · subst hid
        obtain rfl : next = found := Option.some.inj (happlied.next_eq.symm.trans hfound)
        obtain rfl : j = i :=
          h.sound.wired.symbol_injective (hopen.1.symm.trans hbooked.symbol_eq)
        rw [Books.withBooking_applied_self, happlied.applied hbooked hopen.2.2, Option.getD_some,
          hexec.filled_eq]
        have hside := hopen.2.1
        rw [hexec.request_eq] at hside
        exact (hrounded.2 _ hinput record happlied.find_eq hside _ hbooked.cumulative_eq).1
      · rw [hkept j id hid]
        exact h.applied_le j id found ((happlied.other_eq id hid).symm.trans hfound) hopen
    · rw [Books.withBooking_symbol] at hopen ⊢
      change found.request.quantity.toRat - _ ≤ portfolio.held (s.system.engines j).symbol
      by_cases hid : id = execution.localOrderId
      · subst hid
        obtain rfl : next = found := Option.some.inj (happlied.next_eq.symm.trans hfound)
        obtain rfl : j = i :=
          h.sound.wired.symbol_injective (hopen.1.symm.trans hbooked.symbol_eq)
        have hside := hopen.2.1
        rw [hexec.request_eq] at hside
        have hcovers := h.covers j _ record happlied.find_eq ⟨hsymbol, hside, hexec.isOpen⟩
        have hsold := hheld (s.system.engines j).symbol
        simp only [if_pos hsymbol.symm, hside] at hsold
        have hmovedLe := (hrounded.2 _ hinput record happlied.find_eq hside _
          hbooked.cumulative_eq).2 j _ hbooked.incremental_eq hbooked.incremental_pos _ hmoved
        rw [Books.withBooking_applied_self, happlied.applied hbooked hopen.2.2, Option.getD_some,
          hexec.request_eq]
        change _ - ((s.system.engines j).appliedQuantity execution.localOrderId).toRat ≤
          s.system.portfolio.held (s.system.engines j).symbol at hcovers
        linarith
      · have hprior := (happlied.other_eq id hid).symm.trans hfound
        have hcovers := h.covers j id found hprior hopen
        rw [hkept j id hid]
        refine hcovers.trans ?_
        change s.system.portfolio.held (s.system.engines j).symbol ≤ _
        have hdifference := hheld (s.system.engines j).symbol
        by_cases hj : (s.system.engines j).symbol = record.request.canonicalSymbol
        · cases hside : record.request.side with
          | buy =>
            simp only [if_pos hj, hside] at hdifference
            linarith
          | sell =>
            -- the executed order would be a second open sale of the symbol
            exact absurd (h.unique j .sell id _ found record hprior happlied.find_eq hopen
              ⟨hj.symm, hside, hexec.isOpen⟩) hid
        · rw [if_neg hj] at hdifference
          linarith

/-- Open sales stay covered over every input whose order finds no open order of its side,
unless a sale is rounded up or a resting order is filled. -/
theorem covered_next (h : s.system.books.Covered) {input : Input n}
    (hone : s.OrdersOneByOne input) (hrounded : s.SalesNotRoundedUp input)
    (hresting : s.FillsNoRestingOrder input) :
    (session.next s input).system.books.Covered := by
  have hsound := sound_next h.sound input
  revert hsound
  rcases effect h.sound.wired.bound input with
    hbooks | ⟨i, hbooks⟩ | ⟨i, args, isBuy, order, hcall, horder, hbooks⟩ |
    ⟨store, hkeeps, hbooks⟩ | ⟨execution, gateway, happlied, hnotify⟩ |
    ⟨symbol, currentPrice, -, hmark⟩ | ⟨i, candle, hcandle, hpending⟩
  · rw [hbooks]
    exact fun _ => h
  · rw [hbooks]
    exact fun _ => h.allocate i
  · rw [hbooks]
    intro _
    have hrecorded := s.system.executeOrder_recorded horder
    apply Books.Covered.allocate (b := s.system.books.withLifecycle _)
    apply h.recordOrder hrecorded.created
    · rw [hrecorded.symbol_eq, hrecorded.side_eq]
      exact hone i args isBuy order hcall horder
    · rw [hrecorded.symbol_eq, hrecorded.side_eq]
      cases isBuy with
      | true =>
        intro hsell
        cases hsell
      | false =>
        intro _
        obtain ⟨p, held, hp, hheld, hle⟩ := hrecorded.sells_held rfl
        refine (hle.trans (hrounded.1 (i, args) hcall ?_ p hp held hheld)).trans_eq ?_
        · exact s.system.executeOrder_signal horder
        · change _ = s.system.portfolio.held _
          rw [PortfolioManager.held, hp]
          rfl
  · rw [hbooks]
    exact fun _ => h.withKept hkeeps
  · rw [hnotify]
    exact covered_executed h hrounded happlied
  · rw [hmark, System.markPrice_books]
    exact fun hsound => h.withAccounts hsound.wellFormed
      fun other => s.system.markPrice_held symbol currentPrice other
  · have hportfolio : (s.system.processPendingOrders i candle).1.portfolio =
        (s.system.portfolio.evaluatePendingOrders candle.symbol candle.high candle.low
          candle.close candle.epochTimestamp).1 :=
      System.processFills_portfolio _ (hresting i candle hcandle)
    rw [hpending, System.processPendingOrders_books, hportfolio]
    exact fun hsound => h.withAccounts hsound.wellFormed fun _ => rfl

/-- For the symbol of each engine, the open sales are covered by the position, and without a
position at most one purchase is open. -/
def OrdersCovered (s : Session n) : Prop :=
  ∀ i, s.system.gateway.lifecycle.openSales (s.system.engines i).symbol ≤
      s.system.portfolio.held (s.system.engines i).symbol ∧
    (s.system.portfolio.hasPosition (s.system.engines i).symbol = false →
      ∀ id id' record record', s.system.gateway.lifecycle.find id = some record →
        s.system.gateway.lifecycle.find id' = some record' →
          record.IsOpen (s.system.engines i).symbol .buy →
            record'.IsOpen (s.system.engines i).symbol .buy → id = id')

/-- **No over-commitment.** From a fresh system and over any calls and broker events, as long
as every recorded order finds no open order of its symbol and side and no sale is rounded
up, the open sales never exceed the position and at most one purchase is open. -/
theorem orders_covered (hfresh : s.system.Fresh) {inputs : List (Input n)}
    (hresting : session.Along FillsNoRestingOrder s inputs)
    (hone : session.Along OrdersOneByOne s inputs)
    (hrounded : session.Along SalesNotRoundedUp s inputs) :
    (session.run s inputs).OrdersCovered := by
  have hcovered : (session.run s inputs).system.books.Covered :=
    Machine.invariant_run_of_along
      (I := fun s : Session n => s.system.books.Covered)
      (fun _ _ h hstep => covered_next h hstep.1.1 hstep.1.2 hstep.2) hfresh.covered
      ((hone.and hrounded).and hresting)
  exact fun i => ⟨hcovered.openSales_le i, fun _ => hcovered.unique i .buy⟩

/-- No amount of at most `2 ^ 52` units is rounded up. -/
theorem salesNotRoundedUp_of_small {input : Input n}
    (hheld : ∀ symbol p, s.system.portfolio.positions.lookup symbol = some p →
      |p.quantity.units.toInt| ≤ 2 ^ 52)
    (happlied : ∀ i id, 0 ≤ ((s.system.engines i).appliedQuantity id).units.toInt)
    (hscale : ∀ execution store, s.appliedExecution input = some (execution, store) →
      execution.cumulativeFilledQuantity.scale ≤ Financial.scale)
    (hsmall : ∀ execution store, s.appliedExecution input = some (execution, store) →
      |execution.cumulativeFilledQuantity.toRat * 10 ^ Financial.scale| ≤ 2 ^ 52) :
    s.SalesNotRoundedUp input := by
  refine ⟨fun call _ _ p hp held hquantity => ?_,
    fun ⟨execution, store⟩ hexecution record _ _ sold hsold => ?_⟩
  · have hread := (survives_of_le (hheld _ p hp)).quantity_eq
    rw [Option.some.inj (hquantity.symm.trans hread)]
  · have hcumulative := hscale execution store hexecution
    have hbound := hsmall execution store hexecution
    obtain ⟨q, hq, -, hquantity⟩ := quantity_of_small hcumulative hbound
    obtain rfl : q = sold := Option.some.inj (hquantity.symm.trans hsold)
    refine ⟨hq.le, fun i increment hincrement hpositive moved hmoved => ?_⟩
    rw [(increment_of_small hcumulative hbound (happlied i execution.localOrderId) hsold
      hincrement hpositive hmoved).2]

/-- A sale at a market price of one hundred that the adapter takes. -/
def submittedSale : List (Input 1) :=
  [.execute 0 { signal := .sell, marketPrice := .finite 100, timestamp := 4 },
    .submitReturned true]

/-- A second signal to sell, while the first sale is open, sells the position once more. -/
theorem not_orders_covered_twoSales :
    ¬(session.run mainBtc (acceptedBuy ++ partialFill ⟨101, 0⟩ :: submittedSale
      ++ submittedSale)).OrdersCovered := by
  intro h
  exact absurd (h 0).1 (by decide +kernel)

/-- One sale of a part-filled purchase is covered. -/
theorem orders_covered_oneSale :
    (session.run mainBtc (acceptedBuy ++ partialFill ⟨101, 0⟩ :: submittedSale)).OrdersCovered := by
  have hfresh : mainBtc.system.Fresh :=
    System.mainPaper_fresh (Function.injective_of_subsingleton _)
  apply orders_covered hfresh
  · decide +kernel
  · decide +kernel
  · decide +kernel

end Session

end TradeBot
