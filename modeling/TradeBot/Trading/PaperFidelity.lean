import TradeBot.Trading.PaperFills

/-!
# Execution over the paper adapter is local execution

An engine that is bound to an unhindered PAPER gateway and one that fills its signals itself,
started in the same state, answer every signal alike and keep the same portfolio. The one
takes the order through normalization, the lifecycle store and the adapter's own arithmetic,
and books the fill in its callback.
-/

namespace TradeBot

open Library Financial

variable [FloatFormat]

namespace ExecutionEngine

variable {engine other last : ExecutionEngine}

/-- The engines have one configuration. -/
structure SameConfig (engine other : ExecutionEngine) : Prop where
  symbol_eq : other.symbol = engine.symbol
  feeRate_eq : other.feeRate = engine.feeRate
  slippage_eq : other.slippage = engine.slippage
  riskPct_eq : other.riskPct = engine.riskPct

omit [FloatFormat] in
/-- Configurations that agree with a third one agree with each other. -/
theorem SameConfig.trans (h : engine.SameConfig other) (h' : other.SameConfig last) :
    engine.SameConfig last :=
  ⟨h'.symbol_eq.trans h.symbol_eq, h'.feeRate_eq.trans h.feeRate_eq,
    h'.slippage_eq.trans h.slippage_eq, h'.riskPct_eq.trans h.riskPct_eq⟩

/-- The engines differ in their counters and in their next identifier at most. -/
structure SameSetup (engine other : ExecutionEngine) : Prop extends engine.SameConfig other where
  bound_eq : other.bound = engine.bound
  applied_eq : other.appliedBrokerQty = engine.appliedBrokerQty

omit [FloatFormat] in
/-- The same of the whole set-up: binding, configuration and applied quantities. -/
theorem SameSetup.trans (h : engine.SameSetup other) (h' : other.SameSetup last) :
    engine.SameSetup last :=
  ⟨h.toSameConfig.trans h'.toSameConfig, h'.bound_eq.trans h.bound_eq,
    h'.applied_eq.trans h.applied_eq⟩

/-- An engine whose gateway is connected decides as one without a gateway. What the risk engine
knows of the positions at the broker does not matter. -/
theorem SameConfig.decideExecute_eq (h : engine.SameConfig other) (hunbound : engine.bound = false)
    (portfolio : PortfolioManager) (risk : RiskEngine) (synced : KeyedMap String Double)
    (connected : Bool) (signal : Signal) (marketPrice : Double) (atr : Option Double) :
    other.decideExecute portfolio { risk with syncedPositions := synced } true signal marketPrice
      atr = engine.decideExecute portfolio risk connected signal marketPrice atr := by
  have hmax : ({ risk with syncedPositions := synced } : RiskEngine).getMaxConcurrentPositions =
      risk.getMaxConcurrentPositions := rfl
  have hplan : other.entryPlan = engine.entryPlan := by
    funext price units
    simp only [entryPlan, h.feeRate_eq]
  have hentry (price : Price) : other.planEntry portfolio { risk with syncedPositions := synced }
      price atr = engine.planEntry portfolio risk price atr := by
    simp only [planEntry, entrySize, fitBudget, affordable, hplan, h.feeRate_eq, h.slippage_eq,
      h.riskPct_eq, hmax]
  have hexit (price : Price) (symbol : String) :
      other.planExit portfolio symbol price = engine.planExit portfolio symbol price := by
    simp only [planExit, h.feeRate_eq, h.slippage_eq]
  simp only [decideExecute, h.symbol_eq, hentry, hexit, hunbound, Bool.not_true,
    Bool.false_eq_true, and_false, false_and, if_false]

end ExecutionEngine

namespace System

variable {n : ℕ} {s : System n} {i : Fin n}

omit [FloatFormat] in
/-- A replaced engine is found at its place. -/
@[simp] theorem engines_setEngine (s : System n) (i : Fin n) (engine : ExecutionEngine) :
    (s.setEngine i engine).engines i = engine := by
  change Function.update s.engines i engine i = engine
  rw [Function.update_self]

omit [FloatFormat] in
/-- The last replacement of an engine counts. -/
@[simp] theorem setEngine_setEngine (s : System n) (i : Fin n) (engine other : ExecutionEngine) :
    (s.setEngine i engine).setEngine i other = s.setEngine i other := by
  unfold setEngine
  rw [Function.update_idem]

/-- Only the counters of one engine have changed, and some identifiers were taken. -/
def Adjusts (s : System n) (i : Fin n) (taken : ℕ) (t : System n) : Prop :=
  ∃ engine, t = s.setEngine i engine ∧ (s.engines i).SameSetup engine ∧
    engine.nextLocalOrderId = (s.engines i).nextLocalOrderId + taken

omit [FloatFormat] in
/-- Replacing an engine by one of the same set-up is an adjustment; it takes the ids by which the
counter of the new engine is ahead. -/
theorem adjusts_setEngine (s : System n) (i : Fin n) {taken : ℕ} {engine : ExecutionEngine}
    (hsame : (s.engines i).SameSetup engine)
    (hnext : engine.nextLocalOrderId = (s.engines i).nextLocalOrderId + taken) :
    s.Adjusts i taken (s.setEngine i engine) := ⟨engine, rfl, hsame, hnext⟩

omit [FloatFormat] in
/-- A further replacement that keeps set-up and counter leaves it the same adjustment. -/
theorem Adjusts.setEngine {taken : ℕ} {t : System n} (h : s.Adjusts i taken t)
    {engine : ExecutionEngine} (hsame : (t.engines i).SameSetup engine)
    (hnext : engine.nextLocalOrderId = (t.engines i).nextLocalOrderId) :
    s.Adjusts i taken (t.setEngine i engine) := by
  obtain ⟨first, rfl, hfirst, htaken⟩ := h
  rw [engines_setEngine] at hsame hnext
  exact ⟨engine, setEngine_setEngine s i first engine, hfirst.trans hsame, hnext.trans htaken⟩

omit [FloatFormat] in
/-- So does counting a blocked signal. -/
theorem Adjusts.block {taken : ℕ} {t : System n} (h : s.Adjusts i taken t) :
    s.Adjusts i taken (t.block i) :=
  h.setEngine ⟨⟨rfl, rfl, rfl, rfl⟩, rfl, rfl⟩ rfl

omit [FloatFormat] in
/-- An adjustment is the engine's own: the gateway is as before. -/
theorem Adjusts.gateway_eq {taken : ℕ} {t : System n} (h : s.Adjusts i taken t) :
    t.gateway = s.gateway := by
  obtain ⟨engine, rfl, -⟩ := h
  rfl

omit [FloatFormat] in
/-- A routing latency within the limit is only written down. -/
theorem Adjusts.recordLatency {taken : ℕ} {t : System n} (h : s.Adjusts i taken t) {elapsed : ℚ}
    (hwithin : elapsed ≤ 5) : s.Adjusts i taken (t.recordLatency i elapsed) := by
  have hno : ¬5 < elapsed := not_lt.mpr hwithin
  unfold System.recordLatency
  simp only [hno, if_false]
  exact h.setEngine ⟨⟨rfl, rfl, rfl, rfl⟩, rfl, rfl⟩ rfl

/-- The end of a booking tells the risk engine the position and writes the records. -/
theorem settleBooking_eq (s : System n) (i : Fin n) (execution : ExecutionEvent)
    (booking : Booking) : ∃ analytics, s.settleBooking i execution booking =
      { s.setEngine i ((s.engines i).afterBooking booking execution.localOrderId) with
        analytics := analytics
        risk := s.risk.syncPosition (s.engines i).symbol
          (s.portfolio.getPositionQuantity (s.engines i).symbol) } := by
  unfold settleBooking recordTrade recordSlippage
  dsimp only
  split
  · split <;> exact ⟨_, rfl⟩
  · exact ⟨_, rfl⟩

/-- An applied acceptance reaches the store only. -/
theorem deliver_acceptance {ack : OrderAcknowledgement} {store : OrderLifecycleStore}
    (happly : s.gateway.lifecycle.applyAcknowledgement ack = (store, .applied))
    (haccepted : ack.accepted = true) : s.deliver (.acknowledgement ack) =
      { s with gateway := { s.gateway with lifecycle := store } } := by
  unfold deliver BrokerGateway.handleAcknowledgement
  dsimp only
  rw [happly]
  simp only [haccepted, if_true, Bool.not_true, Bool.false_eq_true, and_false, if_false]

/-- An applied execution reaches the observers. -/
theorem deliver_applied {execution : ExecutionEvent} {store : OrderLifecycleStore}
    (happly : s.gateway.lifecycle.applyExecution execution = (store, .applied)) :
    s.deliver (.execution execution) = System.notifyExecution { s with gateway := { s.gateway with
      lifecycle := store
      totalFillsReceived := s.gateway.totalFillsReceived + 1 } } execution := by
  unfold deliver BrokerGateway.handleExecution
  dsimp only
  rw [happly]
  rfl

/-- A booking whose call returns is settled. -/
theorem onBrokerExecution_of_booked {execution : ExecutionEvent} {record : OrderLifecycleRecord}
    {booking : Booking} {portfolio : PortfolioManager} (hbound : (s.engines i).bound = true)
    (hrecord : s.gateway.orderLifecycle execution.localOrderId = some record)
    (hbooked : (s.engines i).Booked s.portfolio record execution booking)
    (hcall : s.portfolio.call booking.call = .ok portfolio) : s.onBrokerExecution i execution =
      System.settleBooking { s with portfolio := portfolio } i execution booking := by
  unfold onBrokerExecution
  dsimp only
  rw [hbound, if_neg (by decide),
    ExecutionEngine.decideBooking_eq_some.mpr ⟨record, hrecord, hbooked⟩]
  dsimp only
  rw [hcall]

/-- The reports of a fill, applied one after the other, end with the booking of the only
observer. -/
theorem foldl_deliver_of_booked {ack : OrderAcknowledgement} {execution : ExecutionEvent}
    {acked filled : OrderLifecycleStore} {record : OrderLifecycleRecord} {booking : Booking}
    {portfolio : PortfolioManager} (hobservers : s.executionObservers = [i])
    (hbound : (s.engines i).bound = true) (haccepted : ack.accepted = true)
    (hacked : s.gateway.lifecycle.applyAcknowledgement ack = (acked, .applied))
    (hfilled : acked.applyExecution execution = (filled, .applied))
    (hrecord : filled.find execution.localOrderId = some record)
    (hbooked : (s.engines i).Booked s.portfolio record execution booking)
    (hcall : s.portfolio.call booking.call = .ok portfolio) :
    ([.acknowledgement ack, .execution execution] : List BrokerEvent).foldl deliver s =
      System.settleBooking { s with
        portfolio := portfolio
        gateway := { s.gateway with
          lifecycle := filled
          totalFillsReceived := s.gateway.totalFillsReceived + 1 } } i execution booking := by
  let accepted : System n := { s with gateway := { s.gateway with lifecycle := acked } }
  let executed : System n := { s with gateway := { s.gateway with
    lifecycle := filled
    totalFillsReceived := s.gateway.totalFillsReceived + 1 } }
  have hfirst : s.deliver (.acknowledgement ack) = accepted := deliver_acceptance hacked haccepted
  have hsecond : accepted.deliver (.execution execution) = executed.notifyExecution execution :=
    @deliver_applied _ n accepted execution filled hfilled
  have hthird : executed.notifyExecution execution = executed.onBrokerExecution i execution := by
    rw [notifyExecution, show executed.executionObservers = [i] from hobservers, List.foldl_cons,
      List.foldl_nil]
  rw [List.foldl_cons, List.foldl_cons, List.foldl_nil, hfirst, hsecond, hthird]
  exact @onBrokerExecution_of_booked _ n executed i execution record booking portfolio hbound
    hrecord hbooked hcall

/-- An engine that is bound to a connected gateway without instrument overrides, and the only
one that observes executions. The store has only orders of this engine, all of them filled. -/
structure Routes (s : System n) (i : Fin n) : Prop where
  bound_eq : (s.engines i).bound = true
  observers_eq : s.executionObservers = [i]
  connected : s.gateway.isConnected = true
  specs_eq : s.gateway.instrumentSpecs = ∅
  below : s.gateway.lifecycle.Below (s.engines i).nextLocalOrderId
  next_ne : (s.engines i).nextLocalOrderId ≠ 0
  applied_eq : (s.engines i).appliedBrokerQty = ∅

omit [FloatFormat] in
/-- An adjusted engine still routes to its gateway, with its new counter above every id in the
store. -/
theorem Routes.adjusts {t : System n} {taken : ℕ} (h : s.Routes i) (ht : s.Adjusts i taken t) :
    t.Routes i := by
  obtain ⟨engine, rfl, hsame, hnext⟩ := ht
  have hpos := h.next_ne
  refine ⟨?_, h.observers_eq, h.connected, h.specs_eq, ?_, ?_, ?_⟩
  · rw [engines_setEngine, hsame.bound_eq, h.bound_eq]
  · rw [engines_setEngine]
    exact h.below.mono (by omega)
  · rw [engines_setEngine]
    omega
  · rw [engines_setEngine, hsame.applied_eq, h.applied_eq]

/-- The order that the gateway makes of a request without instrument overrides. -/
structure Untouched (order : NormalizedOrder) (request : OrderRequest) (requestedPrice : Price) :
    Prop where
  request_eq : order.request = request
  quantity_eq : order.normalizedQuantity = request.quantity
  limit_eq : order.normalizedLimitPrice = none
  stop_eq : order.normalizedStopPrice = none
  reference_eq : order.normalizedReferencePrice = some ⟨requestedPrice.units, Financial.scale⟩

omit [FloatFormat] in
/-- The gateway refuses an order that the final risk decision does not allow. -/
theorem handToGateway_of_not_allowed {order : NormalizedOrder} {finalRisk : RiskDecision}
    (h : finalRisk.allowed = false) :
    s.handToGateway i order finalRisk = (s, .returned (.ok false)) := by
  unfold handToGateway BrokerGateway.beginDispatch
  simp only [h, Bool.not_false, if_true, Bool.false_eq_true, false_and, if_false]

omit [FloatFormat] in
/-- An order that the gateway takes is recorded there and waits for the adapter. -/
theorem handToGateway_of_takes {order : NormalizedOrder} {finalRisk : RiskDecision}
    (h : s.gateway.takes order finalRisk = true) : s.handToGateway i order finalRisk =
      ({ s with gateway := { s.gateway with
          lifecycle := BrokerGateway.recordOrder s.gateway.lifecycle order
          totalOrdersSubmitted := s.gateway.totalOrdersSubmitted + 1 } }, .submitting order) := by
  unfold handToGateway
  rw [BrokerGateway.beginDispatch_of_takes h]

/-- **A dispatch** is blocked for want of a symbol or by the risk engine, or it hands the order
to the adapter as it was requested. -/
theorem Routes.beginDispatch (h : s.Routes i) (isBuy : Bool) {units : Quantity}
    {requestedPrice : Price} (timestamp : ℕ) (strategyId : String) {routeLatencyMs : ℚ}
    (hunits : units.isPositive = true) (hprice : requestedPrice.isPositive = true)
    (hlatency : routeLatencyMs ≤ 5) :
    ∃ t, s.Adjusts i 1 t ∧
      ((((s.engines i).symbol = "" ∨
          (ExecutionEngine.finalRisk s.portfolio s.risk isBuy).allowed = false) ∧
        s.beginDispatch i isBuy units requestedPrice timestamp strategyId routeLatencyMs =
          (t, .returned (.ok false))) ∨
      ∃ order, (s.engines i).symbol ≠ "" ∧
        Untouched order ((s.engines i).brokerRequest isBuy units requestedPrice timestamp
          strategyId) requestedPrice ∧
        s.gateway.takes order (ExecutionEngine.finalRisk s.portfolio s.risk isBuy) = true ∧
        s.beginDispatch i isBuy units requestedPrice timestamp strategyId routeLatencyMs =
          ({ t with gateway := { s.gateway with
              lifecycle := BrokerGateway.recordOrder s.gateway.lifecycle order
              totalOrdersSubmitted := s.gateway.totalOrdersSubmitted + 1 } },
            .submitting order)) := by
  have hcounted : s.Adjusts i 1 (s.setEngine i { s.engines i with
      nextLocalOrderId := (s.engines i).nextLocalOrderId + 1 }) :=
    s.adjusts_setEngine i ⟨⟨rfl, rfl, rfl, rfl⟩, rfl, rfl⟩ rfl
  unfold System.beginDispatch
  rw [h.connected, if_neg (by decide)]
  dsimp only
  generalize hcount : s.setEngine i { s.engines i with
    nextLocalOrderId := (s.engines i).nextLocalOrderId + 1 } = counted at hcounted ⊢
  have hgateway : counted.gateway = s.gateway := by rw [← hcount]; rfl
  have hrisk : ExecutionEngine.finalRisk counted.portfolio counted.risk isBuy =
      ExecutionEngine.finalRisk s.portfolio s.risk isBuy := by rw [← hcount]; rfl
  rw [hgateway, hrisk]
  by_cases hsymbol : (s.engines i).symbol = ""
  · have hrefused : s.gateway.normalizeOrder ((s.engines i).brokerRequest isBuy units
        requestedPrice timestamp strategyId) = .error "invalid broker-neutral order request" :=
      if_pos (.inr (.inl hsymbol))
    rw [hrefused]
    exact ⟨_, hcounted.block, .inl ⟨.inl hsymbol, rfl⟩⟩
  · obtain ⟨order, horder, hrequest, hquantity, hlimit, hstop, hreference⟩ :=
      @BrokerGateway.normalizeOrder_default s.gateway ((s.engines i).brokerRequest isBuy units
        requestedPrice timestamp strategyId) h.specs_eq h.next_ne hsymbol
        (by simp [ExecutionEngine.brokerRequest]) rfl hunits
        (show Financial.scale ≤ Decimal64.maxScale by decide) rfl rfl requestedPrice rfl hprice
    rw [horder]
    dsimp only
    cases hallowed : (ExecutionEngine.finalRisk s.portfolio s.risk isBuy).allowed with
    | false =>
      rw [if_neg Bool.false_ne_true, handToGateway_of_not_allowed hallowed]
      exact ⟨_, hcounted.block.recordLatency hlatency, .inl ⟨.inr rfl, rfl⟩⟩
    | true =>
      have hadjusts := hcounted.recordLatency hlatency
      have htakes : s.gateway.takes order (ExecutionEngine.finalRisk s.portfolio s.risk isBuy) =
          true := by
        refine BrokerGateway.takes_of_fresh hallowed h.connected ?_ ?_ ?_ ?_ ?_ ?_ ?_
        · rw [hrequest]
          exact h.next_ne
        · rw [hrequest]
          exact hsymbol
        · rw [hquantity]
          exact hunits
        · rw [hquantity]
          exact show Financial.scale ≤ Decimal64.maxScale by decide
        · rw [hrequest]
          exact show 1 < 2 ^ 64 by decide
        · rw [hrequest]
          rfl
        · rw [hrequest]
          exact h.below
      rw [if_pos rfl]
      refine ⟨_, hadjusts, .inr ⟨order, hsymbol,
        ⟨hrequest, hquantity, hlimit, hstop, hreference⟩, htakes, ?_⟩⟩
      rw [← hadjusts.gateway_eq] at htakes
      rw [handToGateway_of_takes htakes, hadjusts.gateway_eq]

end System

namespace OrderLifecycleStore

open DeterministicBrokerAdapter

variable {store marked : OrderLifecycleStore} {order : NormalizedOrder}

omit [FloatFormat] in
/-- The adapter's reports on an order that is filled whole are applied, one after the other. -/
theorem Placed.reports (h : store.Placed marked order [.submit, .risk]
      (OrderLifecycleRecord.Dispatched order .submitted 2)) (hfresh : store.Fresh order)
    (hpositive : order.normalizedQuantity.isPositive = true) (slippedPrice : Price)
    (fillFee : Money) :
    ∃ acked filled made, marked.applyAcknowledgement (acceptanceOf order) = (acked, .applied) ∧
      acked.applyExecution (executionOf order order.normalizedQuantity
        ⟨0, order.normalizedQuantity.scale⟩ slippedPrice fillFee) = (filled, .applied) ∧
      store.Placed filled order made
        fun record => record.request = BrokerGateway.lifecycleRequest order := by
  obtain ⟨acked, hacked, hplaced⟩ := h.event hfresh.avoids
    (hfresh.keys .acknowledgement) (by decide) fun record hrecord =>
      dispatched_acknowledgement hrecord (acceptanceOf order) rfl rfl fun _ => by
        simp [acceptanceOf]
  have hexecuted (record : OrderLifecycleRecord)
      (hrecord : record.Dispatched order (if (acceptanceOf order).accepted then .accepted
        else .rejected) 3) :
      ∃ next, decideExecution (executionOf order order.normalizedQuantity
          ⟨0, order.normalizedQuantity.scale⟩ slippedPrice fillFee) record = .ok next ∧
        next.request = BrokerGateway.lifecycleRequest order := by
    obtain ⟨next, hnext, -⟩ := dispatched_execution hrecord (splits_whole hpositive) slippedPrice
      fillFee
    refine ⟨next, hnext, ?_⟩
    obtain ⟨-, -, -, -, rfl⟩ := decideExecution_eq_ok.mp hnext
    exact hrecord.request_eq
  obtain ⟨filled, hfilled, hplaced⟩ := hplaced.event hfresh.avoids (hfresh.keys .fill) (by decide)
    hexecuted
  rw [EventKind.key_acknowledgement] at hacked
  exact ⟨acked, filled, _, hacked, hfilled, hplaced⟩

end OrderLifecycleStore

/-- The engine's next order whose fill the engine can book: its price after slippage, its fee,
and the call that books it. -/
structure ExecutionEngine.Fills (engine : ExecutionEngine) (portfolio portfolio' : PortfolioManager)
    (isBuy : Bool) (units : Quantity) (requestedPrice : Price) (timestamp : ℕ)
    (strategyId : String) (fillPrice : Price) (fillFee : Money) (call : PortfolioCall) : Prop where
  units_pos : units.isPositive = true
  fillPrice_pos : fillPrice.isPositive = true
  fillFee_nonneg : fillFee.isNegative = false
  fillPrice_eq : applySlippage requestedPrice engine.slippage.value isBuy = some fillPrice
  fillFee_eq : ∃ cost, notional fillPrice units = some cost ∧
    fee cost engine.feeRate.value = some fillFee
  call_eq : engine.bookingCall portfolio isBuy fillPrice fillFee units timestamp strategyId =
    some call
  returns : portfolio.call call = .ok portfolio'

namespace PaperSystem

variable {n : ℕ} {s : PaperSystem n} {i : Fin n}

/-- A bound engine over an unhindered adapter that has taken its costs. -/
structure Ready (s : PaperSystem n) (i : Fin n) : Prop where
  routes : s.system.Routes i
  unhindered : s.adapter.Unhindered
  feeRate_eq : s.adapter.feeRate = (s.system.engines i).feeRate
  slippage_eq : s.adapter.slippageRate = (s.system.engines i).slippage

/-- The costs of the fill are those that the engine has reckoned with. -/
theorem Ready.fillCosts [ExactFormat] (h : s.Ready i) {order : NormalizedOrder} {isBuy : Bool}
    {units : Quantity} {requestedPrice : Price} {timestamp : ℕ} {strategyId : String}
    {fillPrice : Price} {fillFee : Money} {call : PortfolioCall}
    {portfolio portfolio' : PortfolioManager}
    (horder : System.Untouched order ((s.system.engines i).brokerRequest isBuy units
      requestedPrice timestamp strategyId) requestedPrice)
    (hfills : (s.system.engines i).Fills portfolio portfolio' isBuy units requestedPrice timestamp
      strategyId fillPrice fillFee call) :
    s.adapter.fillCosts order order.normalizedQuantity = some (fillPrice, fillFee) := by
  obtain ⟨hrequest, hquantity, hlimit, hstop, hreference⟩ := horder
  obtain ⟨cost, hcost, hfee⟩ := hfills.fillFee_eq
  have hside : decide (order.request.side = .buy) = isBuy := by
    rw [hrequest]
    cases isBuy <;> rfl
  have hunits : order.normalizedQuantity.toDouble = units.toDouble := by
    rw [hquantity]
    exact Decimal64.toDouble_units units
  unfold DeterministicBrokerAdapter.fillCosts
  rw [hlimit, hstop, hreference, hside, hunits, h.feeRate_eq, h.slippage_eq]
  simp only [Option.getD_none, Option.getD_some, Decimal64.toDouble_units, price_toDouble,
    quantity_toDouble, Option.bind_eq_bind, Option.bind_some, hfills.fillPrice_eq, hcost, hfee,
    hfills.units_pos, if_true]

/-- What the engine books for the execution that the adapter reports. -/
theorem Ready.booked [ExactFormat] (h : s.Ready i) {order : NormalizedOrder} {isBuy : Bool}
    {units : Quantity} {requestedPrice : Price} {timestamp : ℕ} {strategyId : String}
    {fillPrice : Price} {fillFee : Money} {call : PortfolioCall}
    {portfolio portfolio' : PortfolioManager}
    (horder : System.Untouched order ((s.system.engines i).brokerRequest isBuy units
      requestedPrice timestamp strategyId) requestedPrice)
    (hfills : (s.system.engines i).Fills portfolio portfolio' isBuy units requestedPrice timestamp
      strategyId fillPrice fillFee call)
    {engine : ExecutionEngine} (hsame : (s.system.engines i).SameSetup engine)
    {record : OrderLifecycleRecord}
    (hrecord : record.request = BrokerGateway.lifecycleRequest order) :
    ∃ booking, booking.call = call ∧ booking.remaining = 0 ∧
      engine.Booked portfolio record
        (DeterministicBrokerAdapter.executionOf order order.normalizedQuantity
          ⟨0, order.normalizedQuantity.scale⟩ fillPrice fillFee) booking := by
  obtain ⟨hrequest, hquantity, -, -, -⟩ := horder
  have hside : decide (record.request.side = .buy) = isBuy := by
    rw [hrecord]
    change decide (order.request.side = .buy) = isBuy
    rw [hrequest]
    cases isBuy <;> rfl
  have hcumulative : quantity order.normalizedQuantity.toDouble .rejectUnaligned = some units := by
    rw [hquantity]
    change quantity (Decimal64.toDouble ⟨units.units, Financial.scale⟩) _ = _
    rw [Decimal64.toDouble_units, quantity_toDouble]
  have hremaining : quantity
      (Decimal64.toDouble ⟨0, order.normalizedQuantity.scale⟩) .rejectUnaligned = some 0 := by
    rw [hquantity]
    change quantity (Decimal64.toDouble ⟨(0 : Quantity).units, Financial.scale⟩) _ = _
    rw [Decimal64.toDouble_units, quantity_toDouble]
  have happlied (id : ℕ) : engine.appliedQuantity id = 0 := by
    rw [ExecutionEngine.appliedQuantity, hsame.applied_eq, h.routes.applied_eq, AList.lookup_empty,
      Option.getD_none]
  have hcall : engine.bookingCall portfolio isBuy fillPrice fillFee units timestamp strategyId =
      some call := by
    rw [← hfills.call_eq]
    simp only [ExecutionEngine.bookingCall, hsame.symbol_eq]
  refine ⟨{
    isBuy := isBuy
    call := call
    fillPrice := fillPrice
    fillFee := fillFee
    incremental := units
    cumulative := units
    remaining := 0
    requestedPrice := (record.request.referencePrice.map (·.toDouble)).getD fillPrice.toDouble
    strategyId := record.request.sourceId }, rfl, rfl, ?_⟩
  constructor
  case symbol_eq =>
    rw [hrecord, hsame.symbol_eq]
    change order.request.canonicalSymbol = _
    rw [hrequest]
    rfl
  case cumulative_eq => exact hcumulative
  case cumulative_pos => exact hfills.units_pos
  case remaining_eq => exact hremaining
  case remaining_nonneg => rfl
  case fillPrice_eq =>
    change price (Decimal64.toDouble ⟨fillPrice.units, Financial.scale⟩) _ = _
    rw [Decimal64.toDouble_units, price_toDouble]
  case fillPrice_pos => exact hfills.fillPrice_pos
  case fillFee_eq =>
    change money (Decimal64.toDouble ⟨fillFee.units, Financial.scale⟩) _ = _
    rw [Decimal64.toDouble_units, money_toDouble]
  case fillFee_nonneg => exact hfills.fillFee_nonneg
  case incremental_eq =>
    rw [happlied, subtract_eq_some_iff_toRat, Value.toRat_zero, sub_zero]
  case incremental_pos => exact hfills.units_pos
  case isBuy_eq => exact hside.symm
  case call_eq =>
    rw [hrecord]
    change engine.bookingCall portfolio isBuy fillPrice fillFee units order.request.timestampNs
      order.request.sourceId = _
    rw [hrequest]
    exact hcall
  case requestedPrice_eq => rfl
  case strategyId_eq => rfl

/-- An `execute` call returns a result and leaves a portfolio. The engine is as ready as before,
and the risk engine has learned of positions at most. -/
structure Answers (s : PaperSystem n) (i : Fin n) (args : ExecuteArgs) (result : Bool)
    (portfolio : PortfolioManager) : Prop where
  result_eq : (s.execute i args).2 = .ok result
  ready : (s.execute i args).1.Ready i
  portfolio_eq : (s.execute i args).1.system.portfolio = portfolio
  config : (s.system.engines i).SameConfig ((s.execute i args).1.system.engines i)
  risk_eq : ∃ synced, (s.execute i args).1.system.risk =
    { s.system.risk with syncedPositions := synced }

/-- A call that books through the paper broker answers what the local one does, given what it leaves
in portfolio, configuration and risk engine. -/
theorem answers_of_eq {args : ExecuteArgs} {result : Bool} {portfolio : PortfolioManager}
    {t : PaperSystem n} (hexecute : s.execute i args = (t, .ok result)) (hready : t.Ready i)
    (hportfolio : t.system.portfolio = portfolio)
    (hconfig : (s.system.engines i).SameConfig (t.system.engines i))
    (hrisk : ∃ synced, t.system.risk = { s.system.risk with syncedPositions := synced }) :
    s.Answers i args result portfolio := by
  constructor <;> rw [hexecute] <;> assumption

/-- The end of a call whose order the adapter has taken. -/
theorem execute_of_submit {args : ExecuteArgs} {t u : System n} {order : NormalizedOrder}
    {adapter : DeterministicBrokerAdapter} {events : List BrokerEvent}
    (hbegin : s.system.beginExecute i args = (t, .submitting order))
    (hsubmit : s.adapter.submit order = (adapter, some events))
    (hreported : events.foldl System.deliver { t with
      gateway := { t.gateway with adapterConnected := adapter.connected } } = u) :
    s.execute i args = (⟨u.setEngine i
      { u.engines i with lastBrokerOrderId := order.request.localOrderId }, adapter⟩,
      .ok true) := by
  subst hreported
  unfold execute
  rw [hbegin]
  dsimp only
  rw [hsubmit]
  rfl

/-- **A filled order.** The call that hands the order over returns true, with the portfolio that
the engine's own booking gives. -/
theorem Ready.execute_filled [ExactFormat] (h : s.Ready i) {args : ExecuteArgs} {t : System n}
    (hadjusts : s.system.Adjusts i 1 t) {order : NormalizedOrder} {isBuy : Bool} {units : Quantity}
    {requestedPrice : Price} {timestamp : ℕ} {strategyId : String} {fillPrice : Price}
    {fillFee : Money} {call : PortfolioCall} {portfolio' : PortfolioManager}
    (horder : System.Untouched order ((s.system.engines i).brokerRequest isBuy units
      requestedPrice timestamp strategyId) requestedPrice)
    {decision : RiskDecision} (htakes : s.system.gateway.takes order decision = true)
    (hbegin : s.system.beginExecute i args = ({ t with gateway := { s.system.gateway with
        lifecycle := BrokerGateway.recordOrder s.system.gateway.lifecycle order
        totalOrdersSubmitted := s.system.gateway.totalOrdersSubmitted + 1 } },
      .submitting order))
    (hfills : (s.system.engines i).Fills s.system.portfolio portfolio' isBuy units requestedPrice
      timestamp strategyId fillPrice fillFee call) :
    s.Answers i args true portfolio' := by
  have hid : order.request.localOrderId = (s.system.engines i).nextLocalOrderId := by
    rw [horder.request_eq]
    rfl
  have hkey : order.request.idempotencyKey =
      "execution-" ++ toString order.request.localOrderId := by
    rw [horder.request_eq]
    rfl
  have hbelow := h.routes.below
  rw [← hid] at hbelow
  have hsequence : order.request.sequence < 2 ^ 64 := by
    rw [horder.request_eq]
    exact show 1 < 2 ^ 64 by decide
  have hpositive : order.normalizedQuantity.isPositive = true := by
    rw [horder.quantity_eq]
    exact hfills.units_pos
  obtain ⟨acked, filled, made, hacked, hfilled, hplaced⟩ :=
    (BrokerGateway.placed_of_takes htakes hsequence).reports (hbelow.fresh hkey).2.2 hpositive
      fillPrice fillFee
  have hsubmit := h.unhindered.submit (h.fillCosts horder hfills)
  obtain ⟨record, hrecord, hrequest⟩ := hplaced.found
  obtain ⟨engine, rfl, hsame, hnext⟩ := hadjusts
  obtain ⟨booking, rfl, hremaining, hbooked⟩ := h.booked horder hfills hsame hrequest
  let execution := DeterministicBrokerAdapter.executionOf order order.normalizedQuantity
    ⟨0, order.normalizedQuantity.scale⟩ fillPrice fillFee
  let handed : System n := { s.system.setEngine i engine with gateway := { s.system.gateway with
    adapterConnected := s.adapter.connected
    lifecycle := BrokerGateway.recordOrder s.system.gateway.lifecycle order
    totalOrdersSubmitted := s.system.gateway.totalOrdersSubmitted + 1 } }
  have hengine : handed.engines i = engine := System.engines_setEngine s.system i engine
  have hbound : (handed.engines i).bound = true := by
    rw [hengine, hsame.bound_eq, h.routes.bound_eq]
  have hreported := @System.foldl_deliver_of_booked _ n handed i
    (DeterministicBrokerAdapter.acceptanceOf order) execution acked filled record booking portfolio'
    h.routes.observers_eq hbound rfl hacked hfilled hrecord (hengine.symm ▸ hbooked) hfills.returns
  obtain ⟨analytics, hsettled⟩ := System.settleBooking_eq { handed with
    portfolio := portfolio'
    gateway := { handed.gateway with
      lifecycle := filled
      totalFillsReceived := handed.gateway.totalFillsReceived + 1 } } i execution booking
  rw [hsettled] at hreported
  have hexecute := execute_of_submit hbegin hsubmit hreported
  generalize hu : ({ System.setEngine { handed with
      portfolio := portfolio'
      gateway := { handed.gateway with
        lifecycle := filled
        totalFillsReceived := handed.gateway.totalFillsReceived + 1 } } i _ with
      analytics := analytics
      risk := _ } : System n) = u at hexecute
  have hafter : u.engines i = engine.afterBooking booking order.request.localOrderId := by
    rw [← hu, ← hengine]
    exact Function.update_self _ _ _
  have hportfolio : u.portfolio = portfolio' := by rw [← hu]; rfl
  have hrisk : ∃ synced, u.risk = { s.system.risk with syncedPositions := synced } := by
    rw [← hu]
    exact ⟨_, rfl⟩
  have hstore : u.gateway.lifecycle = filled := by rw [← hu]; rfl
  have hobservers : u.executionObservers = [i] := by rw [← hu]; exact h.routes.observers_eq
  have hspecs : u.gateway.instrumentSpecs = ∅ := by rw [← hu]; exact h.routes.specs_eq
  have hconnected : u.gateway.isConnected = true := by
    have hbefore := h.routes.connected
    rw [BrokerGateway.isConnected, Bool.and_eq_true] at hbefore ⊢
    rw [← hu]
    exact ⟨hbefore.1, h.unhindered.connected⟩
  have hconfig : (s.system.engines i).SameConfig
      (engine.afterBooking booking order.request.localOrderId) :=
    ⟨hsame.symbol_eq, hsame.feeRate_eq, hsame.slippage_eq, hsame.riskPct_eq⟩
  refine answers_of_eq hexecute ⟨⟨?_, hobservers, hconnected, hspecs, ?_, ?_, ?_⟩,
    h.unhindered.counted _, ?_, ?_⟩ hportfolio ?_ hrisk
  · rw [System.engines_setEngine, hafter]
    exact hsame.bound_eq.trans h.routes.bound_eq
  · rw [System.engines_setEngine, hafter]
    change u.gateway.lifecycle.Below engine.nextLocalOrderId
    rw [hstore, hnext, ← hid]
    exact hbelow.placed hplaced hkey
  · rw [System.engines_setEngine, hafter]
    change engine.nextLocalOrderId ≠ 0
    omega
  · rw [System.engines_setEngine, hafter]
    change (if booking.remaining.isPositive then engine.appliedBrokerQty.insert _ _
      else engine.appliedBrokerQty.erase order.request.localOrderId) = ∅
    rw [hremaining, hsame.applied_eq, h.routes.applied_eq]
    rfl
  · rw [System.engines_setEngine, hafter]
    exact h.feeRate_eq.trans hconfig.feeRate_eq.symm
  · rw [System.engines_setEngine, hafter]
    exact h.slippage_eq.trans hconfig.slippage_eq.symm
  · rw [System.engines_setEngine, hafter]
    exact hconfig

end PaperSystem

end TradeBot
