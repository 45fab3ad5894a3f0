import TradeBot.Allocation.ReportingDesk
import TradeBot.Trading.TradeRecords

/-!
# The sales of one step

Whatever a step of a session does, the trades that it adds to the analytics and to the trade
log are the same sales, all of one symbol and all given under one strategy.
-/

namespace TradeBot

open Library Financial

namespace System

variable {n : ℕ} {s t u : System n}

/-- A step has recorded sales of one symbol under one strategy, with the given profits, and
nothing else but purchases. -/
structure Sells (s t : System n) (symbol strategyId : String) (profits : List Double) : Prop where
  log : ∃ records, t.portfolio.tradeLog = s.portfolio.tradeLog ++ records ∧
    (∀ record ∈ records, record.symbol = symbol) ∧
    records.map TradeRecord.realizedPnL = profits
  trades : ∃ entries, t.analytics.trades = s.analytics.trades ++ entries ∧
    entries.filterMap TradeLogEntry.sale = profits.map fun profit => (strategyId, profit)
  recording : ∀ i, (t.engines i).recordsAnalytics = (s.engines i).recordsAnalytics

/-- Where the portfolio is unchanged nothing was sold. -/
theorem Sells.profits_eq_nil {symbol strategyId : String} {profits : List Double}
    (h : s.Sells t symbol strategyId profits) (hsame : t.portfolio = s.portfolio) :
    profits = [] := by
  obtain ⟨⟨records, hlog, -, hprofits⟩, -, -⟩ := h
  rw [hsame, List.self_eq_append_right] at hlog
  rw [← hprofits, hlog, List.map_nil]

/-- The profits of two steps follow each other. -/
theorem Sells.trans {symbol strategyId : String} {profits profits' : List Double}
    (h : s.Sells t symbol strategyId profits) (h' : t.Sells u symbol strategyId profits') :
    s.Sells u symbol strategyId (profits ++ profits') := by
  obtain ⟨⟨records, hlog, hsymbols, hprofits⟩, ⟨entries, htrades, hsales⟩, hrecording⟩ := h
  obtain ⟨⟨records', hlog', hsymbols', hprofits'⟩, ⟨entries', htrades', hsales'⟩, hrecording'⟩ :=
    h'
  refine ⟨⟨records ++ records', ?_, ?_, ?_⟩, ⟨entries ++ entries', ?_, ?_⟩, ?_⟩
  · rw [hlog', hlog, List.append_assoc]
  · intro record hrecord
    rcases List.mem_append.mp hrecord with hrecord | hrecord
    · exact hsymbols record hrecord
    · exact hsymbols' record hrecord
  · rw [List.map_append, hprofits, hprofits']
  · rw [htrades', htrades, List.append_assoc]
  · rw [List.filterMap_append, hsales, hsales', List.map_append]
  · intro i
    rw [hrecording' i, hrecording i]

/-- A step that records no trade sells nothing. -/
theorem sells_of_unrecorded (hlog : t.portfolio.tradeLog = s.portfolio.tradeLog)
    (htrades : t.analytics.trades = s.analytics.trades)
    (hrecording : ∀ i, (t.engines i).recordsAnalytics = (s.engines i).recordsAnalytics)
    (symbol strategyId : String) : s.Sells t symbol strategyId [] := by
  refine ⟨⟨[], ?_, ?_, rfl⟩, ⟨[], ?_, rfl⟩, hrecording⟩
  · rw [hlog, List.append_nil]
  · intro record hrecord
    cases hrecord
  · rw [htrades, List.append_nil]

/-- What a fill of the engine itself sells, when its trades are recorded. -/
theorem Booked.sells {i : Fin n} {symbol strategyId : String} {result : Except StdException Bool}
    (hrecords : (s.engines i).recordsAnalytics = true) (hlocal : s.Local t)
    (h : s.Booked t i symbol strategyId result) :
    ∃ profits, s.Sells t symbol strategyId profits ∧
      (profits ≠ [] → s.portfolio.hasPosition symbol = true ∧ result = .ok true) := by
  have hrecording := hlocal.recordsAnalytics
  have hwith (entry : TradeLogEntry) : s.tradesWith i entry = s.analytics.trades ++ [entry] :=
    if_pos hrecords
  cases h with
  | unfilled _ hportfolio htrades =>
    refine ⟨[], sells_of_unrecorded ?_ htrades hrecording symbol strategyId, fun h => absurd rfl h⟩
    rw [hportfolio]
  | @bought p entry _ hopened hside htrades =>
    refine ⟨[], ⟨⟨[], ?_, ?_, rfl⟩, ⟨[entry], ?_, ?_⟩, hrecording⟩, fun h => absurd rfl h⟩
    · rw [hopened.tradeLog, List.append_nil]
    · intro record hrecord
      cases hrecord
    · rw [htrades, hwith]
    · have hnone : entry.sale = none := by
        rw [TradeLogEntry.sale, hside]
        rfl
      rw [List.filterMap_cons_none hnone]
      rfl
  | @sold p record entry hclosed hside hid hprofit htrades =>
    refine ⟨[record.realizedPnL], ⟨⟨[record], hclosed.tradeLog, ?_, rfl⟩, ⟨[entry], ?_, ?_⟩,
      hrecording⟩, fun _ => ⟨?_, rfl⟩⟩
    · intro other hother
      rw [List.mem_singleton.mp hother]
      exact hclosed.recordSymbol
    · rw [htrades, hwith]
    · have hsale : entry.sale = some (strategyId, record.realizedPnL) := by
        rw [TradeLogEntry.sale, if_pos hside, hid, hprofit]
      rw [List.filterMap_cons_some hsale]
      rfl
    · exact decide_eq_true (AList.lookup_isSome.mp (Option.isSome_of_eq_some hclosed.lookup))

/-- Steps that leave the records sell nothing. -/
theorem SameRecords.sells (h : s.SameRecords t) (symbol strategyId : String) :
    s.Sells t symbol strategyId [] :=
  sells_of_unrecorded (congrArg _ h.portfolio) (congrArg _ h.analytics) h.recording _ _

/-- An engine books a sale for an execution. -/
def BooksSale (s : System n) (i : Fin n) (execution : ExecutionEvent) : Prop :=
  (s.engines i).bound = true ∧ ∃ booking portfolio,
    (s.engines i).decideBooking s.portfolio (s.gateway.orderLifecycle execution.localOrderId)
      execution = some booking ∧
    booking.isBuy = false ∧ s.portfolio.call booking.call = .ok portfolio

/-- The trade that an engine has recorded after an execution. -/
theorem settleBooking_frame (s : System n) (i : Fin n) (execution : ExecutionEvent)
    (booking : Booking) (hrecords : (s.engines i).recordsAnalytics = true) :
    (s.settleBooking i execution booking).portfolio = s.portfolio ∧
      (∀ j, ((s.settleBooking i execution booking).engines j).recordsAnalytics =
        (s.engines j).recordsAnalytics) ∧
      ∃ entry, (s.settleBooking i execution booking).analytics.trades =
          s.analytics.trades ++ [entry] ∧
        entry.sale = if booking.isBuy then none else some (booking.strategyId, s.lastProfit.1) := by
  have hrecorded (entry : TradeLogEntry) :
      s.recordTrade i entry = { s with analytics := s.analytics.recordTrade entry } := by
    unfold recordTrade
    rw [if_pos hrecords]
  unfold settleBooking
  dsimp only
  rw [hrecorded]
  generalize hslipped : System.recordSlippage _ i _ _ _ _ _ = slipped
  have hframe {u v : System n} {timestamp : ℕ} {symbol : String} {expected actual amount : Double}
      (h : u.recordSlippage i timestamp symbol expected actual amount = v) :
      v.portfolio = u.portfolio ∧ v.engines = u.engines ∧
        v.analytics.trades = u.analytics.trades := by
    subst h
    exact ⟨portfolio_recordSlippage .., (sameDesk_recordSlippage ..).engines_eq,
      trades_recordSlippage ..⟩
  obtain ⟨hportfolio, hengines, htrades⟩ := hframe hslipped
  refine ⟨hportfolio, fun j => ?_, _, htrades, ?_⟩
  · refine ((sameRecords_setEngine slipped i ?_).recording j).trans ?_
    · rw [hengines]
      rfl
    · rw [hengines]
  · cases hside : booking.isBuy with
    | true => rfl
    | false => rfl

/-- What a booking that the portfolio accepts sells. -/
theorem settleBooking_sells {i : Fin n} {execution : ExecutionEvent} {booking : Booking}
    {record : OrderLifecycleRecord} {portfolio : PortfolioManager}
    (hrecords : (s.engines i).recordsAnalytics = true)
    (hbooked : (s.engines i).Booked s.portfolio record execution booking)
    (hcall : s.portfolio.call booking.call = .ok portfolio) :
    ∃ profits,
      s.Sells ({ s with portfolio := portfolio }.settleBooking i execution booking)
        record.request.canonicalSymbol record.request.sourceId profits ∧
      (profits = [] ↔ booking.isBuy = true) := by
  obtain ⟨hportfolio, hrecording, entry, htrades, hsale⟩ :=
    settleBooking_frame { s with portfolio := portfolio } i execution booking hrecords
  have hbooking := hbooked.call_eq
  cases hside : booking.isBuy with
  | true =>
    rw [hside] at hbooking hsale
    have hlog := ExecutionEngine.bookingCall_bought_tradeLog hbooking hcall
    refine ⟨[], ⟨⟨[], ?_, ?_, rfl⟩, ⟨[entry], htrades, ?_⟩, hrecording⟩, iff_of_true rfl rfl⟩
    · rw [hportfolio, List.append_nil]
      exact hlog
    · intro trade htrade
      cases htrade
    · rw [List.filterMap_cons_none hsale]
      rfl
  | false =>
    rw [hside] at hbooking hsale
    obtain ⟨trade, hlog, hsymbol, -⟩ := ExecutionEngine.bookingCall_sold_tradeLog hbooking hcall
    refine ⟨[trade.realizedPnL], ⟨⟨[trade], ?_, ?_, rfl⟩, ⟨[entry], htrades, ?_⟩, hrecording⟩,
      iff_of_false (List.cons_ne_nil _ _) (by decide)⟩
    · rw [hportfolio]
      exact hlog
    · intro other hother
      rw [List.mem_singleton.mp hother, hsymbol, hbooked.symbol_eq]
    · have hprofit : lastProfit { s with portfolio := portfolio } =
          (trade.realizedPnL, trade.grossPnL) := by
        unfold lastProfit
        dsimp only
        rw [hlog, List.getLast?_concat]
      rw [List.filterMap_cons_some hsale, hprofit, hbooked.strategyId_eq]
      rfl

/-- What an engine sells when it handles an execution. If that is nothing, what the other
engines are going to sell stays the same. -/
theorem onBrokerExecution_sells {record : OrderLifecycleRecord} {execution : ExecutionEvent}
    (hrecord : s.gateway.orderLifecycle execution.localOrderId = some record) (i : Fin n)
    (hrecords : (s.engines i).recordsAnalytics = true) :
    ∃ profits, s.Sells (s.onBrokerExecution i execution) record.request.canonicalSymbol
        record.request.sourceId profits ∧ (profits ≠ [] → s.BooksSale i execution) ∧
      (profits = [] → ∀ j, (s.onBrokerExecution i execution).BooksSale j execution →
        s.BooksSale j execution) := by
  rcases s.onBrokerExecution_cases i execution with
    ⟨-, h⟩ | ⟨h, -⟩ | ⟨found, booking, portfolio, hfound, hbooked, hcall, h⟩
  · rw [h]
    exact ⟨[], (SameRecords.refl s).sells _ _, fun h => absurd rfl h, fun _ j hsale => hsale⟩
  · rw [h]
    exact ⟨[], s.sameRecords_reportApiError.sells _ _, fun h => absurd rfl h,
      fun _ j hsale => hsale⟩
  · obtain rfl : found = record := Option.some.inj (hfound.symm.trans hrecord)
    obtain ⟨profits, hsells, hbuy⟩ := settleBooking_sells hrecords hbooked hcall
    have hgateway := s.onBrokerExecution_gateway i execution
    rw [h] at hgateway ⊢
    refine ⟨profits, hsells, fun hprofits => ?_, fun hprofits j hsale => ?_⟩
    · refine ⟨?_, booking, portfolio, ?_, ?_, hcall⟩
      · by_contra hbound
        refine hprofits (hsells.profits_eq_nil ?_)
        have hsame : s.onBrokerExecution i execution = s := by
          rw [Bool.not_eq_true] at hbound
          simp only [onBrokerExecution, hbound, Bool.not_false, if_true]
        rw [← h, hsame]
      · exact ExecutionEngine.decideBooking_eq_some.mpr ⟨found, hrecord, hbooked⟩
      · rw [← Bool.not_eq_true, ← hbuy]
        exact hprofits
    · -- a purchase was booked, so the order is none to sell
      obtain ⟨-, other, -, hother, hsell, -⟩ := hsale
      rw [hgateway, hrecord] at hother
      obtain ⟨found, hfound, hothers⟩ := ExecutionEngine.decideBooking_eq_some.mp hother
      cases hfound
      rw [hothers.isBuy_eq, ← hbooked.isBuy_eq, hbuy.mp hprofits] at hsell
      cases hsell

/-- What all observers of an execution sell. -/
theorem notifyExecution_sells {record : OrderLifecycleRecord} {execution : ExecutionEvent}
    (hrecord : s.gateway.orderLifecycle execution.localOrderId = some record)
    (hrecords : ∀ i, (s.engines i).recordsAnalytics = true) :
    ∃ profits, s.Sells (s.notifyExecution execution) record.request.canonicalSymbol
        record.request.sourceId profits ∧
      (profits ≠ [] → ∃ i ∈ s.executionObservers, s.BooksSale i execution) := by
  unfold notifyExecution
  induction s.executionObservers generalizing s with
  | nil => exact ⟨[], (SameRecords.refl s).sells _ _, fun h => absurd rfl h⟩
  | cons i observers ih =>
    obtain ⟨profits, hsells, hfirst, hlater⟩ := onBrokerExecution_sells hrecord i (hrecords i)
    have hgateway := s.onBrokerExecution_gateway i execution
    obtain ⟨profits', hsells', hrest⟩ := @ih (s.onBrokerExecution i execution)
      (by rwa [hgateway]) fun j => (hsells.recording j).trans (hrecords j)
    refine ⟨profits ++ profits', hsells.trans hsells', fun hprofits => ?_⟩
    by_cases hnone : profits = []
    · rw [hnone, List.nil_append] at hprofits
      obtain ⟨j, hj, hsale⟩ := hrest hprofits
      exact ⟨j, List.mem_cons_of_mem i hj, hlater hnone j hsale⟩
    · exact ⟨i, List.mem_cons_self, hfirst hnone⟩

/-- Triggering protective orders sells nothing yet. -/
theorem sells_triggered (s : System n) (candle : MarketCandle) :
    s.Sells (s.triggered candle).1 "" "" [] := by
  refine sells_of_unrecorded ?_ ?_ (fun i => ?_) "" "" <;> rfl

/-- Nor does placing an order. -/
theorem sells_placePendingOrder (s : System n) (order : OrderRecord) :
    s.Sells (s.placePendingOrder order).1 "" "" [] := by
  refine sells_of_unrecorded ?_ ?_ (fun i => ?_) "" ""
  · change (s.portfolio.placePendingOrder order).1.tradeLog = s.portfolio.tradeLog
    unfold PortfolioManager.placePendingOrder
    split
    · rfl
    · split <;> rfl
  · rfl
  · rfl

/-- Nor does a new price. -/
theorem sells_markPrice (s : System n) (symbol : String) (currentPrice : Double) :
    s.Sells (s.markPrice symbol currentPrice) "" "" [] := by
  unfold markPrice
  split
  · exact (SameRecords.refl s).sells "" ""
  · next portfolio hmarked =>
    have hlog : portfolio.tradeLog = s.portfolio.tradeLog := by
      unfold PortfolioManager.updatePnL at hmarked
      split at hmarked
      · cases hmarked
        rfl
      · simp only [bind_eq_ok, requirePositive_eq_ok, pure_eq_ok] at hmarked
        obtain ⟨mark, -, valuation, -, rfl⟩ := hmarked
        rfl
    refine sells_of_unrecorded hlog ?_ (fun i => ?_) "" "" <;> rfl

/-- A signal of an engine without a gateway sells a position. -/
def Exits (s : System n) (i : Fin n) (args : ExecuteArgs) : Prop :=
  (s.engines i).bound = false ∧ ∃ marketPrice plan portfolio,
    (s.engines i).decideExecute s.portfolio s.risk s.gateway.isConnected args.signal
      args.marketPrice args.atr = .exit marketPrice plan ∧
    s.portfolio.closePosition (s.engines i).symbol plan.fillPrice.toDouble args.timestamp
      plan.executionFee.toDouble args.strategyId = .ok portfolio

/-- A resting order that a candle has triggered sells a position. -/
def ExitsPending (s : System n) (i : Fin n) (fill : OrderFillResult) : Prop :=
  ∃ plan t, (s.engines i).decidePending s.portfolio s.risk fill = .exit plan ∧
    s.exitPending i fill plan = .ok t

/-- What an `execute` call sells before the adapter answers. -/
theorem beginExecute_sells {i : Fin n} (hrecords : (s.engines i).recordsAnalytics = true)
    (args : ExecuteArgs) :
    ∃ profits,
      s.Sells (s.beginExecute i args).1 (s.engines i).symbol args.strategyId profits ∧
      (profits ≠ [] → s.Exits i args) := by
  cases hbound : (s.engines i).bound with
  | true =>
    exact ⟨[], (sameRecords_beginExecute hbound args).sells _ _, fun h => absurd rfl h⟩
  | false =>
    obtain ⟨t, result, hbegin, hlocal, hbooked⟩ := beginExecute_booked hbound args
    obtain ⟨profits, hsells, hfilled⟩ := hbooked.sells hrecords hlocal
    rw [hbegin]
    refine ⟨profits, hsells, fun hprofits => ⟨hbound, ?_⟩⟩
    obtain ⟨hheld, rfl⟩ := hfilled hprofits
    unfold beginExecute at hbegin
    dsimp only at hbegin
    generalize hcounted : (if args.signal = .none then s else s.setEngine i { s.engines i with
      signalCount := (s.engines i).signalCount + 1 }) = counted at hbegin
    have hsame : counted.portfolio = s.portfolio ∧ (counted.engines i).symbol =
        (s.engines i).symbol := by
      rw [← hcounted]
      split
      · exact ⟨rfl, rfl⟩
      · refine ⟨rfl, ?_⟩
        simp only [setEngine, Function.update_self]
    cases hdecision : (s.engines i).decideExecute s.portfolio s.risk s.gateway.isConnected
        args.signal args.marketPrice args.atr with
    | ignore =>
      rw [hdecision] at hbegin
      cases hbegin
    | block =>
      rw [hdecision] at hbegin
      cases hbegin
    | enter marketPrice plan =>
      obtain ⟨-, -, -, -, hnone, -⟩ := ExecutionEngine.decideExecute_eq_enter hdecision
      rw [hnone] at hheld
      cases hheld
    | exit marketPrice plan =>
      rw [hdecision] at hbegin
      dsimp only at hbegin
      rw [if_neg (by rw [hbound]; decide)] at hbegin
      obtain ⟨-, hclose⟩ := exitLocally_eq_ok (Progress.returned.inj (congrArg Prod.snd hbegin))
      rw [hsame.1, hsame.2] at hclose
      exact ⟨marketPrice, plan, _, rfl, hclose⟩

/-- What a turn over a triggered resting order sells: always under no strategy. -/
theorem processFill_sells {i : Fin n} (hrecords : (s.engines i).recordsAnalytics = true)
    (fill : OrderFillResult) :
    ∃ profits, s.Sells (s.processFill i fill).1 fill.symbol "" profits ∧
      (profits ≠ [] → s.ExitsPending i fill) := by
  obtain ⟨hlocal, hbooked⟩ := s.processFill_booked i fill
  obtain ⟨profits, hsells, hfilled⟩ := hbooked.sells hrecords hlocal
  refine ⟨profits, hsells, fun hprofits => ?_⟩
  obtain ⟨hheld, hresult⟩ := hfilled hprofits
  unfold processFill at hresult
  cases hdecision : (s.engines i).decidePending s.portfolio s.risk fill with
  | skip =>
    rw [hdecision] at hresult
    cases hresult
  | block =>
    rw [hdecision] at hresult
    cases hresult
  | enter plan =>
    obtain ⟨-, -, hnone, -⟩ := ExecutionEngine.decidePending_eq_enter hdecision
    rw [hnone] at hheld
    cases hheld
  | exit plan =>
    rw [hdecision] at hresult
    cases hexit : s.exitPending i fill plan with
    | error e =>
      simp only [hexit] at hresult
      cases hresult
    | ok t => exact ⟨plan, t, hdecision, hexit⟩

end System

end TradeBot
