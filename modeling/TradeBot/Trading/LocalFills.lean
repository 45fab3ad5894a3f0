import TradeBot.System
import TradeBot.Trading.Decisions
import TradeBot.PortfolioLedger

/-!
# Fills that an engine books itself

Without a gateway an engine books its own fills. A purchase opens a position; a sale closes
the whole position and appends one record to the trade log. Resting orders are left alone by
both.
-/

namespace TradeBot

open Library Financial

variable [FloatFormat]

namespace PortfolioManager

variable {pm pm' : PortfolioManager} {symbol : String} {strategyId : String}

/-- A position was opened under a strategy. -/
structure Opened (pm pm' : PortfolioManager) (symbol strategyId : String) (p : PositionState) :
    Prop where
  closed : symbol ∉ pm.positions
  openedUnder : p.strategyId = strategyId
  positions : pm'.positions = pm.positions.insert symbol p
  tradeLog : pm'.tradeLog = pm.tradeLog
  tradeCount : pm'.tradeCount = pm.tradeCount + 1
  pendingOrders : pm'.pendingOrders = pm.pendingOrders

/-- A whole position was closed and recorded, under the strategy that closed it or else under
the one that opened it. -/
structure Closed (pm pm' : PortfolioManager) (symbol strategyId : String) (p : PositionState)
    (record : TradeRecord) : Prop where
  lookup : pm.positions.lookup symbol = some p
  recordSymbol : record.symbol = symbol
  recordStrategy : record.strategyId = if strategyId = "" then p.strategyId else strategyId
  positions : pm'.positions = pm.positions.erase symbol
  tradeLog : pm'.tradeLog = pm.tradeLog ++ [record]
  tradeCount : pm'.tradeCount = pm.tradeCount + 1
  pendingOrders : pm'.pendingOrders = pm.pendingOrders

/-- `openLong` that returns has opened a position under its strategy. -/
theorem openLong_opened {netPrice : Double} {timestamp : ℕ}
    {fee capitalToCommit explicitUnits : Double}
    (h : pm.openLong symbol netPrice timestamp fee capitalToCommit explicitUnits strategyId
      = .ok pm') : ∃ p, pm.Opened pm' symbol strategyId p := by
  simp only [openLong, bind_eq_ok, throwIf_eq_ok, requirePositive_eq_ok,
    requireNonnegative_eq_ok, requireValue_eq_ok, requireCounterCapacity_eq_ok, pure_eq_ok,
    Prod.exists, decide_eq_false_iff_not] at h
  obtain ⟨-, -, -, hclosed, -, -, p, -, entryFee, -, budget, -, amount, cost, debit, -, -, -,
    -, -, average, -, nextCash, -, nextFees, -, valuation, -, -, -, rfl⟩ := h
  exact ⟨_, hclosed, rfl, rfl, rfl, rfl, rfl⟩

/-- A close without an explicit quantity closes the whole position. -/
theorem reduceOpenPosition_closed {prior : PositionState} {netPrice : Double} {timestamp : ℕ}
    {fee : Double} (hprior : pm.positions.lookup symbol = some prior)
    (h : pm.reduceOpenPosition prior symbol netPrice timestamp fee strategyId 0 = .ok pm') :
    ∃ record, pm.Closed pm' symbol strategyId prior record := by
  simp only [reduceOpenPosition, bind_eq_ok, throwIf_eq_ok, requirePositive_eq_ok,
    requireNonnegative_eq_ok, requireValue_eq_ok, requireCounterCapacity_eq_ok, pure_eq_ok] at h
  obtain ⟨-, -, p, -, exitFee, -, closed, hclose, proceeds, -, netProceeds, -,
    cost, -, entryFee, -, gross, -, afterExitFee, -, realized, -,
    tradeFees, -, remaining, hremaining, next, hnext, nextCash, -, nextFees, -,
    valuation, -, -, -, -, -, rfl⟩ := h
  obtain ⟨-, hwhole, -, -⟩ := closeQuantity_eq_ok hclose
  have hclosed : closed = prior.quantity := hwhole (by decide)
  have hzero : remaining.isZero = true := by
    rw [subtract_eq_some_iff, hclosed, sub_self] at hremaining
    exact (isZero_iff _).mpr hremaining
  simp only [reducePosition, hzero, if_true, pure_eq_ok] at hnext
  exact ⟨_, hprior, rfl, rfl, hnext.symm, rfl, rfl, rfl⟩

/-- `closePosition` of an open position that returns has closed it and logged a record. -/
theorem closePosition_closed {netPrice : Double} {timestamp : ℕ} {fee : Double}
    (hopen : pm.hasPosition symbol = true)
    (h : pm.closePosition symbol netPrice timestamp fee strategyId = .ok pm') :
    ∃ p record, pm.Closed pm' symbol strategyId p record := by
  obtain ⟨prior, hprior⟩ := ExecutionEngine.lookup_of_hasPosition hopen
  unfold closePosition at h
  rw [hprior] at h
  exact ⟨prior, reduceOpenPosition_closed hprior h⟩

end PortfolioManager

/-- The same engine, up to its counts of signals. -/
def ExecutionEngine.Counted (engine engine' : ExecutionEngine) : Prop :=
  ∃ signalCount filledCount blockedCount, engine' = { engine with
    signalCount := signalCount
    filledCount := filledCount
    blockedCount := blockedCount }

omit [FloatFormat] in
/-- An engine that counts nothing is unchanged. -/
theorem ExecutionEngine.Counted.refl (engine : ExecutionEngine) : engine.Counted engine :=
  ⟨_, _, _, rfl⟩

omit [FloatFormat] in
/-- Counting twice in a row is counting. -/
theorem ExecutionEngine.Counted.trans {engine engine' engine'' : ExecutionEngine}
    (h : engine.Counted engine') (h' : engine'.Counted engine'') : engine.Counted engine'' := by
  obtain ⟨_, _, _, rfl⟩ := h
  obtain ⟨_, _, _, rfl⟩ := h'
  exact ⟨_, _, _, rfl⟩

namespace System

variable {n : ℕ}

/-- A step that changes no more than the portfolio, the records and counts of signals. -/
structure Local (s t : System n) : Prop where
  risk : t.risk = s.risk
  gateway : t.gateway = s.gateway
  executionObservers : t.executionObservers = s.executionObservers
  reportsRejections : t.reportsRejections = s.reportsRejections
  clock : t.clock = s.clock
  engines : ∀ j, (s.engines j).Counted (t.engines j)

omit [FloatFormat] in
/-- A system differs from itself in nothing. -/
theorem Local.refl (s : System n) : s.Local s :=
  ⟨rfl, rfl, rfl, rfl, rfl, fun j => .refl (s.engines j)⟩

omit [FloatFormat] in
/-- Local changes compose. -/
theorem Local.trans {s t u : System n} (h : s.Local t) (h' : t.Local u) : s.Local u :=
  ⟨h'.risk.trans h.risk, h'.gateway.trans h.gateway,
    h'.executionObservers.trans h.executionObservers,
    h'.reportsRejections.trans h.reportsRejections, h'.clock.trans h.clock,
    fun j => (h.engines j).trans (h'.engines j)⟩

omit [FloatFormat] in
/-- Replacing an engine by one that has counted something is a local change. -/
theorem local_setEngine (s : System n) (i : Fin n) {engine : ExecutionEngine}
    (h : (s.engines i).Counted engine) : s.Local (s.setEngine i engine) := by
  refine ⟨rfl, rfl, rfl, rfl, rfl, fun j => ?_⟩
  by_cases hj : j = i
  · rw [hj]
    change (s.engines i).Counted (Function.update s.engines i engine i)
    rwa [Function.update_self]
  · change (s.engines j).Counted (Function.update s.engines i engine j)
    rw [Function.update_of_ne hj]
    exact .refl _

omit [FloatFormat] in
/-- Blocking a signal is a local change. -/
theorem local_block (s : System n) (i : Fin n) : s.Local (s.block i) :=
  s.local_setEngine i ⟨_, _, _, rfl⟩

omit [FloatFormat] in
/-- A change of the portfolio is a local one: engines, gateway and observers stay. -/
theorem local_portfolio (s : System n) (portfolio : PortfolioManager) :
    s.Local { s with portfolio := portfolio } :=
  ⟨rfl, rfl, rfl, rfl, rfl, fun j => .refl (s.engines j)⟩

omit [FloatFormat] in
/-- Recording a trade is a local change. -/
theorem local_recordTrade (s : System n) (i : Fin n) (entry : TradeLogEntry) :
    s.Local (s.recordTrade i entry) := by
  unfold recordTrade
  split
  · exact ⟨rfl, rfl, rfl, rfl, rfl, fun j => .refl (s.engines j)⟩
  · exact .refl s

omit [FloatFormat] in
/-- Recording a slippage is a local change. -/
theorem local_recordSlippage (s : System n) (i : Fin n) (timestamp : ℕ) (symbol : String)
    (expectedPrice actualPrice quantity : Double) :
    s.Local (s.recordSlippage i timestamp symbol expectedPrice actualPrice quantity) := by
  unfold recordSlippage
  split
  · exact ⟨rfl, rfl, rfl, rfl, rfl, fun j => .refl (s.engines j)⟩
  · exact .refl s

/-- The trades that an engine has recorded after one more. -/
def tradesWith (s : System n) (i : Fin n) (entry : TradeLogEntry) : List TradeLogEntry :=
  if (s.engines i).recordsAnalytics then s.analytics.trades ++ [entry] else s.analytics.trades

/-- What a signal or a resting order in a symbol, given under a strategy, does when the engine
books its fills itself: nothing, or one fill that it records. Only a purchase asks the risk
engine. -/
inductive Booked (s t : System n) (i : Fin n) (symbol strategyId : String) :
    Except StdException Bool → Prop
  | unfilled {result : Except StdException Bool} (hresult : result ≠ .ok true)
    (hportfolio : t.portfolio = s.portfolio) (htrades : t.analytics.trades = s.analytics.trades) :
    Booked s t i symbol strategyId result
  | bought {p : PositionState} {entry : TradeLogEntry}
    (hallowed : s.risk.canTrade s.portfolio = true)
    (hopened : s.portfolio.Opened t.portfolio symbol strategyId p)
    (hside : entry.side = 'B') (htrades : t.analytics.trades = s.tradesWith i entry) :
    Booked s t i symbol strategyId (.ok true)
  | sold {p : PositionState} {record : TradeRecord} {entry : TradeLogEntry}
    (hclosed : s.portfolio.Closed t.portfolio symbol strategyId p record)
    (hside : entry.side = 'S') (hid : entry.strategyId = strategyId)
    (hprofit : entry.realizedPnL = record.realizedPnL)
    (htrades : t.analytics.trades = s.tradesWith i entry) :
    Booked s t i symbol strategyId (.ok true)

variable {s : System n} {i : Fin n}

/-- A local fill, before its slippage is recorded. -/
def withFill (s : System n) (i : Fin n) (portfolio : PortfolioManager) (entry : TradeLogEntry) :
    System n :=
  ({ s with portfolio := portfolio }.setEngine i
    { s.engines i with filledCount := (s.engines i).filledCount + 1 }).recordTrade i entry

omit [FloatFormat] in
/-- A local fill is a local change. -/
theorem local_withFill (s : System n) (i : Fin n) (portfolio : PortfolioManager)
    (entry : TradeLogEntry) : s.Local (s.withFill i portfolio entry) := by
  refine Local.trans ?_ (local_recordTrade _ i entry)
  exact (s.local_portfolio portfolio).trans (local_setEngine _ i ⟨_, _, _, rfl⟩)

omit [FloatFormat] in
/-- After a local fill the portfolio is the one that booked it. -/
@[simp] theorem portfolio_withFill (s : System n) (i : Fin n) (portfolio : PortfolioManager)
    (entry : TradeLogEntry) : (s.withFill i portfolio entry).portfolio = portfolio := by
  unfold withFill recordTrade
  split <;> rfl

omit [FloatFormat] in
/-- A local fill adds its trade to the analytics of an engine that records them. -/
@[simp] theorem trades_withFill (s : System n) (i : Fin n) (portfolio : PortfolioManager)
    (entry : TradeLogEntry) :
    (s.withFill i portfolio entry).analytics.trades = s.tradesWith i entry := by
  unfold withFill recordTrade tradesWith
  have hengine : (({ s with portfolio := portfolio }.setEngine i
      { s.engines i with filledCount := (s.engines i).filledCount + 1 }).engines i) =
        { s.engines i with filledCount := (s.engines i).filledCount + 1 } :=
    Function.update_self ..
  rw [hengine]
  split <;> rfl

omit [FloatFormat] in
/-- Recording a slippage leaves the portfolio. -/
theorem portfolio_recordSlippage (s : System n) (i : Fin n) (timestamp : ℕ) (symbol : String)
    (expectedPrice actualPrice quantity : Double) :
    (s.recordSlippage i timestamp symbol expectedPrice actualPrice quantity).portfolio =
      s.portfolio := by
  unfold recordSlippage
  split <;> rfl

omit [FloatFormat] in
/-- Recording a slippage leaves the recorded trades. -/
theorem trades_recordSlippage (s : System n) (i : Fin n) (timestamp : ℕ) (symbol : String)
    (expectedPrice actualPrice quantity : Double) :
    (s.recordSlippage i timestamp symbol expectedPrice actualPrice quantity).analytics.trades =
      s.analytics.trades := by
  unfold recordSlippage
  split
  · unfold AnalyticsEngine.recordSlippage
    split <;> rfl
  · rfl

omit [FloatFormat] in
/-- The record of the trade that was closed last. -/
theorem lastProfit_of_closed {s t : System n} {symbol strategyId : String} {p : PositionState}
    {record : TradeRecord} (h : s.portfolio.Closed t.portfolio symbol strategyId p record) :
    t.lastProfit = (record.realizedPnL, record.grossPnL) := by
  unfold lastProfit
  rw [h.tradeLog, List.getLast?_concat]

/-- A purchase that risk control allowed is booked under its strategy. -/
theorem booked_withFill_bought {s : System n} {i : Fin n} {symbol strategyId : String}
    {portfolio : PortfolioManager} {entry : TradeLogEntry} {p : PositionState}
    (hallowed : s.risk.canTrade s.portfolio = true)
    (hopened : s.portfolio.Opened portfolio symbol strategyId p) (hside : entry.side = 'B') :
    s.Booked (s.withFill i portfolio entry) i symbol strategyId (.ok true) := by
  have hafter :
      s.portfolio.Opened (s.withFill i portfolio entry).portfolio symbol strategyId p := by
    rwa [portfolio_withFill]
  exact .bought hallowed hafter hside (s.trades_withFill i portfolio entry)

/-- A sale is booked with the profit of the record that the portfolio logged. -/
theorem booked_withFill_sold {s : System n} {i : Fin n} {symbol strategyId : String}
    {portfolio : PortfolioManager} {entry : TradeLogEntry} {p : PositionState}
    {record : TradeRecord} (hclosed : s.portfolio.Closed portfolio symbol strategyId p record)
    (hside : entry.side = 'S') (hid : entry.strategyId = strategyId)
    (hprofit : entry.realizedPnL = record.realizedPnL) :
    s.Booked (s.withFill i portfolio entry) i symbol strategyId (.ok true) := by
  have hafter : s.portfolio.Closed (s.withFill i portfolio entry).portfolio symbol strategyId p
      record := by
    rwa [portfolio_withFill]
  exact .sold hafter hside hid hprofit (s.trades_withFill i portfolio entry)

/-- A recorded slippage is no trade. -/
theorem Booked.recordSlippage {s t : System n} {i : Fin n} {symbol strategyId : String}
    {result : Except StdException Bool} (h : s.Booked t i symbol strategyId result)
    (timestamp : ℕ) (asset : String) (expectedPrice actualPrice quantity : Double) :
    s.Booked (t.recordSlippage i timestamp asset expectedPrice actualPrice quantity) i symbol
      strategyId result := by
  have hportfolio := t.portfolio_recordSlippage i timestamp asset expectedPrice actualPrice quantity
  have htrades := t.trades_recordSlippage i timestamp asset expectedPrice actualPrice quantity
  cases h with
  | unfilled hresult hportfolio' htrades' =>
    exact .unfilled hresult (hportfolio.trans hportfolio') (htrades.trans htrades')
  | bought hallowed hopened hside htrades' =>
    exact .bought hallowed (hportfolio.symm ▸ hopened) hside (htrades.trans htrades')
  | sold hclosed hside hid hprofit htrades' =>
    exact .sold (hportfolio.symm ▸ hclosed) hside hid hprofit (htrades.trans htrades')

/-- A purchase that the risk engine allows and the portfolio accepts is the only effect of a
BUY signal. -/
theorem enterLocally_booked (s : System n) (i : Fin n) (args : ExecuteArgs) (marketPrice : Price)
    (plan : EntryPlan) :
    s.Local (s.enterLocally i args marketPrice plan).1 ∧
      s.Booked (s.enterLocally i args marketPrice plan).1 i (s.engines i).symbol args.strategyId
        (s.enterLocally i args marketPrice plan).2 := by
  unfold enterLocally
  dsimp only
  split
  · exact ⟨s.local_block i, .unfilled (by simp) rfl rfl⟩
  · next hallowed =>
    rw [Bool.not_eq_true, Bool.not_eq_false'] at hallowed
    split
    · exact ⟨.refl s, .unfilled (by simp) rfl rfl⟩
    · next portfolio hopen =>
      obtain ⟨p, hopened⟩ := PortfolioManager.openLong_opened hopen
      constructor
      · exact (s.local_withFill i portfolio _).trans (local_recordSlippage ..)
      · exact (booked_withFill_bought hallowed hopened rfl).recordSlippage ..

/-- A sale that the portfolio accepts is the only effect of a SELL signal. -/
theorem exitLocally_booked (s : System n) (i : Fin n) (args : ExecuteArgs) (marketPrice : Price)
    (plan : ExitPlan) (hopen : s.portfolio.hasPosition (s.engines i).symbol = true) :
    s.Local (s.exitLocally i args marketPrice plan).1 ∧
      s.Booked (s.exitLocally i args marketPrice plan).1 i (s.engines i).symbol args.strategyId
        (s.exitLocally i args marketPrice plan).2 := by
  unfold exitLocally
  dsimp only
  split
  · exact ⟨.refl s, .unfilled (by simp) rfl rfl⟩
  · next portfolio hclose =>
    obtain ⟨p, record, hclosed⟩ := PortfolioManager.closePosition_closed hopen hclose
    have hprofit := lastProfit_of_closed (s := s)
      (t := { s with portfolio := portfolio }.setEngine i
        { s.engines i with filledCount := (s.engines i).filledCount + 1 }) hclosed
    constructor
    · exact (s.local_withFill i portfolio _).trans (local_recordSlippage ..)
    · exact (booked_withFill_sold hclosed rfl rfl (congrArg Prod.fst hprofit)).recordSlippage ..

/-- What the local fill of a BUY signal returns without an exception. -/
theorem enterLocally_eq_ok {args : ExecuteArgs} {marketPrice : Price} {plan : EntryPlan}
    {result : Bool} (h : (s.enterLocally i args marketPrice plan).2 = .ok result) :
    (result = false ∧ s.risk.canTrade s.portfolio = false ∧
      (s.enterLocally i args marketPrice plan).1.portfolio = s.portfolio) ∨
    (result = true ∧ s.risk.canTrade s.portfolio = true ∧
      s.portfolio.openLong (s.engines i).symbol plan.fillPrice.toDouble args.timestamp
        plan.executionFee.toDouble plan.debit.toDouble plan.units.toDouble args.strategyId =
          .ok (s.enterLocally i args marketPrice plan).1.portfolio) := by
  unfold enterLocally at h ⊢
  dsimp only at h ⊢
  cases hallowed : s.risk.canTrade s.portfolio with
  | false =>
    rw [hallowed, Bool.not_false, if_pos rfl] at h
    cases h
    exact .inl ⟨rfl, rfl, rfl⟩
  | true =>
    rw [hallowed, Bool.not_true, if_neg Bool.false_ne_true] at h
    rw [Bool.not_true, if_neg Bool.false_ne_true]
    cases hopen : s.portfolio.openLong (s.engines i).symbol plan.fillPrice.toDouble args.timestamp
        plan.executionFee.toDouble plan.debit.toDouble plan.units.toDouble args.strategyId with
    | error e =>
      rw [hopen] at h
      cases h
    | ok portfolio =>
      rw [hopen] at h
      cases h
      refine .inr ⟨rfl, rfl, congrArg _ ?_⟩
      exact (portfolio_withFill s i portfolio _).symm.trans (portfolio_recordSlippage ..).symm

/-- What the local fill of a SELL signal returns without an exception. -/
theorem exitLocally_eq_ok {args : ExecuteArgs} {marketPrice : Price} {plan : ExitPlan}
    {result : Bool} (h : (s.exitLocally i args marketPrice plan).2 = .ok result) :
    result = true ∧
      s.portfolio.closePosition (s.engines i).symbol plan.fillPrice.toDouble args.timestamp
        plan.executionFee.toDouble args.strategyId =
          .ok (s.exitLocally i args marketPrice plan).1.portfolio := by
  unfold exitLocally at h ⊢
  dsimp only at h ⊢
  cases hclose : s.portfolio.closePosition (s.engines i).symbol plan.fillPrice.toDouble
      args.timestamp plan.executionFee.toDouble args.strategyId with
  | error e =>
    rw [hclose] at h
    cases h
  | ok portfolio =>
    rw [hclose] at h
    cases h
    refine ⟨rfl, congrArg _ ?_⟩
    exact (portfolio_withFill s i portfolio _).symm.trans (portfolio_recordSlippage ..).symm

omit [FloatFormat] in
/-- A local change leaves which engines record trades. -/
theorem Local.recordsAnalytics {s t : System n} (h : s.Local t) (i : Fin n) :
    (t.engines i).recordsAnalytics = (s.engines i).recordsAnalytics := by
  obtain ⟨_, _, _, heq⟩ := h.engines i
  rw [heq]

omit [FloatFormat] in
/-- A local change leaves the symbols of the engines. -/
theorem Local.symbol {s t : System n} (h : s.Local t) (i : Fin n) :
    (t.engines i).symbol = (s.engines i).symbol := by
  obtain ⟨_, _, _, heq⟩ := h.engines i
  rw [heq]

omit [FloatFormat] in
/-- A local change leaves which engines are bound. -/
theorem Local.bound {s t : System n} (h : s.Local t) (i : Fin n) :
    (t.engines i).bound = (s.engines i).bound := by
  obtain ⟨_, _, _, heq⟩ := h.engines i
  rw [heq]

/-- Counting a signal first is no part of a fill. -/
theorem Booked.of_counted {s counted t : System n} {i : Fin n} {symbol strategyId : String}
    {result : Except StdException Bool} (hlocal : s.Local counted)
    (hportfolio : counted.portfolio = s.portfolio) (hanalytics : counted.analytics = s.analytics)
    (h : counted.Booked t i symbol strategyId result) : s.Booked t i symbol strategyId result := by
  have htrades (entry : TradeLogEntry) : counted.tradesWith i entry = s.tradesWith i entry := by
    unfold tradesWith
    rw [hlocal.recordsAnalytics, hanalytics]
  cases h with
  | unfilled hresult hportfolio' htrades' =>
    exact .unfilled hresult (hportfolio'.trans hportfolio) (hanalytics ▸ htrades')
  | bought hallowed hopened hside htrades' =>
    rw [hlocal.risk, hportfolio] at hallowed
    exact .bought hallowed (hportfolio ▸ hopened) hside (htrades'.trans (htrades _))
  | sold hclosed hside hid hprofit htrades' =>
    exact .sold (hportfolio ▸ hclosed) hside hid hprofit (htrades'.trans (htrades _))

/-- **Signals without a gateway.** An engine that books its own fills returns at once; what it
has done is nothing or one fill. -/
theorem beginExecute_booked {s : System n} {i : Fin n} (hunbound : (s.engines i).bound = false)
    (args : ExecuteArgs) :
    ∃ t result, s.beginExecute i args = (t, .returned result) ∧ s.Local t ∧
      s.Booked t i (s.engines i).symbol args.strategyId result := by
  let counted := if args.signal = .none then s
    else s.setEngine i { s.engines i with signalCount := (s.engines i).signalCount + 1 }
  have hcounted : s.Local counted ∧ counted.portfolio = s.portfolio ∧
      counted.analytics = s.analytics := by
    change s.Local (if _ then _ else _) ∧ (if _ then _ else _ : System n).portfolio = _ ∧
      (if _ then _ else _ : System n).analytics = _
    split
    · exact ⟨.refl s, rfl, rfl⟩
    · exact ⟨s.local_setEngine i ⟨_, _, _, rfl⟩, rfl, rfl⟩
  obtain ⟨hlocal, hportfolio, hanalytics⟩ := hcounted
  have hsymbol := hlocal.symbol i
  unfold beginExecute
  dsimp only
  cases hdecision : (s.engines i).decideExecute s.portfolio s.risk s.gateway.isConnected
      args.signal args.marketPrice args.atr with
  | ignore =>
    exact ⟨_, _, rfl, hlocal, .unfilled (by simp) hportfolio (congrArg _ hanalytics)⟩
  | block =>
    exact ⟨_, _, rfl, hlocal.trans (local_block _ i),
      .unfilled (by simp) hportfolio (congrArg _ hanalytics)⟩
  | enter marketPrice plan =>
    have hbooked := counted.enterLocally_booked i args marketPrice plan
    rw [hsymbol] at hbooked
    refine ⟨_, _, if_neg (by rw [hunbound]; decide), hlocal.trans hbooked.1, ?_⟩
    exact hbooked.2.of_counted hlocal hportfolio hanalytics
  | exit marketPrice plan =>
    have hopen : counted.portfolio.hasPosition (counted.engines i).symbol = true := by
      rw [hportfolio, hsymbol]
      exact (ExecutionEngine.decideExecute_eq_exit hdecision).2.2.2.2.1
    have hbooked := counted.exitLocally_booked i args marketPrice plan hopen
    rw [hsymbol] at hbooked
    refine ⟨_, _, if_neg (by rw [hunbound]; decide), hlocal.trans hbooked.1, ?_⟩
    exact hbooked.2.of_counted hlocal hportfolio hanalytics

/-- A fill leaves the resting orders alone. -/
theorem Booked.pendingOrders {s t : System n} {i : Fin n} {symbol strategyId : String}
    {result : Except StdException Bool} (h : s.Booked t i symbol strategyId result) :
    t.portfolio.pendingOrders = s.portfolio.pendingOrders := by
  cases h with
  | unfilled _ hportfolio _ => rw [hportfolio]
  | bought _ hopened _ _ => exact hopened.pendingOrders
  | sold hclosed _ _ _ _ => exact hclosed.pendingOrders

/-- A fill is one trade of the portfolio. -/
theorem Booked.tradeCount {s t : System n} {i : Fin n} {symbol strategyId : String}
    (h : s.Booked t i symbol strategyId (.ok true)) :
    t.portfolio.tradeCount = s.portfolio.tradeCount + 1 := by
  cases h with
  | unfilled hresult _ _ => exact absurd rfl hresult
  | bought _ hopened _ _ => exact hopened.tradeCount
  | sold hclosed _ _ _ _ => exact hclosed.tradeCount

/-- Without a booked fill the portfolio is as it was. -/
theorem Booked.portfolio_eq {s t : System n} {i : Fin n} {symbol strategyId : String}
    {result : Except StdException Bool} (h : s.Booked t i symbol strategyId result)
    (hresult : result ≠ .ok true) : t.portfolio = s.portfolio := by
  cases h with
  | unfilled _ hportfolio _ => exact hportfolio
  | bought _ _ _ _ => exact absurd rfl hresult
  | sold _ _ _ _ _ => exact absurd rfl hresult

/-- One turn of the loop of `processPendingOrders`, with what an `execute` call would return. -/
def processFill (s : System n) (i : Fin n) (fill : OrderFillResult) :
    System n × Except StdException Bool :=
  match (s.engines i).decidePending s.portfolio s.risk fill with
  | .skip => (s, .ok false)
  | .block => (s.block i, .ok false)
  | .enter plan =>
    match s.enterPending i fill plan with
    | .error e => (s, .error e)
    | .ok s => (s, .ok true)
  | .exit plan =>
    match s.exitPending i fill plan with
    | .error e => (s, .error e)
    | .ok s => (s, .ok true)

/-- The system and the triggered orders that the loop of `processPendingOrders` starts with. -/
def triggered (s : System n) (candle : MarketCandle) : System n × List OrderFillResult :=
  let (portfolio, fills) := s.portfolio.evaluatePendingOrders candle.symbol candle.high
    candle.low candle.close candle.epochTimestamp
  ({ s with portfolio := portfolio }, fills)

/-- The loop takes one turn for each triggered order, until one throws. -/
theorem processFills_cons (i : Fin n) (s : System n) (fill : OrderFillResult)
    (fills : List OrderFillResult) (filledCount : ℕ) :
    processFills i s (fill :: fills) filledCount =
      match s.processFill i fill with
      | (t, .ok true) => processFills i t fills (filledCount + 1)
      | (t, .ok false) => processFills i t fills filledCount
      | (t, .error e) => (t, .error e) := by
  rw [processFills]
  unfold processFill
  cases (s.engines i).decidePending s.portfolio s.risk fill with
  | skip => rfl
  | block => rfl
  | enter plan => cases henter : s.enterPending i fill plan <;> simp only [henter]
  | exit plan => cases hexit : s.exitPending i fill plan <;> simp only [hexit]

end System

namespace ExecutionEngine

/-- A resting order that a candle has triggered is bought under no strategy when the risk engine
allows it and there is no position. -/
theorem decidePending_eq_enter {engine : ExecutionEngine} {portfolio : PortfolioManager}
    {risk : RiskEngine} {fill : OrderFillResult} {plan : EntryPlan}
    (h : engine.decidePending portfolio risk fill = .enter plan) :
    fill.isBuy = true ∧ risk.canTrade portfolio = true ∧
      portfolio.hasPosition fill.symbol = false ∧ ∃ fillPrice,
        (price fill.fillPrice).filter (·.isPositive) = some fillPrice ∧
          engine.planPendingEntry portfolio fill fillPrice = some plan := by
  unfold decidePending at h
  split at h
  · cases h
  · split at h
    · cases h
    · next fillPrice hprice =>
      split at h
      · next hbuy =>
        split at h
        · cases h
        · next hallowed =>
          split at h
          · cases h
          · next hposition =>
            split at h
            · cases h
            · next plan' hplan =>
              cases h
              exact ⟨hbuy, by simpa using hallowed, by simpa using hposition, fillPrice, hprice,
                hplan⟩
      · split at h
        · cases h
        · split at h <;> cases h

/-- Any other resting order that a candle has triggered sells an open position. -/
theorem decidePending_eq_exit {engine : ExecutionEngine} {portfolio : PortfolioManager}
    {risk : RiskEngine} {fill : OrderFillResult} {plan : ExitPlan}
    (h : engine.decidePending portfolio risk fill = .exit plan) :
    fill.isBuy = false ∧ portfolio.hasPosition fill.symbol = true ∧ ∃ fillPrice,
      (price fill.fillPrice).filter (·.isPositive) = some fillPrice ∧
        engine.planExit portfolio fill.symbol fillPrice = some plan := by
  unfold decidePending at h
  split at h
  · cases h
  · split at h
    · cases h
    · next fillPrice hprice =>
      split at h
      · split at h
        · cases h
        · split at h
          · cases h
          · split at h <;> cases h
      · next hbuy =>
        split at h
        · cases h
        · next hposition =>
          split at h
          · cases h
          · next plan' hplan =>
            cases h
            exact ⟨by simpa using hbuy, by simpa using hposition, fillPrice, hprice, hplan⟩

end ExecutionEngine

namespace System

variable {n : ℕ}

/-- A turn of the loop does nothing or one fill, under no strategy. -/
theorem processFill_booked (s : System n) (i : Fin n) (fill : OrderFillResult) :
    s.Local (s.processFill i fill).1 ∧
      s.Booked (s.processFill i fill).1 i fill.symbol "" (s.processFill i fill).2 := by
  unfold processFill
  split
  · exact ⟨.refl s, .unfilled (by simp) rfl rfl⟩
  · exact ⟨s.local_block i, .unfilled (by simp) rfl rfl⟩
  · next plan hdecision =>
    obtain ⟨-, hallowed, -⟩ := ExecutionEngine.decidePending_eq_enter hdecision
    split
    · exact ⟨.refl s, .unfilled (by simp) rfl rfl⟩
    · next t henter =>
      simp only [enterPending, bind_eq_ok, pure_eq_ok] at henter
      obtain ⟨portfolio, hopen, rfl⟩ := henter
      obtain ⟨p, hopened⟩ := PortfolioManager.openLong_opened hopen
      exact ⟨s.local_withFill i portfolio _, booked_withFill_bought hallowed hopened rfl⟩
  · next plan hdecision =>
    obtain ⟨-, hposition, -⟩ := ExecutionEngine.decidePending_eq_exit hdecision
    split
    · exact ⟨.refl s, .unfilled (by simp) rfl rfl⟩
    · next t hexit =>
      simp only [exitPending, bind_eq_ok, pure_eq_ok] at hexit
      obtain ⟨portfolio, hclose, rfl⟩ := hexit
      obtain ⟨p, record, hclosed⟩ := PortfolioManager.closePosition_closed hposition hclose
      have hprofit := lastProfit_of_closed (s := s)
        (t := { s with portfolio := portfolio }.setEngine i
          { s.engines i with filledCount := (s.engines i).filledCount + 1 }) hclosed
      exact ⟨s.local_withFill i portfolio _,
        booked_withFill_sold hclosed rfl rfl (congrArg Prod.fst hprofit)⟩

end System

end TradeBot
