import TradeBot.Backtest.Signals

/-!
# Candles in backtests that agree

What one candle keeps of a backtest that was started with a configuration, and that backtests
which agree still agree after it.
-/

namespace TradeBot

open Library Financial

namespace RiskMonitor

variable (sqrt : Double → Double)

/-- What a pushed equity return changes of a risk engine. -/
theorem pushEquityReturn_frame (risk : RiskMonitor) (equity : Double) :
    ∃ window deviation varValue, risk.pushEquityReturn sqrt equity = { risk with
      returnWindow := window
      returnStdDev := deviation
      currentVaR95 := varValue
      prevEquity := equity
      prevEquityValid := true } := by
  unfold pushEquityReturn
  dsimp only
  split
  · split
    · exact ⟨_, _, _, rfl⟩
    · exact ⟨_, _, _, rfl⟩
  · exact ⟨_, _, _, rfl⟩

/-- What a pushed asset return changes of it. -/
theorem pushAssetReturn_frame (risk : RiskMonitor) (equity : Double) (symbol : String)
    (closingPrice positionValue : Double) :
    ∃ states order matrix deviation varValue,
      risk.pushAssetReturn sqrt equity symbol closingPrice positionValue = { risk with
        multiAssetMode := true
        assetStates := states
        assetOrder := order
        covMatrix := matrix
        returnStdDev := deviation
        currentVaR95 := varValue } := by
  have hrebuild (r : RiskMonitor) : ∃ order matrix, r.rebuildCovMatrix = { r with
      assetOrder := order
      covMatrix := matrix } := by
    unfold rebuildCovMatrix
    dsimp only
    split
    · exact ⟨_, _, rfl⟩
    · exact ⟨_, _, rfl⟩
  have hupdate (r : RiskMonitor) : ∃ deviation varValue, r.updateDiversifiedVaR sqrt equity =
      { r with
        returnStdDev := deviation
        currentVaR95 := varValue } := by
    unfold updateDiversifiedVaR
    dsimp only
    split
    · exact ⟨_, _, rfl⟩
    · exact ⟨_, _, rfl⟩
  unfold pushAssetReturn
  dsimp only
  split
  · obtain ⟨order, matrix, hrebuilt⟩ := hrebuild { risk with
      multiAssetMode := true
      assetStates := risk.assetStates.insert symbol
        (risk.observe symbol closingPrice positionValue) }
    rw [hrebuilt]
    obtain ⟨deviation, varValue, hupdated⟩ := hupdate { risk with
      multiAssetMode := true
      assetStates := risk.assetStates.insert symbol
        (risk.observe symbol closingPrice positionValue)
      assetOrder := order
      covMatrix := matrix }
    exact ⟨_, order, matrix, deviation, varValue, hupdated⟩
  · obtain ⟨order, matrix, hrebuilt⟩ := hrebuild { risk with
      multiAssetMode := true
      assetStates := risk.assetStates.insert symbol
        (risk.observe symbol closingPrice positionValue) }
    exact ⟨_, order, matrix, _, _, hrebuilt⟩

end RiskMonitor

namespace PortfolioManager

/-- A call that returns keeps the portfolio consistent and its resting orders. -/
theorem Consistent.call {pm pm' : PortfolioManager} (h : pm.Consistent) {c : PortfolioCall}
    (hcall : pm.call c = .ok pm') :
    pm'.Consistent ∧ pm'.pendingOrders = pm.pendingOrders := by
  rcases call_advances h.valued c hcall with hadvance | rfl
  · exact ⟨⟨(h.valued.call c hcall).1, h.recorded.advance hadvance,
      h.queued.congr hadvance.pendingOrders_eq hadvance.nextOrderId_eq⟩,
      hadvance.pendingOrders_eq⟩
  · exact ⟨h, rfl⟩

end PortfolioManager

namespace Components

variable {t c c' : Components} {execution execution' : ExecutionEngine} {args : ExecuteArgs}

/-- What the candles of a backtest keep of shared objects that were constructed as `t`. -/
structure Kept (t c : Components) : Prop where
  configured : c.Configured t
  consistent : c.portfolio.Consistent
  pendingOrders : c.portfolio.pendingOrders = []
  errorTimestamps : c.risk.errorTimestamps = []
  effectiveMaxPositions : c.risk.effectiveMaxPositions = c.risk.maxConcurrentPositions
  effectiveVarLimit : c.risk.effectiveVarLimit = c.risk.varLimitFraction
  copied : c.regime.Copied
  cachedDynamicWeights : c.allocator.cachedDynamicWeights = ∅
  recomputeCount : c.allocator.recomputeCount = 0

/-- Nothing rests in the queue of a backtest. -/
theorem processPendingOrders_nil (hqueue : c.portfolio.pendingOrders = [])
    (candle : MarketCandle) :
    c.processPendingOrders execution candle = .ok (c, execution) := by
  have hevaluate : c.portfolio.evaluatePendingOrders candle.symbol candle.high candle.low
      candle.close candle.epochTimestamp = (c.portfolio, []) := by
    unfold PortfolioManager.evaluatePendingOrders
    rw [hqueue]
    change ({ c.portfolio with pendingOrders := [] }, []) = _
    rw [← hqueue]
  have hprocess : (c.system execution).processPendingOrders 0 candle =
      (c.system execution, .ok 0) := by
    unfold System.processPendingOrders
    change System.processFills 0 { c.system execution with
      portfolio := (c.portfolio.evaluatePendingOrders candle.symbol candle.high candle.low
        candle.close candle.epochTimestamp).1 } (c.portfolio.evaluatePendingOrders candle.symbol
          candle.high candle.low candle.close candle.epochTimestamp).2 0 = _
    rw [hevaluate]
    rfl
  unfold processPendingOrders
  rw [hprocess]
  rfl

/-- A signal changes the portfolio by a call, and the performance of a strategy. -/
theorem Executed.changes {c₁ : Components} {execution₁ : ExecutionEngine}
    (h : Executed c execution args (.ok (c₁, execution₁))) :
    execution.Counted execution₁ ∧
      (c₁.portfolio = c.portfolio ∨ ∃ call, c.portfolio.call call = .ok c₁.portfolio) ∧
      ∃ phiStates, c₁ = { c with
        portfolio := c₁.portfolio
        allocator := { c.allocator with phiStates := phiStates } } := by
  cases h with
  | quiet _ hcounted _ => exact ⟨hcounted, .inl rfl, c.allocator.phiStates, rfl⟩
  | bought _ hcounted _ _ plan _ portfolio hopen =>
    exact ⟨hcounted, .inr ⟨.openLong _ _ _ _ _ _ _, hopen⟩, c.allocator.phiStates, rfl⟩
  | sold _ hcounted _ plan _ portfolio hclose =>
    refine ⟨hcounted, .inr ⟨.closePosition _ _ _ _ _ _, hclose⟩, ?_⟩
    unfold afterSale
    split
    · exact ⟨_, rfl⟩
    · exact ⟨c.allocator.phiStates, rfl⟩

/-- An executed signal keeps what loading needs to be kept. -/
theorem Kept.executed {c₁ : Components} {execution₁ : ExecutionEngine} (h : Kept t c)
    (hdone : Executed c execution args (.ok (c₁, execution₁))) : Kept t c₁ := by
  obtain ⟨-, hportfolio, phiStates, hc₁⟩ := hdone.changes
  have hkept : c₁.portfolio.Consistent ∧ c₁.portfolio.pendingOrders = [] := by
    rcases hportfolio with hsame | ⟨call, hcall⟩
    · rw [hsame]
      exact ⟨h.consistent, h.pendingOrders⟩
    · obtain ⟨hconsistent, hqueue⟩ := h.consistent.call hcall
      exact ⟨hconsistent, hqueue.trans h.pendingOrders⟩
  generalize c₁.portfolio = portfolio at hc₁ hkept
  rw [hc₁]
  constructor
  case configured =>
    obtain ⟨hrisk, hregime, hlong, hshort, hattached, hweights, hcached, hcount⟩ := h.configured
    exact ⟨hrisk, hregime, hlong, hshort, hattached, hweights, hcached, hcount⟩
  case consistent => exact hkept.1
  case pendingOrders => exact hkept.2
  case errorTimestamps => exact h.errorTimestamps
  case effectiveMaxPositions => exact h.effectiveMaxPositions
  case effectiveVarLimit => exact h.effectiveVarLimit
  case copied => exact h.copied
  case cachedDynamicWeights => exact h.cachedDynamicWeights
  case recomputeCount => exact h.recomputeCount

end Components

/-- Engines of a symbol in two backtests: equal up to counters and the time of the last
checkpoint. -/
structure SymbolEngines.Twin (engines engines' : SymbolEngines) : Prop where
  stratSma : engines'.stratSma = engines.stratSma
  stratMr : engines'.stratMr = engines.stratMr
  execution : engines.execution.Counted engines'.execution

namespace EventLoop

variable (sqrt : Double → Double) {t c c' c₁ : Components}
  {engines engines' engines₁ : SymbolEngines} {candle : MarketCandle}

/-- The shared objects with the regime of a candle. -/
def detected (c : Components) (candle : MarketCandle) : Components :=
  { c with regime := c.regime.update candle.high candle.low candle.close }

/-- The arguments of the `execute` call for a candle. -/
def signalArgs (c : Components) (engines : SymbolEngines) (candle : MarketCandle) :
    ExecuteArgs :=
  let smaSignal := (engines.stratSma.generateSignal candle).1
  let mrSignal := (engines.stratMr.generateSignal sqrt candle).1
  let allocation := c.allocator.ensemble c.regime.regime [smaSignal, mrSignal]
  { signal := allocation.action
    marketPrice := candle.close
    timestamp := candle.epochTimestamp
    strategyId :=
      if allocation.dominantStrategyId = "" then "ENSEMBLE" else allocation.dominantStrategyId
    atr := (engines.stratSma.generateSignal candle).2.atr }

/-- The risk engine after the observations of a candle. -/
def observed (risk : RiskMonitor) (portfolio : PortfolioManager) (candle : MarketCandle) :
    RiskMonitor :=
  let risk := risk.withEngine (risk.setTotalDrawdown portfolio.getCurrentDrawdown)
  let risk := risk.pushAssetReturn sqrt portfolio.getTotalEquity candle.symbol candle.close
    (portfolio.getPositionQuantity candle.symbol * candle.close)
  risk.pushEquityReturn sqrt portfolio.getTotalEquity

variable {sqrt}

/-- What a candle does, when nothing rests in the queue. -/
theorem trade_eq_ok (hqueue : c.portfolio.pendingOrders = []) :
    trade sqrt c engines candle = .ok (c₁, engines₁) ↔
      ∃ c₂ execution portfolio,
        (detected c candle).execute engines.execution
          (signalArgs sqrt (detected c candle) engines candle) = .ok (c₂, execution) ∧
        c₂.portfolio.updatePnL candle.symbol candle.close = .ok portfolio ∧
        c₁ = { c₂ with
          portfolio := portfolio
          risk := observed sqrt c₂.risk portfolio candle } ∧
        engines₁ = { engines with
          stratSma := (engines.stratSma.generateSignal candle).2
          stratMr := (engines.stratMr.generateSignal sqrt candle).2
          execution := execution } := by
  unfold trade
  rw [Components.processPendingOrders_nil hqueue]
  simp only [bind_eq_ok, mapError_eq_ok, pure_eq_ok, Except.ok.injEq, Prod.mk.injEq]
  constructor
  · rintro ⟨_, rfl, ⟨c₂, execution⟩, hexecute, portfolio, hmark, hc₁, hengines₁⟩
    exact ⟨c₂, execution, portfolio, hexecute, hmark, hc₁.symm, hengines₁.symm⟩
  · rintro ⟨c₂, execution, portfolio, hexecute, hmark, rfl, rfl⟩
    exact ⟨_, rfl, (c₂, execution), hexecute, portfolio, hmark, rfl, rfl⟩

/-- What observing a candle changes of a risk engine. -/
theorem observed_frame (risk : RiskMonitor) (portfolio : PortfolioManager)
    (candle : MarketCandle) :
    let risk' := observed sqrt risk portfolio candle
    risk.Configured risk' ∧ risk'.errorTimestamps = risk.errorTimestamps ∧
      risk'.effectiveMaxPositions = risk.effectiveMaxPositions ∧
      risk'.effectiveVarLimit = risk.effectiveVarLimit := by
  unfold observed
  dsimp only
  obtain ⟨_, _, _, hequity⟩ := RiskMonitor.pushEquityReturn_frame sqrt
    ((risk.withEngine (risk.setTotalDrawdown portfolio.getCurrentDrawdown)).pushAssetReturn sqrt
      portfolio.getTotalEquity candle.symbol candle.close
        (portfolio.getPositionQuantity candle.symbol * candle.close)) portfolio.getTotalEquity
  obtain ⟨_, _, _, _, _, hasset⟩ := RiskMonitor.pushAssetReturn_frame sqrt
    (risk.withEngine (risk.setTotalDrawdown portfolio.getCurrentDrawdown))
    portfolio.getTotalEquity candle.symbol candle.close
      (portfolio.getPositionQuantity candle.symbol * candle.close)
  rw [hequity, hasset]
  exact ⟨⟨rfl, rfl, rfl, rfl⟩, rfl, rfl, rfl⟩

/-- Detecting the regime of a candle keeps it too. -/
theorem kept_detected (h : Components.Kept t c) (candle : MarketCandle) :
    Components.Kept t (detected c candle) := by
  obtain ⟨hrisk, hregime, hallocator⟩ := h.configured
  obtain ⟨hperiod, hwindow, hthreshold, htrend, hrange⟩ := hregime
  exact ⟨⟨hrisk, ⟨hperiod, hwindow, hthreshold, htrend, hrange⟩, hallocator⟩, h.consistent,
    h.pendingOrders, h.errorTimestamps, h.effectiveMaxPositions, h.effectiveVarLimit,
    ⟨rfl, rfl, rfl⟩, h.cachedDynamicWeights, h.recomputeCount⟩

/-- A candle keeps what candles keep, and the engines up to what they count. -/
theorem kept_trade (h : Components.Kept t c) (hunbound : engines.execution.bound = false)
    (hok : trade sqrt c engines candle = .ok (c₁, engines₁)) :
    Components.Kept t c₁ ∧ engines.execution.Counted engines₁.execution ∧
      engines₁.stratSma = (engines.stratSma.generateSignal candle).2 ∧
      engines₁.stratMr = (engines.stratMr.generateSignal sqrt candle).2 := by
  obtain ⟨c₂, execution, portfolio, hexecute, hmark, rfl, rfl⟩ :=
    (trade_eq_ok h.pendingOrders).mp hok
  have hdetected := kept_detected h candle
  have hdone := Components.executed hunbound (detected c candle)
    (signalArgs sqrt (detected c candle) engines candle)
  rw [hexecute] at hdone
  have hkept := hdetected.executed hdone
  obtain ⟨hcounted, -⟩ := hdone.changes
  obtain ⟨hconsistent, hqueue⟩ := hkept.consistent.call
    (c := .updatePnL candle.symbol candle.close) hmark
  obtain ⟨hrisk, herrors, hmax, hlimit⟩ := @observed_frame sqrt c₂.risk portfolio candle
  refine ⟨?_, hcounted, rfl, rfl⟩
  constructor
  case configured =>
    obtain ⟨hmax', hlimit', hwindow', hconfig'⟩ := hkept.configured.risk
    refine ⟨⟨?_, ?_, ?_, ?_⟩, hkept.configured.regime, hkept.configured.allocator⟩
    · exact hmax'.trans hrisk.maxConcurrentPositions.symm
    · exact hlimit'.trans hrisk.varLimitFraction.symm
    · exact hwindow'.trans hrisk.varWindow.symm
    · exact hconfig'.trans hrisk.sysCfg.symm
  case consistent => exact hconsistent
  case pendingOrders => exact hqueue.trans hkept.pendingOrders
  case errorTimestamps => exact herrors.trans hkept.errorTimestamps
  case effectiveMaxPositions =>
    exact hmax.trans (hkept.effectiveMaxPositions.trans hrisk.maxConcurrentPositions.symm)
  case effectiveVarLimit =>
    exact hlimit.trans (hkept.effectiveVarLimit.trans hrisk.varLimitFraction.symm)
  case copied => exact hkept.copied
  case cachedDynamicWeights => exact hkept.cachedDynamicWeights
  case recomputeCount => exact hkept.recomputeCount

/-- Risk engines that agree agree after a candle. -/
theorem alike_observed {risk risk' : RiskMonitor} (h : risk'.Alike risk)
    {portfolio portfolio' : PortfolioManager} (hportfolio : portfolio'.Same portfolio)
    (candle : MarketCandle) :
    (observed sqrt risk' portfolio' candle).Alike (observed sqrt risk portfolio candle) := by
  unfold observed
  rw [hportfolio.getCurrentDrawdown, hportfolio.getTotalEquity, hportfolio.getPositionQuantity]
  exact ((h.setTotalDrawdown _).pushAssetReturn sqrt _ _ _ _).pushEquityReturn sqrt _

/-- **Candles in backtests that agree.** -/
theorem alike_trade (h : c'.Alike c) (htwin : engines.Twin engines')
    (hkept : Components.Kept t c) (hunbound : engines.execution.bound = false)
    (hok : trade sqrt c engines candle = .ok (c₁, engines₁))
    (haddable : PortfolioManager.Addable c₁.portfolio.positions) :
    ∃ c₁' engines₁', trade sqrt c' engines' candle = .ok (c₁', engines₁') ∧ c₁'.Alike c₁ ∧
      engines₁.Twin engines₁' := by
  obtain ⟨c₂, execution, portfolio, hexecute, hmark, rfl, rfl⟩ :=
    (trade_eq_ok hkept.pendingOrders).mp hok
  have hdetected : (detected c' candle).Alike (detected c candle) := by
    refine ⟨h.portfolio, h.risk, ?_, h.allocator⟩
    rw [detected, detected, h.regime]
  have hargs : signalArgs sqrt (detected c' candle) engines' candle =
      signalArgs sqrt (detected c candle) engines candle := by
    simp only [signalArgs, htwin.stratSma, htwin.stratMr, hdetected.allocator.ensemble,
      hdetected.regime]
  have hdone := Components.executed hunbound (detected c candle)
    (signalArgs sqrt (detected c candle) engines candle)
  rw [hexecute] at hdone
  have hkept₂ := (kept_detected hkept candle).executed hdone
  obtain ⟨hconsistent, -⟩ := hkept₂.consistent.call
    (c := .updatePnL candle.symbol candle.close) hmark
  have haddable₂ := PortfolioManager.addable_updatePnL hmark haddable
  obtain ⟨c₂', execution', hexecute', halike, hcounted⟩ :=
    hdetected.execute htwin.execution hunbound hexecute hkept₂.consistent.valued haddable₂
  obtain ⟨portfolio', hmark', hportfolio⟩ :=
    halike.portfolio.updatePnL hconsistent.valued haddable hmark
  have hqueue : c'.portfolio.pendingOrders = [] := by
    rw [h.portfolio.eq]
    exact hkept.pendingOrders
  rw [← hargs] at hexecute'
  refine ⟨_, _, (trade_eq_ok hqueue).mpr
    ⟨c₂', execution', portfolio', hexecute', hmark', rfl, rfl⟩, ?_, ?_⟩
  · exact ⟨hportfolio, alike_observed halike.risk hportfolio candle, halike.regime,
      halike.allocator⟩
  · refine ⟨?_, ?_, hcounted⟩
    · dsimp only
      rw [htwin.stratSma]
    · dsimp only
      rw [htwin.stratMr]

end EventLoop

end TradeBot
