import TradeBot.Risk.Frames
import TradeBot.Checkpoint.Portfolios

/-!
# The components of a running system

The states of the four components that a checkpoint saves, as calls make them. The results
of floating-point operations are left open: after any call the numbers of a component may
be replaced by others, as rounding does, and only what does not depend on them is kept.
-/

namespace TradeBot

open Library

namespace PortfolioManager

/-- A portfolio that calls have made from a fresh one, with whatever drawdowns the
floating-point division gave. -/
def Held (pm : PortfolioManager) : Prop :=
  ∃ inputs currentDrawdown maxDrawdown, pm = { trading.run fresh inputs with
    currentDrawdown := currentDrawdown
    maxDrawdown := maxDrawdown }

/-- The drawdowns aside, a held portfolio is consistent. -/
theorem Held.consistent {pm : PortfolioManager} (h : pm.Held) :
    ∃ exact : PortfolioManager, exact.Consistent ∧ ∃ currentDrawdown maxDrawdown,
      pm = { exact with
        currentDrawdown := currentDrawdown
        maxDrawdown := maxDrawdown } := by
  obtain ⟨inputs, currentDrawdown, maxDrawdown, hpm⟩ := h
  refine ⟨trading.run fresh inputs, ?_, currentDrawdown, maxDrawdown, hpm⟩
  exact Machine.invariant_run (I := Consistent) (fun pm i hpm => hpm.step i) consistent_fresh inputs

end PortfolioManager

namespace RiskMonitor

/-- The state of a symbol with other numbers. -/
structure AssetRounded (a a' : AssetReturnState) : Prop where
  symbol : a'.symbol = a.symbol
  returnWindow : a'.returnWindow.length = a.returnWindow.length
  prevPriceValid : a'.prevPriceValid = a.prevPriceValid

/-- A risk engine with other numbers. -/
structure Rounded (r r' : RiskMonitor) : Prop where
  maxConcurrentPositions : r'.maxConcurrentPositions = r.maxConcurrentPositions
  varLimitFraction : r'.varLimitFraction = r.varLimitFraction
  varWindow : r'.varWindow = r.varWindow
  sysCfg : r'.sysCfg = r.sysCfg
  closeOnly : r'.closeOnly = r.closeOnly
  lastLatencyMs : r'.lastLatencyMs = r.lastLatencyMs
  halted : r'.halted = r.halted
  errorTimestamps : r'.errorTimestamps = r.errorTimestamps
  syncedPositions : ∀ symbol, symbol ∈ r'.syncedPositions ↔ symbol ∈ r.syncedPositions
  effectiveMaxPositions : r'.effectiveMaxPositions = r.effectiveMaxPositions
  volatilityScaled : r'.volatilityScaled = r.volatilityScaled
  prevEquityValid : r'.prevEquityValid = r.prevEquityValid
  returnWindow : r'.returnWindow.length = r.returnWindow.length
  assetStates : ∀ symbol, Option.Rel AssetRounded (r.assetStates.lookup symbol)
    (r'.assetStates.lookup symbol)
  covMatrix : r'.covMatrix.length = r.covMatrix.length
  assetOrder : r'.assetOrder = r.assetOrder
  multiAssetMode : r'.multiAssetMode = r.multiAssetMode

/-- The states of the risk engine. -/
inductive Reached : RiskMonitor → Prop
  | created (maxConcurrentPositions : ℕ) (varLimitFraction : Double) (varWindow : ℕ) :
    Reached (create maxConcurrentPositions varLimitFraction varWindow)
  | configured {r : RiskMonitor} (config : Option SystemConfig) (h : Reached r) :
    Reached (r.withEngine (r.toRiskEngine.setSystemConfig config))
  | called {r : RiskMonitor} (i : RiskEngine.Input) (h : Reached r) :
    Reached (r.withEngine (r.toRiskEngine.apply i))
  | reportedApiError {r : RiskMonitor} (now : ℕ) (h : Reached r) :
    Reached (r.withEngine (r.toRiskEngine.reportApiError now))
  | syncedPosition {r : RiskMonitor} (symbol : String) (quantity : Double) (h : Reached r) :
    Reached (r.withEngine (r.toRiskEngine.syncPosition symbol quantity))
  | pushedEquityReturn {r : RiskMonitor} (sqrt : Double → Double) (equity : Double)
    (h : Reached r) : Reached (r.pushEquityReturn sqrt equity)
  | pushedAssetReturn {r : RiskMonitor} (sqrt : Double → Double) (equity : Double)
    (symbol : String) (closingPrice positionValue : Double) (h : Reached r) :
    Reached (r.pushAssetReturn sqrt equity symbol closingPrice positionValue)
  | rounded {r r' : RiskMonitor} (h : Reached r) (hrounded : r.Rounded r') : Reached r'

/-- The state of each symbol names the symbol. -/
def Named (r : RiskMonitor) : Prop :=
  ∀ symbol a, r.assetStates.lookup symbol = some a → a.symbol = symbol

/-- Whether the states name their symbols depends on them alone. -/
theorem Named.congr {r r' : RiskMonitor} (h : r.Named) (heq : r'.assetStates = r.assetStates) :
    r'.Named := by
  intro symbol a ha
  rw [heq] at ha
  exact h symbol a ha

/-- The states of a reached risk engine name their symbols. -/
theorem Reached.named {r : RiskMonitor} (h : r.Reached) : r.Named := by
  induction h with
  | created => exact fun _ _ ha => by cases ha
  | configured _ _ ih => exact ih
  | called _ _ ih => exact ih
  | reportedApiError _ _ ih => exact ih
  | syncedPosition _ _ _ ih => exact ih
  | pushedEquityReturn sqrt equity _ ih =>
    exact ih.congr (assetStates_pushEquityReturn sqrt _ equity)
  | pushedAssetReturn sqrt equity symbol closingPrice positionValue _ ih =>
    intro key a ha
    rw [assetStates_pushAssetReturn] at ha
    by_cases hkey : key = symbol
    · rw [hkey, AList.lookup_insert, Option.some.injEq] at ha
      rw [hkey, ← ha]
      rfl
    · rw [AList.lookup_insert_ne hkey] at ha
      exact ih key a ha
  | rounded _ hrounded ih =>
    intro key a ha
    have hrel := hrounded.assetStates key
    rw [ha] at hrel
    generalize hold : AList.lookup key _ = old at hrel
    cases hrel with
    | some hasset => exact hasset.symbol.trans (ih key _ hold)

end RiskMonitor

namespace RegimeDetector

/-- A regime detector with other numbers, and perhaps another regime by them. -/
structure Rounded (d d' : RegimeDetector) : Prop where
  adxPeriod : d'.adxPeriod = d.adxPeriod
  varWindow : d'.varWindow = d.varWindow
  varThreshold : d'.varThreshold = d.varThreshold
  adxTrendAbove : d'.adxTrendAbove = d.adxTrendAbove
  adxRangeBelow : d'.adxRangeBelow = d.adxRangeBelow
  adxObservations : d'.state.adxObservations = d.state.adxObservations
  returnWindow : d'.state.returnWindow.length = d.state.returnWindow.length
  prevCloseValid : d'.state.prevCloseValid = d.state.prevCloseValid
  prevHLValid : d'.state.prevHLValid = d.state.prevHLValid
  regime : d'.regime = d'.state.regime
  adx : d'.adx = d'.state.adx
  variance : d'.variance = d'.state.variance

/-- The states of the regime detector. -/
inductive Reached : RegimeDetector → Prop
  | created (adxPeriod varWindow : ℤ) (varThreshold adxTrendAbove adxRangeBelow : Double) :
    Reached {
      adxPeriod := adxPeriod
      varWindow := varWindow
      varThreshold := varThreshold
      adxTrendAbove := adxTrendAbove
      adxRangeBelow := adxRangeBelow }
  | updated {d : RegimeDetector} (high low close : Double) (h : Reached d) :
    Reached (d.update high low close)
  | rounded {d d' : RegimeDetector} (h : Reached d) (hrounded : d.Rounded d') : Reached d'

/-- What the detector keeps beside its state is a copy of it. -/
structure Copied (d : RegimeDetector) : Prop where
  regime : d.regime = d.state.regime
  adx : d.adx = d.state.adx
  variance : d.variance = d.state.variance

/-- What a reached detector keeps beside its state is a copy of it. -/
theorem Reached.copied {d : RegimeDetector} (h : d.Reached) : d.Copied := by
  induction h with
  | created => exact ⟨rfl, rfl, rfl⟩
  | updated => exact ⟨rfl, rfl, rfl⟩
  | rounded _ hrounded _ => exact ⟨hrounded.regime, hrounded.adx, hrounded.variance⟩

end RegimeDetector

namespace PortfolioAllocator

/-- The performance of a strategy with other numbers. -/
structure PhiRounded (s s' : PhiState) : Prop where
  strategyId : s'.strategyId = s.strategyId
  pnlWindow : s'.pnlWindow.length = s.pnlWindow.length

/-- An allocator with other numbers. -/
structure Rounded (a a' : PortfolioAllocator) : Prop where
  longThreshold : a'.longThreshold = a.longThreshold
  shortThreshold : a'.shortThreshold = a.shortThreshold
  attached : a'.attached = a.attached
  weights : a'.weights = a.weights
  phiStates : ∀ strategyId, Option.Rel PhiRounded (a.phiStates.lookup strategyId)
    (a'.phiStates.lookup strategyId)
  cachedDynamicWeights : ∀ strategyId,
    strategyId ∈ a'.cachedDynamicWeights ↔ strategyId ∈ a.cachedDynamicWeights
  recomputeCount : a'.recomputeCount = a.recomputeCount

/-- The states of the allocator. -/
inductive Reached : PortfolioAllocator → Prop
  | created (longThreshold shortThreshold : Double) (attached : Bool) :
    Reached {
      longThreshold := longThreshold
      shortThreshold := shortThreshold
      attached := attached }
  | weighted {a : PortfolioAllocator} (strategyId : String) (weight : Double) (h : Reached a) :
    Reached (a.setWeight strategyId weight)
  | tradeClosed {a : PortfolioAllocator} (strategyId : String) (realizedPnL : Double)
    (h : Reached a) : Reached (a.onTradeClosed strategyId realizedPnL)
  | recomputed {a : PortfolioAllocator} (regime : MarketRegime) (h : Reached a) :
    Reached (a.recomputeWeights regime)
  | rounded {a a' : PortfolioAllocator} (h : Reached a) (hrounded : a.Rounded a') : Reached a'

/-- The performance of each strategy names the strategy. -/
def Named (a : PortfolioAllocator) : Prop :=
  ∀ strategyId s, a.phiStates.lookup strategyId = some s → s.strategyId = strategyId

/-- A closed trade is recorded under the name of its strategy. -/
theorem Named.tradeClosed {a : PortfolioAllocator} (h : a.Named) (strategyId : String)
    (realizedPnL : Double) : (a.onTradeClosed strategyId realizedPnL).Named := by
  intro key s hs
  simp only [onTradeClosed] at hs
  by_cases hkey : key = strategyId
  · rw [hkey, AList.lookup_insert, Option.some.injEq] at hs
    rw [← hs, hkey]
    dsimp only
    split
    · rfl
    · next hne =>
      cases hold : a.phiStates.lookup strategyId with
      | none =>
        rw [hold] at hne
        exact absurd rfl hne
      | some old => exact h strategyId old hold
  · rw [AList.lookup_insert_ne hkey] at hs
    exact h key s hs

/-- The performances of a reached allocator name their strategies. -/
theorem Reached.named {a : PortfolioAllocator} (h : a.Reached) : a.Named := by
  induction h with
  | created => exact fun _ _ hs => by cases hs
  | weighted _ _ _ ih => exact ih
  | tradeClosed strategyId realizedPnL _ ih => exact ih.tradeClosed strategyId realizedPnL
  | recomputed _ _ ih => exact ih
  | rounded _ hrounded ih =>
    intro key s hs
    have hrel := hrounded.phiStates key
    rw [hs] at hrel
    generalize hold : AList.lookup key _ = old at hrel
    cases hrel with
    | some hphi => exact hphi.strategyId.trans (ih key _ hold)

end PortfolioAllocator

end TradeBot
