import TradeBot.Backtest.Portfolios
import TradeBot.EventLoop

/-!
# Backtests that differ in the order of their maps

The calls of an event loop respect agreement of the shared objects: equal fields, and maps
with the same lookups. The counters of an execution engine decide nothing.
-/

namespace TradeBot

open Library Financial

namespace PortfolioManager

variable {pm pm' : PortfolioManager}

/-- Portfolios that agree have positions for the same symbols. -/
theorem Same.hasPosition (h : pm'.Same pm) (symbol : String) :
    pm'.hasPosition symbol = pm.hasPosition symbol := by
  unfold PortfolioManager.hasPosition
  rw [decide_eq_decide]
  exact KeyedMap.mem_iff_of_lookup h.2 symbol

/-- Portfolios that agree have as many open positions. -/
theorem Same.getOpenPositionCount (h : pm'.Same pm) :
    pm'.getOpenPositionCount = pm.getOpenPositionCount := by
  have hperm := (KeyedMap.perm_of_lookup h.2).map Sigma.fst
  exact hperm.length_eq

/-- Portfolios that agree hold the same quantity of each symbol. -/
theorem Same.getPositionQuantity (h : pm'.Same pm) (symbol : String) :
    pm'.getPositionQuantity symbol = pm.getPositionQuantity symbol := by
  unfold PortfolioManager.getPositionQuantity
  rw [h.2]

/-- Portfolios that agree have the same cash. -/
theorem Same.getCashBalance (h : pm'.Same pm) : pm'.getCashBalance = pm.getCashBalance := by
  rw [h.eq]
  rfl

/-- Portfolios that agree have the same equity. -/
theorem Same.getTotalEquity (h : pm'.Same pm) : pm'.getTotalEquity = pm.getTotalEquity := by
  rw [h.eq]
  rfl

/-- Portfolios that agree have the same drawdown. -/
theorem Same.getCurrentDrawdown (h : pm'.Same pm) :
    pm'.getCurrentDrawdown = pm.getCurrentDrawdown := by
  rw [h.eq]
  rfl

/-- Portfolios that agree have the same trade log. -/
theorem Same.tradeLog (h : pm'.Same pm) : pm'.tradeLog = pm.tradeLog := by
  rw [h.eq]

end PortfolioManager

namespace RiskMonitor

/-- Two risk engines are equal in every field; their maps may list their entries in another
order. -/
structure Alike (r' r : RiskMonitor) : Prop where
  eq : r' = { r with
    syncedPositions := r'.syncedPositions
    assetStates := r'.assetStates }
  syncedPositions : ∀ symbol, r'.syncedPositions.lookup symbol = r.syncedPositions.lookup symbol
  assetStates : ∀ symbol, r'.assetStates.lookup symbol = r.assetStates.lookup symbol

variable {r r' : RiskMonitor}

/-- Risk engines that agree are the same at every time: neither counts an error that the other does
not. -/
theorem Alike.same (h : r'.Alike r) (now : ℕ) : r'.Same now r where
  fields := by
    rw [h.eq]
  syncedPositions := h.syncedPositions
  assetStates := h.assetStates
  errorRate := by
    rw [h.eq]
    rfl

/-- Risk engines that agree give portfolios that agree the same permission to trade. -/
theorem Alike.canTrade (h : r'.Alike r) {pm pm' : PortfolioManager} (hpm : pm'.Same pm) :
    r'.toRiskEngine.canTrade pm' = r.toRiskEngine.canTrade pm := by
  rw [h.eq]
  unfold RiskEngine.canTrade
  rw [hpm.getOpenPositionCount, hpm.getTotalEquity]
  rfl

/-- Risk engines that agree take in a drawdown alike. -/
theorem Alike.setTotalDrawdown (h : r'.Alike r) (drawdown : Double) :
    (r'.withEngine (r'.setTotalDrawdown drawdown)).Alike
      (r.withEngine (r.setTotalDrawdown drawdown)) := by
  refine ⟨?_, h.syncedPositions, h.assetStates⟩
  rw [h.eq]
  rfl

section Returns

variable (sqrt : Double → Double)

/-- A return of the equity is taken in without a look at the maps. -/
theorem pushEquityReturn_maps (r : RiskMonitor) (synced : KeyedMap String Double)
    (assets : KeyedMap String AssetReturnState) (equity : Double) :
    ({ r with syncedPositions := synced, assetStates := assets }).pushEquityReturn sqrt equity =
      { r.pushEquityReturn sqrt equity with syncedPositions := synced, assetStates := assets } := by
  unfold pushEquityReturn
  dsimp only
  split
  · split <;> rfl
  · rfl

/-- A return of the equity leaves the synchronised positions. -/
theorem syncedPositions_pushEquityReturn (r : RiskMonitor) (equity : Double) :
    (r.pushEquityReturn sqrt equity).syncedPositions = r.syncedPositions := by
  unfold pushEquityReturn
  dsimp only
  split
  · split <;> rfl
  · rfl

/-- Risk engines that agree take in a return of the equity alike. -/
theorem Alike.pushEquityReturn (h : r'.Alike r) (equity : Double) :
    (r'.pushEquityReturn sqrt equity).Alike (r.pushEquityReturn sqrt equity) := by
  refine ⟨?_, ?_, ?_⟩
  · rw [syncedPositions_pushEquityReturn, assetStates_pushEquityReturn,
      ← pushEquityReturn_maps, ← h.eq]
  · rw [syncedPositions_pushEquityReturn, syncedPositions_pushEquityReturn]
    exact h.syncedPositions
  · rw [assetStates_pushEquityReturn, assetStates_pushEquityReturn]
    exact h.assetStates

/-- Risk engines that agree have observed the same assets, in the order of the symbols. -/
theorem Alike.observedAssets (h : r'.Alike r) : r'.observedAssets = r.observedAssets := by
  apply KeyedMap.insertionSort_eq_of_perm
  exact ((KeyedMap.perm_of_lookup h.assetStates).filter _).map Sigma.fst

/-- Risk engines that agree have the same windows of returns. -/
theorem Alike.assetReturns (h : r'.Alike r) : r'.assetReturns = r.assetReturns := by
  funext symbol
  rw [RiskMonitor.assetReturns, h.assetStates]
  rfl

/-- Risk engines that agree rebuild the same covariance matrix. -/
theorem Alike.rebuildCovMatrix (h : r'.Alike r) :
    r'.rebuildCovMatrix.Alike r.rebuildCovMatrix := by
  have horder := h.observedAssets
  have hreturns := h.assetReturns
  unfold RiskMonitor.rebuildCovMatrix
  rw [horder, hreturns]
  dsimp only
  split
  · refine ⟨?_, h.syncedPositions, h.assetStates⟩
    rw [h.eq]
  · refine ⟨?_, h.syncedPositions, h.assetStates⟩
    rw [h.eq]

/-- Risk engines that agree update the diversified value at risk alike. -/
theorem Alike.updateDiversifiedVaR (h : r'.Alike r) (equity : Double) :
    (r'.updateDiversifiedVaR sqrt equity).Alike (r.updateDiversifiedVaR sqrt equity) := by
  have horder : r'.assetOrder = r.assetOrder := by rw [h.eq]
  have hmatrix : r'.covMatrix = r.covMatrix := by rw [h.eq]
  unfold RiskMonitor.updateDiversifiedVaR
  simp only [horder, hmatrix, h.assetStates]
  split
  · exact h
  · refine ⟨?_, h.syncedPositions, h.assetStates⟩
    rw [h.eq]

/-- Risk engines that agree make the same asset state of an observation. -/
theorem Alike.observe (h : r'.Alike r) (symbol : String) (closingPrice positionValue : Double) :
    r'.observe symbol closingPrice positionValue = r.observe symbol closingPrice positionValue := by
  have hwindow : r'.varWindow = r.varWindow := by rw [h.eq]
  unfold RiskMonitor.observe
  rw [h.assetStates, hwindow]

/-- Risk engines that agree take in a return of an asset alike. -/
theorem Alike.pushAssetReturn (h : r'.Alike r) (equity : Double) (symbol : String)
    (closingPrice positionValue : Double) :
    (r'.pushAssetReturn sqrt equity symbol closingPrice positionValue).Alike
      (r.pushAssetReturn sqrt equity symbol closingPrice positionValue) := by
  have hobserved : ({ r' with
      multiAssetMode := true
      assetStates := r'.assetStates.insert symbol
        (r'.observe symbol closingPrice positionValue) }).Alike { r with
      multiAssetMode := true
      assetStates := r.assetStates.insert symbol
        (r.observe symbol closingPrice positionValue) } := by
    rw [h.observe]
    refine ⟨?_, h.syncedPositions, KeyedMap.lookup_insert_congr h.assetStates symbol _⟩
    rw [h.eq]
  unfold RiskMonitor.pushAssetReturn
  dsimp only
  split
  · exact hobserved.rebuildCovMatrix.updateDiversifiedVaR sqrt equity
  · exact hobserved.rebuildCovMatrix

end Returns

end RiskMonitor

namespace PortfolioAllocator

variable {a a' : PortfolioAllocator}

/-- Allocators that agree differ in the order of the strategies only. -/
theorem Same.eq (h : a'.Same a) : a' = { a with phiStates := a'.phiStates } := by
  rw [← h.fields]

/-- Allocators that agree weigh every signal alike. -/
theorem Same.signalWeight (h : a'.Same a) : a'.signalWeight = a.signalWeight := by
  have hphi (strategyId : String) : a'.getPhi strategyId = a.getPhi strategyId := by
    rw [getPhi, h.phiStates]
    rfl
  have hcached : a'.cachedDynamicWeights = a.cachedDynamicWeights := by rw [h.eq]
  have hattached : a'.attached = a.attached := by rw [h.eq]
  have hweights : a'.weights = a.weights := by rw [h.eq]
  funext regime signal
  unfold PortfolioAllocator.signalWeight dynamicWeight
  rw [hphi, hcached, hattached, hweights]

/-- Allocators that agree decide alike on the same signals. -/
theorem Same.ensemble (h : a'.Same a) (detected : MarketRegime) (signals : List AlphaSignal) :
    a'.ensemble detected signals = a.ensemble detected signals := by
  have hattached : a'.attached = a.attached := by rw [h.eq]
  have hlong : a'.longThreshold = a.longThreshold := by rw [h.eq]
  have hshort : a'.shortThreshold = a.shortThreshold := by rw [h.eq]
  unfold PortfolioAllocator.ensemble
  rw [h.signalWeight, hattached, hlong, hshort]

/-- Allocators that agree take in a closed trade alike. -/
theorem Same.onTrade (h : a'.Same a) (entry : TradeLogEntry) :
    (a'.onTrade entry).Same (a.onTrade entry) := by
  unfold PortfolioAllocator.onTrade
  split
  · unfold onTradeClosed
    rw [h.phiStates]
    refine ⟨?_, KeyedMap.lookup_insert_congr h.phiStates _ _⟩
    dsimp only
    rw [← h.fields]
  · exact h

end PortfolioAllocator

end TradeBot
