import TradeBot.ExecutionEngine
import TradeBot.RegimeDetector

/-!
# The portfolio allocator

`PortfolioAllocator.cpp`: the signals of the strategies of a symbol are weighed by the
regime and by the rolling performance of each strategy, and their sum decides. A
checkpoint holds the performance only.
-/

namespace TradeBot

open Library

/-- `AlphaSignal` -/
structure AlphaSignal where
  symbol : String
  strategyId : String
  conviction : Double
  deriving DecidableEq

/-- `AllocationResult` -/
structure AllocationResult where
  symbol : String := ""
  action : Signal := .none
  totalConviction : Double := 0
  dominantStrategyId : String := ""
  regime : MarketRegime := .chaos
  deriving DecidableEq

/-- `PhiState` -/
structure PhiState where
  strategyId : String := ""
  pnlWindow : List Double := []
  phi : Double := 0
  deriving DecidableEq

/-- The state of `PortfolioAllocator`. Whether a regime detector is attached is a field; its
regime is an argument where the source reads it. -/
structure PortfolioAllocator where
  longThreshold : Double := .finite (3 / 10)
  shortThreshold : Double := .finite (3 / 10)
  attached : Bool := false
  weights : KeyedMap String Double := ∅
  phiStates : KeyedMap String PhiState := ∅
  cachedDynamicWeights : KeyedMap String Double := ∅
  recomputeCount : ℕ := 0

namespace PortfolioAllocator

/-- `LAMBDA_REGIME` -/
def lambdaRegime : Double := .finite (7 / 10)

/-- `LAMBDA_PERF` -/
def lambdaPerf : Double := .finite (3 / 10)

/-- `PHI_WINDOW` -/
def phiWindow : ℕ := 20

/-- `setWeight` -/
def setWeight (allocator : PortfolioAllocator) (strategyId : String) (weight : Double) :
    PortfolioAllocator :=
  { allocator with weights := allocator.weights.insert strategyId weight }

/-- `recomputePhi`: the score of a window of trade results. -/
def recomputePhi (pnlWindow : List Double) : Double :=
  if pnlWindow = [] then 0
  else
    let grossProfit := Double.sum (pnlWindow.filter fun pnl => decide (0 ≤ pnl))
    let grossLoss := Double.sum ((pnlWindow.filter fun pnl => !decide (0 ≤ pnl)).map Double.abs)
    let pf :=
      if grossLoss.eq 0 then if 0 < grossProfit then .finite 10 else .finite 1
      else grossProfit / grossLoss
    Double.max (.finite (-1)) (Double.min (.finite 1) ((pf - .finite 1) / .finite 2))

/-- `onTradeClosed` -/
def onTradeClosed (allocator : PortfolioAllocator) (strategyId : String) (realizedPnL : Double) :
    PortfolioAllocator :=
  let ps := (allocator.phiStates.lookup strategyId).getD {}
  let window := pushWindow phiWindow ps.pnlWindow realizedPnL
  { allocator with phiStates := allocator.phiStates.insert strategyId {
      strategyId := if ps.strategyId = "" then strategyId else ps.strategyId
      pnlWindow := window
      phi := recomputePhi window } }

/-- `getPhi` -/
def getPhi (allocator : PortfolioAllocator) (strategyId : String) : Double :=
  (allocator.phiStates.lookup strategyId).elim 0 (·.phi)

/-- The weight of a strategy by its affinity to the regime and its performance. -/
def dynamicWeight (allocator : PortfolioAllocator) (strategyId : String) (regime : MarketRegime) :
    Double :=
  lambdaRegime * RegimeDetector.affinity strategyId regime +
    lambdaPerf * allocator.getPhi strategyId

/-- The strategies that `recomputeWeights` knows. -/
def knownStrategies (allocator : PortfolioAllocator) : List String :=
  let seen := (allocator.weights.keys ++ allocator.phiStates.keys).dedup
  if seen = [] then ["SMA_01", "MR_01"] else seen

/-- `recomputeWeights` -/
def recomputeWeights (allocator : PortfolioAllocator) (regime : MarketRegime) :
    PortfolioAllocator :=
  let weights := allocator.knownStrategies.map fun strategyId =>
    (strategyId, allocator.dynamicWeight strategyId regime)
  let sumAbs := Double.sum (weights.map fun e => e.2.abs)
  let normalised :=
    if .finite 1 < sumAbs then weights.map fun e => (e.1, e.2 / sumAbs) else weights
  { allocator with
    cachedDynamicWeights := normalised.foldl (fun cache e => cache.insert e.1 e.2) ∅
    recomputeCount := (allocator.recomputeCount + 1) % 2 ^ 64 }

/-- `restorePhiStates` -/
def restorePhiStates (allocator : PortfolioAllocator) (states : KeyedMap String PhiState) :
    PortfolioAllocator :=
  { allocator with phiStates := states }

/-- The weight that `ensemble` gives to a signal. -/
def signalWeight (allocator : PortfolioAllocator) (regime : MarketRegime) (signal : AlphaSignal) :
    Double :=
  if allocator.attached then
    (allocator.cachedDynamicWeights.lookup signal.strategyId).getD
      (allocator.dynamicWeight signal.strategyId regime)
  else (allocator.weights.lookup signal.strategyId).getD (.finite 1)

/-- The signal with the greatest weighted conviction, the first one of equals. -/
def dominant : List (Double × AlphaSignal) → Double → String → String
  | [], _, strategyId => strategyId
  | (weight, signal) :: signals, best, strategyId =>
    let weighted := (weight * signal.conviction).abs
    if best < weighted then dominant signals weighted signal.strategyId
    else dominant signals best strategyId

/-- `ensemble`, with the regime of the attached detector. -/
def ensemble (allocator : PortfolioAllocator) (detected : MarketRegime)
    (signals : List AlphaSignal) : AllocationResult :=
  match signals with
  | [] => {}
  | first :: _ =>
    let regime := if allocator.attached then detected else .chaos
    let weights := signals.map (allocator.signalWeight regime)
    let sumAbs := Double.sum (weights.map Double.abs)
    let normalised :=
      if allocator.attached ∧ .finite 1 < sumAbs then weights.map (· / sumAbs) else weights
    let weighted := normalised.zip signals
    let conviction := Double.sum (weighted.map fun (weight, signal) => weight * signal.conviction)
    { symbol := first.symbol
      action :=
        if allocator.longThreshold ≤ conviction then .buy
        else if conviction ≤ allocator.shortThreshold.neg then .sell
        else .none
      totalConviction := conviction
      dominantStrategyId := dominant weighted (.finite (-1)) ""
      regime := regime }

end PortfolioAllocator

end TradeBot
