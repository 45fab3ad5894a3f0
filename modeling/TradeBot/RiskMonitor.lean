import TradeBot.RiskEngine
import Mathlib.Data.List.Sort
import Mathlib.Data.String.Basic

/-!
# Return windows and snapshots of the risk engine

The rest of `RiskEngine.cpp`: the rolling windows of equity and asset returns, the
covariance matrix and the value at risk that they give, and the snapshot that a
checkpoint holds. The square root is that of the C library and is a parameter.
-/

namespace TradeBot

open Library

/-- A double of a count. -/
def Double.ofNat (n : ℕ) : Double := .finite n

/-- The operator `==`: a NaN is not equal to itself. -/
def Double.eq (a b : Double) : Bool := decide (a ≤ b) && decide (b ≤ a)

/-- The sum of a sequence of doubles from zero, as `std::accumulate` adds it up. -/
def Double.sum (values : List Double) : Double := values.foldl (· + ·) 0

/-- A rolling window after an observation: beyond its limit it loses the oldest one. -/
def pushWindow (limit : ℕ) (window : List Double) (value : Double) : List Double :=
  if limit < (window ++ [value]).length then (window ++ [value]).tail else window ++ [value]

/-- `AssetReturnState` -/
structure AssetReturnState where
  symbol : String := ""
  returnWindow : List Double := []
  prevPrice : Double := 0
  prevPriceValid : Bool := false
  positionValue : Double := 0
  deriving DecidableEq

/-- The whole state of the source's `RiskEngine`. -/
structure RiskMonitor extends RiskEngine where
  varWindow : ℕ := 252
  prevEquity : Double := 0
  prevEquityValid : Bool := false
  returnWindow : List Double := []
  returnStdDev : Double := 0
  assetStates : KeyedMap String AssetReturnState := ∅
  covMatrix : List Double := []
  assetOrder : List String := []
  multiAssetMode : Bool := false

namespace RiskMonitor

/-- The constructor. -/
def create (maxConcurrentPositions : ℕ := 2) (varLimitFraction : Double := .finite (1 / 20))
    (varWindow : ℕ := 252) : RiskMonitor where
  maxConcurrentPositions := maxConcurrentPositions
  varLimitFraction := varLimitFraction
  varWindow := varWindow

/-- A call of the execution path or a setter, on the part of the state that it concerns. -/
def withEngine (risk : RiskMonitor) (engine : RiskEngine) : RiskMonitor :=
  { risk with toRiskEngine := engine }

/-- `Z_95` -/
def z95 : Double := .finite (1645 / 1000)

section Returns

variable (sqrt : Double → Double)

/-- `pushEquityReturn` -/
def pushEquityReturn (risk : RiskMonitor) (currentEquity : Double) : RiskMonitor :=
  let pushed :=
    if risk.prevEquityValid ∧ 0 < risk.prevEquity then
      let window := pushWindow risk.varWindow risk.returnWindow
        ((currentEquity - risk.prevEquity) / risk.prevEquity)
      if 2 ≤ window.length then
        let n := Double.ofNat window.length
        let mean := Double.sum window / n
        let variance := Double.sum (window.map fun r => (r - mean) * (r - mean)) / n
        { risk with
          returnWindow := window
          returnStdDev := sqrt variance
          currentVaR95 := z95 * sqrt variance * currentEquity }
      else { risk with returnWindow := window }
    else risk
  { pushed with
    prevEquity := currentEquity
    prevEquityValid := true }

/-- The returns of a symbol of the covariance matrix. -/
def assetReturns (risk : RiskMonitor) (symbol : String) : List Double :=
  (risk.assetStates.lookup symbol).elim [] (·.returnWindow)

/-- The symbols with at least two returns, in their order. -/
def observedAssets (risk : RiskMonitor) : List String :=
  ((risk.assetStates.entries.filter fun e => decide (2 ≤ e.2.returnWindow.length)).map
    Sigma.fst).insertionSort (· ≤ ·)

/-- The population covariance of two windows of the same length. -/
def covariance (n : Double) (lhs rhs : List Double) : Double :=
  let lhsMean := Double.sum lhs / n
  let rhsMean := Double.sum rhs / n
  Double.sum (List.zipWith (fun x y => (x - lhsMean) * (y - rhsMean)) lhs rhs) / n

/-- `rebuildCovMatrix`: the covariances over the shared last part of the windows, row by row. -/
def rebuildCovMatrix (risk : RiskMonitor) : RiskMonitor :=
  let order := risk.observedAssets
  if order = [] then { risk with assetOrder := [], covMatrix := [] }
  else
    let windows := order.map risk.assetReturns
    let minLen := (windows.map List.length).foldl min (2 ^ 64 - 1)
    let shared := windows.map fun window => window.drop (window.length - minLen)
    { risk with
      assetOrder := order
      covMatrix := shared.flatMap fun lhs =>
        shared.map fun rhs => covariance (.ofNat minLen) lhs rhs }

/-- `updateDiversifiedVaR` -/
def updateDiversifiedVaR (risk : RiskMonitor) (totalEquity : Double) : RiskMonitor :=
  let count := risk.assetOrder.length
  if count = 0 ∨ risk.covMatrix = [] then risk
  else
    let weights := risk.assetOrder.map fun symbol =>
      (risk.assetStates.lookup symbol).elim 0 (·.positionValue) / totalEquity
    let terms := (List.range count).flatMap fun i => (List.range count).map fun j =>
      weights.getD i 0 * risk.covMatrix.getD (i * count + j) 0 * weights.getD j 0
    let varP := Double.sum terms
    let deviation := if 0 < varP then sqrt varP else 0
    { risk with
      returnStdDev := deviation
      currentVaR95 := z95 * deviation * totalEquity }

/-- The state of a symbol after an observation of its price. -/
def observe (risk : RiskMonitor) (symbol : String) (closingPrice positionValue : Double) :
    AssetReturnState :=
  let state := (risk.assetStates.lookup symbol).getD {}
  { symbol := symbol
    returnWindow :=
      if state.prevPriceValid ∧ 0 < state.prevPrice then
        pushWindow risk.varWindow state.returnWindow
          ((closingPrice - state.prevPrice) / state.prevPrice)
      else state.returnWindow
    prevPrice := closingPrice
    prevPriceValid := true
    positionValue := positionValue }

/-- `pushAssetReturn`, with the equity of the portfolio. -/
def pushAssetReturn (risk : RiskMonitor) (equity : Double) (symbol : String)
    (closingPrice positionValue : Double) : RiskMonitor :=
  let observed := rebuildCovMatrix { risk with
    multiAssetMode := true
    assetStates := risk.assetStates.insert symbol
      (risk.observe symbol closingPrice positionValue) }
  if 0 < equity then observed.updateDiversifiedVaR sqrt equity else observed

end Returns

/-- `currentErrorRate` at a clock reading. -/
def currentErrorRate (risk : RiskMonitor) (now : ℕ) : ℕ :=
  (risk.errorTimestamps.filter fun t => decide (now ≤ t + 60 * 10 ^ 9)).length % 2 ^ 32

/-- `Snapshot` -/
structure Snapshot where
  configuredMaxPositions : ℕ
  configuredVarLimit : Double
  configuredVarWindow : ℕ
  totalDrawdown : Double
  dailyDrawdown : Double
  prevEquity : Double
  prevEquityValid : Bool
  returnWindow : List Double
  currentVaR95 : Double
  returnStdDev : Double
  assetStates : KeyedMap String AssetReturnState
  covarianceMatrix : List Double
  assetOrder : List String
  multiAssetMode : Bool
  closeOnly : Bool
  lastLatencyMs : ℕ
  halted : Bool
  syncedPositions : KeyedMap String Double
  effectiveMaxPositions : ℕ
  effectiveVarLimit : Double
  volatilityScaled : Bool

/-- `snapshotState` -/
def snapshotState (risk : RiskMonitor) : Snapshot where
  configuredMaxPositions := risk.maxConcurrentPositions
  configuredVarLimit := risk.varLimitFraction
  configuredVarWindow := risk.varWindow
  totalDrawdown := risk.totalDrawdown
  dailyDrawdown := risk.dailyDrawdown
  prevEquity := risk.prevEquity
  prevEquityValid := risk.prevEquityValid
  returnWindow := risk.returnWindow
  currentVaR95 := risk.currentVaR95
  returnStdDev := risk.returnStdDev
  assetStates := risk.assetStates
  covarianceMatrix := risk.covMatrix
  assetOrder := risk.assetOrder
  multiAssetMode := risk.multiAssetMode
  closeOnly := risk.closeOnly
  lastLatencyMs := risk.lastLatencyMs
  halted := risk.halted
  syncedPositions := risk.syncedPositions
  effectiveMaxPositions := risk.effectiveMaxPositions
  effectiveVarLimit := risk.effectiveVarLimit
  volatilityScaled := risk.volatilityScaled

/-- `canRestoreSnapshot` -/
def canRestoreSnapshot (risk : RiskMonitor) (snapshot : Snapshot) : Except String Unit :=
  if snapshot.configuredMaxPositions ≠ risk.maxConcurrentPositions
      ∨ !snapshot.configuredVarLimit.eq risk.varLimitFraction
      ∨ snapshot.configuredVarWindow ≠ risk.varWindow then
    .error "snapshot risk configuration does not match runtime"
  else if risk.maxConcurrentPositions < snapshot.effectiveMaxPositions
      ∨ risk.varLimitFraction < snapshot.effectiveVarLimit then
    .error "snapshot would widen an effective risk limit"
  else .ok ()

/-- `restoreState` -/
def restoreState (risk : RiskMonitor) (snapshot : Snapshot) : RiskMonitor :=
  { risk with
    totalDrawdown := snapshot.totalDrawdown
    dailyDrawdown := snapshot.dailyDrawdown
    prevEquity := snapshot.prevEquity
    prevEquityValid := snapshot.prevEquityValid
    returnWindow := snapshot.returnWindow
    currentVaR95 := snapshot.currentVaR95
    returnStdDev := snapshot.returnStdDev
    assetStates := snapshot.assetStates
    covMatrix := snapshot.covarianceMatrix
    assetOrder := snapshot.assetOrder
    multiAssetMode := snapshot.multiAssetMode
    closeOnly := snapshot.closeOnly
    lastLatencyMs := snapshot.lastLatencyMs
    halted := snapshot.halted
    syncedPositions := snapshot.syncedPositions
    effectiveMaxPositions := snapshot.effectiveMaxPositions
    effectiveVarLimit := snapshot.effectiveVarLimit
    volatilityScaled := snapshot.volatilityScaled
    errorTimestamps := [] }

end RiskMonitor

end TradeBot
