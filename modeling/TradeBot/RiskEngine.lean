import TradeBot.PortfolioManager

/-!
# The risk engine

`RiskEngine.cpp` as far as trading depends on it: the gate `canTrade`, the latency
and error-rate circuit breakers, volatility scaling, and the positions that broker
fills synchronize. The value at risk that the gate reads is state here; how return
windows produce it is not part of this module.
-/

namespace TradeBot

open Library

variable [FloatFormat]

/-- `SystemMode` -/
inductive SystemMode where
  | backtest
  | paper
  | live
  deriving DecidableEq

/-- `SystemConfig`, and whether the build enables the LIVE runtime. -/
structure SystemConfig where
  mode : SystemMode := .backtest
  liveRuntimeUnlocked : Bool := false
  liveRuntimeBuildEnabled : Bool := false
  latencyMaxMs : ℕ := 500
  errorRateThresh : ℕ := 5
  atrScaleUpThreshold : Double := .finite (3 / 2)
  varScaleHighVolFactor : Double := .finite (1 / 2)

namespace SystemConfig

/-- `isLiveMode` -/
def isLiveMode (config : SystemConfig) : Bool := decide (config.mode = .live)

/-- `isPaperMode` -/
def isPaperMode (config : SystemConfig) : Bool := decide (config.mode = .paper)

/-- `canEnterLiveRuntime` -/
def canEnterLiveRuntime (config : SystemConfig) : Bool :=
  config.isLiveMode && config.liveRuntimeBuildEnabled && config.liveRuntimeUnlocked

end SystemConfig

/-- The state of `RiskEngine`. Times are steady-clock readings in nanoseconds. -/
structure RiskEngine where
  maxConcurrentPositions : ℕ := 2
  varLimitFraction : Double := .finite (1 / 20)
  totalDrawdown : Double := 0
  dailyDrawdown : Double := 0
  currentVaR95 : Double := 0
  sysCfg : Option SystemConfig := none
  closeOnly : Bool := false
  lastLatencyMs : ℕ := 0
  halted : Bool := false
  errorTimestamps : List ℕ := []
  syncedPositions : KeyedMap String Double := ∅
  effectiveMaxPositions : ℕ := 0
  effectiveVarLimit : Double := 0
  volatilityScaled : Bool := false

namespace RiskEngine

/-- `MAX_TOTAL_DRAWDOWN` -/
def maxTotalDrawdown : Double := .finite (1 / 10)

/-- `MAX_DAILY_DRAWDOWN` -/
def maxDailyDrawdown : Double := .finite (1 / 25)

/-- The position cap that `canTrade` uses. -/
def positionCap (risk : RiskEngine) : ℕ :=
  if 0 < risk.effectiveMaxPositions then risk.effectiveMaxPositions
  else risk.maxConcurrentPositions

/-- The limit on the value at risk that `canTrade` uses. -/
def varLimit (risk : RiskEngine) : Double :=
  if 0 < risk.effectiveVarLimit then risk.effectiveVarLimit else risk.varLimitFraction

/-- `canTrade` -/
def canTrade (risk : RiskEngine) (portfolio : PortfolioManager) : Bool :=
  if risk.halted then false
  else if risk.closeOnly then false
  else if maxTotalDrawdown ≤ risk.totalDrawdown then false
  else if maxDailyDrawdown ≤ risk.dailyDrawdown then false
  else if 0 < risk.positionCap ∧ risk.positionCap ≤ portfolio.getOpenPositionCount then false
  else if 0 < risk.varLimit ∧ 0 < risk.currentVaR95 ∧ 0 < portfolio.getTotalEquity
      ∧ portfolio.getTotalEquity * risk.varLimit < risk.currentVaR95 then false
  else true

/-- `getMaxConcurrentPositions` -/
def getMaxConcurrentPositions (risk : RiskEngine) : ℕ := risk.maxConcurrentPositions

/-- `setTotalDrawdown` -/
def setTotalDrawdown (risk : RiskEngine) (drawdown : Double) : RiskEngine :=
  { risk with totalDrawdown := drawdown }

/-- `setDailyDrawdown` -/
def setDailyDrawdown (risk : RiskEngine) (drawdown : Double) : RiskEngine :=
  { risk with dailyDrawdown := drawdown }

/-- `setSystemConfig` -/
def setSystemConfig (risk : RiskEngine) (config : Option SystemConfig) : RiskEngine :=
  { risk with
    sysCfg := config
    effectiveMaxPositions := risk.maxConcurrentPositions
    effectiveVarLimit := risk.varLimitFraction }

/-- `reportLatency` -/
def reportLatency (risk : RiskEngine) (latencyMs : ℕ) : RiskEngine :=
  let threshold := (risk.sysCfg.map (·.latencyMaxMs)).getD 500
  { risk with
    lastLatencyMs := latencyMs
    closeOnly := risk.closeOnly || decide (threshold < latencyMs) }

/-- The errors that `reportApiError` keeps: those of the last 60 seconds, from the
first that is not older. -/
def recentErrors (timestamps : List ℕ) (now : ℕ) : List ℕ :=
  timestamps.dropWhile fun t => decide (t + 60 * 10 ^ 9 < now)

/-- `reportApiError` at a clock reading. -/
def reportApiError (risk : RiskEngine) (now : ℕ) : RiskEngine :=
  let thresh := (risk.sysCfg.map (·.errorRateThresh)).getD 5
  let timestamps := recentErrors (risk.errorTimestamps ++ [now]) now
  let rate := timestamps.length % 2 ^ 32
  { risk with
    errorTimestamps := timestamps
    halted := risk.halted || decide (thresh < rate) }

/-- `clearHalt` -/
def clearHalt (risk : RiskEngine) : RiskEngine :=
  { risk with halted := false, errorTimestamps := [] }

/-- `setHaltTrading` -/
def setHaltTrading (risk : RiskEngine) (halt : Bool) : RiskEngine := { risk with halted := halt }

/-- `clearLatencyBreach` -/
def clearLatencyBreach (risk : RiskEngine) : RiskEngine := { risk with closeOnly := false }

/-- `updateLiveVolatility` -/
def updateLiveVolatility (risk : RiskEngine) (liveAtr baselineAtr : Double) : RiskEngine :=
  match risk.sysCfg with
  | none => risk
  | some config =>
    if baselineAtr ≤ 0 then risk
    else
      let ratio := liveAtr / baselineAtr
      if config.atrScaleUpThreshold < ratio ∧ risk.volatilityScaled = false then { risk with
        volatilityScaled := true
        effectiveMaxPositions := max 1 (risk.maxConcurrentPositions / 2)
        effectiveVarLimit := risk.varLimitFraction * config.varScaleHighVolFactor }
      else if ratio ≤ config.atrScaleUpThreshold ∧ risk.volatilityScaled = true then { risk with
        volatilityScaled := false
        effectiveMaxPositions := risk.maxConcurrentPositions
        effectiveVarLimit := risk.varLimitFraction }
      else risk

/-- `syncPosition` -/
def syncPosition (risk : RiskEngine) (symbol : String) (quantity : Double) : RiskEngine :=
  { risk with
    syncedPositions := if quantity ≤ 0 then risk.syncedPositions.erase symbol
      else risk.syncedPositions.insert symbol quantity }

/-- The calls on the risk engine that come from outside the execution path. -/
inductive Input where
  | setTotalDrawdown (drawdown : Double)
  | setDailyDrawdown (drawdown : Double)
  | setVaR95 (value : Double)
  | reportLatency (latencyMs : ℕ)
  | clearHalt
  | setHaltTrading (halt : Bool)
  | clearLatencyBreach
  | updateLiveVolatility (liveAtr baselineAtr : Double)

/-- The risk engine after such a call. -/
def apply (risk : RiskEngine) : Input → RiskEngine
  | .setTotalDrawdown drawdown => risk.setTotalDrawdown drawdown
  | .setDailyDrawdown drawdown => risk.setDailyDrawdown drawdown
  | .setVaR95 value => { risk with currentVaR95 := value }
  | .reportLatency latencyMs => risk.reportLatency latencyMs
  | .clearHalt => risk.clearHalt
  | .setHaltTrading halt => risk.setHaltTrading halt
  | .clearLatencyBreach => risk.clearLatencyBreach
  | .updateLiveVolatility liveAtr baselineAtr => risk.updateLiveVolatility liveAtr baselineAtr

end RiskEngine

end TradeBot
