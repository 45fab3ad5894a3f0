import TradeBot.Checkpoint.Values
import TradeBot.Library.StreamMerge
import TradeBot.Strategies

/-!
# The event loop and the multiplexer

`EventLoop.cpp` and the part of `main.cpp` that runs a backtest: one event loop for each
symbol handles the candles, which `main` takes from all streams in chronological order. A
loop writes a checkpoint when its interval has passed. A resumed run loads one, and only
warms the strategies up on candles that are not later than it. An exception ends the run.
What is printed and exported is left out.
-/

namespace TradeBot

open Library Financial StateSerializer

/-- What `AnalyticsEngine::recordTrade` tells the attached allocator. -/
def PortfolioAllocator.onTrade (allocator : PortfolioAllocator) (entry : TradeLogEntry) :
    PortfolioAllocator :=
  if entry.side = 'S' ∧ entry.strategyId ≠ "" then
    allocator.onTradeClosed entry.strategyId entry.realizedPnL
  else allocator

namespace Components

/-- The shared objects and the engine of a symbol, without a broker gateway. -/
def system (c : Components) (execution : ExecutionEngine) : System 1 where
  portfolio := c.portfolio
  risk := c.risk.toRiskEngine
  gateway := { config := {}, adapter := .deterministic }
  engines := fun _ => execution
  executionObservers := []
  reportsRejections := false
  analytics := {}
  clock := id

/-- The shared objects after a call on the engine of a symbol. -/
def afterCall (c : Components) (s : System 1) : Components :=
  { c with
    portfolio := s.portfolio
    risk := c.risk.withEngine s.risk
    allocator := s.analytics.trades.foldl PortfolioAllocator.onTrade c.allocator }

/-- `execute` of an engine that no broker gateway is bound to. -/
def execute (c : Components) (execution : ExecutionEngine) (args : ExecuteArgs) :
    Except String (Components × ExecutionEngine) :=
  match (c.system execution).beginExecute 0 args with
  | (_, .returned (.error e)) => .error e.what
  | (s, _) => .ok (c.afterCall s, s.engines 0)

/-- `processPendingOrders` of an engine that no broker gateway is bound to. -/
def processPendingOrders (c : Components) (execution : ExecutionEngine) (candle : MarketCandle) :
    Except String (Components × ExecutionEngine) :=
  match (c.system execution).processPendingOrders 0 candle with
  | (_, .error e) => .error e.what
  | (s, .ok _) => .ok (c.afterCall s, s.engines 0)

end Components

/-- `SymbolEngines`, with the time that its event loop has last checkpointed. -/
structure SymbolEngines where
  stratSma : SmaCrossStrategy
  stratMr : MeanReversionStrategy
  execution : ExecutionEngine
  lastCheckpointTs : ℕ := 0

/-- The objects that a backtest was started with: the constants of `main`. -/
structure Configuration where
  sysCfg : SystemConfig := {}
  maxConcurrentPositions : ℕ := 2
  varLimitFraction : Double := .finite (1 / 20)
  varWindow : ℕ := 252
  longThreshold : Double := .finite (3 / 10)
  shortThreshold : Double := .finite (3 / 10)
  weights : KeyedMap String Double :=
    ((∅ : KeyedMap String Double).insert "SMA_01" (.finite (6 / 10))).insert "MR_01"
      (.finite (4 / 10))
  adxPeriod : ℤ := 14
  regimeWindow : ℤ := 20
  varThreshold : Double := .finite (1 / 10 ^ 4)
  adxTrendAbove : Double := .finite 25
  adxRangeBelow : Double := .finite 20
  stratSma : SmaCrossStrategy := ⟨"SMA_01", 12, 26, [], 0, 0, false, [], 0, false, 0, false,
    by decide, by decide⟩
  stratMr : MeanReversionStrategy := {}
  feeRate : Rate := ⟨⟨100000⟩, by decide, by decide⟩
  slippage : Rate := ⟨⟨50000⟩, by decide, by decide⟩
  riskPct : Double := .finite (1 / 100)
  checkpointIntervalSec : ℕ := 86400

/-- The state of a backtest: the shared objects, the engines of each symbol, the clock
readings that are still to come, and the checkpoint file. -/
structure Backtest where
  components : Components
  engines : String → Option SymbolEngines
  clock : ℕ → ℕ
  file : Option Checkpoint

namespace EventLoop

/-- Whether an event loop writes a checkpoint: `uint64_t` arithmetic. -/
def checkpointDue (interval lastCheckpointTs timestamp : ℕ) : Bool :=
  decide (0 < interval) && decide (lastCheckpointTs ≠ 0) &&
    decide (interval ≤ (timestamp + 2 ^ 64 - lastCheckpointTs) % 2 ^ 64)

/-- `m_lastCheckpointTs` after a candle. -/
def nextCheckpointTs (interval lastCheckpointTs timestamp : ℕ) : ℕ :=
  if 0 < interval ∧ (lastCheckpointTs = 0 ∨
      checkpointDue interval lastCheckpointTs timestamp = true) then timestamp
  else lastCheckpointTs

variable (sqrt : Double → Double)

/-- `processCandle` up to the periodic checkpoint. -/
def trade (c : Components) (engines : SymbolEngines) (candle : MarketCandle) :
    Except String (Components × SymbolEngines) := do
  let (c, execution) ← c.processPendingOrders engines.execution candle
  let c := { c with regime := c.regime.update candle.high candle.low candle.close }
  let (smaSignal, stratSma) := engines.stratSma.generateSignal candle
  let (mrSignal, stratMr) := engines.stratMr.generateSignal sqrt candle
  let allocation := c.allocator.ensemble c.regime.regime [smaSignal, mrSignal]
  let (c, execution) ← c.execute execution {
    signal := allocation.action
    marketPrice := candle.close
    timestamp := candle.epochTimestamp
    strategyId :=
      if allocation.dominantStrategyId = "" then "ENSEMBLE" else allocation.dominantStrategyId
    atr := stratSma.atr }
  let portfolio ← (c.portfolio.updatePnL candle.symbol candle.close).mapError StdException.what
  let risk := c.risk.withEngine (c.risk.setTotalDrawdown portfolio.getCurrentDrawdown)
  let risk := risk.pushAssetReturn sqrt portfolio.getTotalEquity candle.symbol candle.close
    (portfolio.getPositionQuantity candle.symbol * candle.close)
  let risk := risk.pushEquityReturn sqrt portfolio.getTotalEquity
  return ({ c with portfolio := portfolio, risk := risk }, { engines with
    stratSma := stratSma
    stratMr := stratMr
    execution := execution })

end EventLoop

namespace Backtest

/-- The backtest with other engines of a symbol. -/
def setEngines (b : Backtest) (symbol : String) (engines : SymbolEngines) : Backtest :=
  { b with engines := Function.update b.engines symbol (some engines) }

/-- The checkpoint of the components is written. -/
def writeCheckpoint (b : Backtest) (timestamp : ℕ) : Except String Backtest := do
  let checkpoint ← (b.components.saveValues timestamp (b.clock 0)).mapError fun error =>
    "checkpoint failed: " ++ error
  return { b with
    clock := fun k => b.clock (k + 1)
    file := some checkpoint }

section Candles

variable (sqrt : Double → Double) (interval : ℕ)

/-- `processCandle` of the event loop of the candle's symbol. A candle without an engine is
dropped. -/
def processCandle (b : Backtest) (candle : MarketCandle) : Except String Backtest :=
  match b.engines candle.symbol with
  | none => .ok b
  | some engines => do
    let (c, traded) ← EventLoop.trade sqrt b.components engines candle
    let b := { b with components := c }.setEngines candle.symbol { traded with
      lastCheckpointTs := EventLoop.nextCheckpointTs interval engines.lastCheckpointTs
        candle.epochTimestamp }
    if EventLoop.checkpointDue interval engines.lastCheckpointTs candle.epochTimestamp then
      b.writeCheckpoint candle.epochTimestamp
    else return b

/-- The strategies of the candle's symbol see a candle that was traded before the checkpoint. -/
def warmUp (b : Backtest) (candle : MarketCandle) : Backtest :=
  match b.engines candle.symbol with
  | none => b
  | some engines => b.setEngines candle.symbol { engines with
      stratSma := (engines.stratSma.generateSignal candle).2
      stratMr := (engines.stratMr.generateSignal sqrt candle).2 }

/-- What `main` does with a candle when it resumes from a checkpoint. -/
def resumeCandle (resumeCheckpointTs : ℕ) (b : Backtest) (candle : MarketCandle) :
    Except String Backtest :=
  if candle.epochTimestamp ≤ resumeCheckpointTs then .ok (b.warmUp sqrt candle)
  else b.processCandle sqrt interval candle

end Candles

end Backtest

/-- The key of `StreamEntry`. -/
def StreamEntry.key (entry : Stream MarketCandle) : ℕ := entry.head.epochTimestamp

/-- A file of candles and its symbol. -/
structure StreamSpec where
  symbol : String
  candles : List MarketCandle

namespace Configuration

variable (config : Configuration)

/-- The engines of a symbol as `main` constructs them. -/
def engines (symbol : String) : SymbolEngines where
  stratSma := config.stratSma
  stratMr := config.stratMr
  execution := {
    symbol := symbol
    feeRate := config.feeRate
    slippage := config.slippage
    riskPct := config.riskPct
    recordsAnalytics := true }

/-- The shared objects as `main` constructs them. -/
def components : Components where
  portfolio := .fresh
  risk :=
    let risk := RiskMonitor.create config.maxConcurrentPositions config.varLimitFraction
      config.varWindow
    risk.withEngine (risk.setSystemConfig (some config.sysCfg))
  regime := {
    adxPeriod := config.adxPeriod
    varWindow := config.regimeWindow
    varThreshold := config.varThreshold
    adxTrendAbove := config.adxTrendAbove
    adxRangeBelow := config.adxRangeBelow }
  allocator := {
    longThreshold := config.longThreshold
    shortThreshold := config.shortThreshold
    attached := true
    weights := config.weights }

/-- The backtest before its first candle. -/
def start (specs : List StreamSpec) (clock : ℕ → ℕ) (file : Option Checkpoint) : Backtest where
  components := config.components
  engines symbol :=
    if symbol ∈ specs.map StreamSpec.symbol then some (config.engines symbol) else none
  clock := clock
  file := file

variable (queue : PriorityQueue (Stream MarketCandle) StreamEntry.key) (sqrt : Double → Double)

/-- The chronological dispatch loop over all streams. -/
def dispatchAll (specs : List StreamSpec)
    (handle : Backtest → MarketCandle → Except String Backtest) (b : Backtest) :
    Except String Backtest :=
  let streams := specs.map StreamSpec.candles
  @dispatch _ MarketCandle.epochTimestamp queue _ _ handle (count streams) (seed queue streams) b

/-- `main` in BACKTEST mode without `--resume`. -/
def run (specs : List StreamSpec) (clock : ℕ → ℕ) : Except String Backtest :=
  dispatchAll queue specs (Backtest.processCandle sqrt config.checkpointIntervalSec)
    (config.start specs clock none)

/-- `main` in BACKTEST mode with `--resume` and a checkpoint file. -/
def resume (specs : List StreamSpec) (clock : ℕ → ℕ) (checkpoint : Checkpoint) :
    Except String Backtest :=
  let b := config.start specs clock (some checkpoint)
  match reload b.components.risk b.components.attached checkpoint with
  | none => .error "[Resume] ERROR"
  | some loaded =>
    let restored := { b with components := {
      portfolio := loaded.portfolio
      risk := loaded.risk
      regime := (loaded.attached.map Prod.fst).getD b.components.regime
      allocator := (loaded.attached.map Prod.snd).getD b.components.allocator } }
    dispatchAll queue specs
      (Backtest.resumeCandle sqrt config.checkpointIntervalSec loaded.checkpointTs) restored

end Configuration

end TradeBot
