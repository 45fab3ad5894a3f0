import TradeBot.Double

/-!
# Execution records

`AnalyticsEngine.cpp` as far as execution writes to it: the trade log and the
slippage log.
-/

namespace TradeBot

/-- `TradeLogEntry` -/
structure TradeLogEntry where
  timestamp : ℕ
  side : Char
  price : Double
  quantity : Double
  fee : Double
  realizedPnL : Double
  grossPnL : Double
  strategyId : String
  deriving DecidableEq

/-- `SlippagePoint` -/
structure SlippagePoint where
  timestamp : ℕ
  symbol : String
  expectedPrice : Double
  actualPrice : Double
  quantity : Double
  slippageBps : Double
  deriving DecidableEq

/-- The state of `AnalyticsEngine` that execution writes. -/
structure AnalyticsEngine where
  trades : List TradeLogEntry := []
  slippage : List SlippagePoint := []
  deriving DecidableEq

namespace AnalyticsEngine

/-- `recordTrade` -/
def recordTrade (analytics : AnalyticsEngine) (entry : TradeLogEntry) : AnalyticsEngine :=
  { analytics with trades := analytics.trades ++ [entry] }

/-- `recordSlippage` -/
def recordSlippage (analytics : AnalyticsEngine) (timestamp : ℕ) (symbol : String)
    (expectedPrice actualPrice quantity : Double) : AnalyticsEngine :=
  if expectedPrice ≤ 0 ∨ quantity ≤ 0 then analytics
  else { analytics with slippage := analytics.slippage ++ [{
    timestamp := timestamp
    symbol := symbol
    expectedPrice := expectedPrice
    actualPrice := actualPrice
    quantity := quantity
    slippageBps := (actualPrice - expectedPrice) / expectedPrice * .finite 10000 }] }

end AnalyticsEngine

end TradeBot
