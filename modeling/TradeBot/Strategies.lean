import TradeBot.PortfolioAllocator
import TradeBot.System

/-!
# The strategies

`SmaCrossStrategy.cpp` and `MeanReversionStrategy.cpp`: each reads the candles of one symbol
and answers each of them with a conviction. What they print is left out. The square root is
that of the C library and is a parameter.
-/

namespace TradeBot

/-- `std::clamp` -/
def Double.clamp (value low high : Double) : Double :=
  if value < low then low else if high < value then high else value

/-- The state of `SmaCrossStrategy`. The constructor refuses other periods. -/
structure SmaCrossStrategy where
  strategyId : String := "SMA_01"
  fastPeriod : ℕ
  slowPeriod : ℕ
  priceBuffer : List Double := []
  prevFastSma : Double := 0
  prevSlowSma : Double := 0
  prevValid : Bool := false
  trueRanges : List Double := []
  prevClose : Double := 0
  prevCloseValid : Bool := false
  currentATR : Double := 0
  atrValid : Bool := false
  fastPeriod_pos : 0 < fastPeriod
  fastPeriod_lt : fastPeriod < slowPeriod
  deriving DecidableEq

namespace SmaCrossStrategy

/-- `ATR_PERIOD` -/
def atrPeriod : ℕ := 14

/-- The constructor. -/
def create (fast slow : ℕ) (strategyId : String := "SMA_01") :
    Except StdException SmaCrossStrategy :=
  if hzero : fast = 0 ∨ slow = 0 then .error (.invalidArgument "SMA periods must be > 0")
  else if hle : slow ≤ fast then
    .error (.invalidArgument "Fast period must be less than slow period")
  else .ok {
    strategyId := strategyId
    fastPeriod := fast
    slowPeriod := slow
    fastPeriod_pos := by omega
    fastPeriod_lt := by omega }

/-- `calcSma` -/
def calcSma (buffer : List Double) (period : ℕ) : Double :=
  Double.sum (buffer.drop (buffer.length - period)) / .ofNat period

/-- The part of `generateSignal` that keeps the average true range. -/
def observeRange (s : SmaCrossStrategy) (candle : MarketCandle) : SmaCrossStrategy :=
  let observed :=
    if s.prevCloseValid then
      let trueRange := Double.max (Double.max (candle.high - candle.low)
        (candle.high - s.prevClose).abs) (candle.low - s.prevClose).abs
      let trueRanges := pushWindow atrPeriod s.trueRanges trueRange
      if trueRanges.length = atrPeriod then
        if s.atrValid then { s with
          trueRanges := trueRanges
          currentATR := (s.currentATR * .ofNat (atrPeriod - 1) + trueRange) / .ofNat atrPeriod }
        else { s with
          trueRanges := trueRanges
          currentATR := Double.sum trueRanges / .ofNat atrPeriod
          atrValid := true }
      else { s with trueRanges := trueRanges }
    else s
  { observed with
    prevClose := candle.close
    prevCloseValid := true }

/-- The conviction of a crossing of the two averages. -/
def crossing (s : SmaCrossStrategy) (fastSma slowSma : Double) : Double :=
  if s.prevValid then
    if slowSma < fastSma ∧ s.prevFastSma ≤ s.prevSlowSma then .finite 1
    else if fastSma < slowSma ∧ s.prevSlowSma ≤ s.prevFastSma then .finite (-1)
    else 0
  else 0

/-- `generateSignal` -/
def generateSignal (s : SmaCrossStrategy) (candle : MarketCandle) :
    AlphaSignal × SmaCrossStrategy :=
  let priceBuffer := pushWindow s.slowPeriod s.priceBuffer candle.close
  let s := { s.observeRange candle with priceBuffer := priceBuffer }
  if priceBuffer.length < s.slowPeriod then (⟨candle.symbol, s.strategyId, 0⟩, s)
  else
    let fastSma := calcSma priceBuffer s.fastPeriod
    let slowSma := calcSma priceBuffer s.slowPeriod
    (⟨candle.symbol, s.strategyId, s.crossing fastSma slowSma⟩, { s with
      prevFastSma := fastSma
      prevSlowSma := slowSma
      prevValid := true })

/-- The average true range that sizes an order: none until it is valid. -/
def atr (s : SmaCrossStrategy) : Option Double := if s.atrValid then some s.currentATR else none

end SmaCrossStrategy

/-- The state of `MeanReversionStrategy`. -/
structure MeanReversionStrategy where
  strategyId : String := "MR_01"
  bbPeriod : ℕ := 20
  bbStdDevMult : Double := .finite 2
  rsiPeriod : ℕ := 14
  priceBuffer : List Double := []
  avgGain : Double := 0
  avgLoss : Double := 0
  prevClose : Double := 0
  prevCloseValid : Bool := false
  rsiSeeded : Bool := false
  rsiSeedCount : ℕ := 0
  seedGainSum : Double := 0
  seedLossSum : Double := 0
  ready : Bool := false
  deriving DecidableEq

namespace MeanReversionStrategy

/-- `calcMean` -/
def calcMean (buffer : List Double) : Double :=
  if buffer = [] then 0 else Double.sum buffer / .ofNat buffer.length

/-- `calcStdDev` -/
def calcStdDev (sqrt : Double → Double) (buffer : List Double) (mean : Double) : Double :=
  if buffer.length < 2 then 0
  else sqrt (Double.sum (buffer.map fun v => (v - mean) * (v - mean)) / .ofNat buffer.length)

/-- The part of `generateSignal` that keeps the average gain and loss. -/
def observeClose (s : MeanReversionStrategy) (close : Double) : MeanReversionStrategy :=
  let observed :=
    if s.prevCloseValid then
      let change := close - s.prevClose
      let gain := if 0 < change then change else 0
      let loss := if change < 0 then change.neg else 0
      let period := Double.ofNat s.rsiPeriod
      if s.rsiSeeded then
        let previous := Double.ofNat (s.rsiPeriod - 1)
        { s with
          avgGain := (s.avgGain * previous + gain) / period
          avgLoss := (s.avgLoss * previous + loss) / period }
      else
        let seeding := { s with
          seedGainSum := s.seedGainSum + gain
          seedLossSum := s.seedLossSum + loss
          rsiSeedCount := s.rsiSeedCount + 1 }
        -- the period is compared as an `int`
        if (seeding.rsiSeedCount : ℤ) = Int.bmod s.rsiPeriod (2 ^ 32) then { seeding with
          avgGain := seeding.seedGainSum / period
          avgLoss := seeding.seedLossSum / period
          rsiSeeded := true }
        else seeding
    else s
  { observed with
    prevClose := close
    prevCloseValid := true }

/-- The conviction by the place of the price between the Bollinger bands. -/
def bbConviction (sqrt : Double → Double) (s : MeanReversionStrategy) (close : Double) :
    Double :=
  let bbMean := calcMean s.priceBuffer
  let bbStdDev := calcStdDev sqrt s.priceBuffer bbMean
  if 0 < bbStdDev then
    let upperBand := bbMean + s.bbStdDevMult * bbStdDev
    let lowerBand := bbMean - s.bbStdDevMult * bbStdDev
    let bandWidth := upperBand - lowerBand
    if 0 < bandWidth then
      let pB := (close - lowerBand) / bandWidth
      Double.clamp (.finite 1 - .finite 2 * pB) (.finite (-1)) (.finite 1)
    else 0
  else 0

/-- The conviction by the relative strength index. -/
def rsiConviction (s : MeanReversionStrategy) : Double :=
  if 0 < s.avgLoss then
    let rs := s.avgGain / s.avgLoss
    let rsi := .finite 100 - .finite 100 / (.finite 1 + rs)
    ((rsi - .finite 50) / .finite 50).neg
  else if 0 < s.avgGain then .finite (-1)
  else 0

/-- `generateSignal` -/
def generateSignal (sqrt : Double → Double) (s : MeanReversionStrategy) (candle : MarketCandle) :
    AlphaSignal × MeanReversionStrategy :=
  let priceBuffer := pushWindow s.bbPeriod s.priceBuffer candle.close
  let s := s.observeClose candle.close
  let s := { s with
    priceBuffer := priceBuffer
    ready := decide (priceBuffer.length = s.bbPeriod) && s.rsiSeeded }
  let half := Double.finite (1 / 2)
  let conviction :=
    if s.ready then
      Double.clamp (half * s.bbConviction sqrt candle.close + half * s.rsiConviction)
        (.finite (-1)) (.finite 1)
    else 0
  (⟨candle.symbol, s.strategyId, conviction⟩, s)

end MeanReversionStrategy

end TradeBot
