import TradeBot.RiskMonitor

/-!
# The regime detector

`RegimeDetector.cpp`: the variance of a rolling window of returns and the average
directional index classify the market. The part that a checkpoint holds is `State`.
-/

namespace TradeBot

/-- `MarketRegime` -/
inductive MarketRegime where
  | trend
  | range
  | chaos
  deriving DecidableEq

namespace RegimeDetector

/-- `State` -/
structure State where
  smoothTR : Double := 0
  smoothDMPlus : Double := 0
  smoothDMMinus : Double := 0
  adx : Double := 0
  adxObservations : ℤ := 0
  returnWindow : List Double := []
  prevClose : Double := 0
  prevCloseValid : Bool := false
  variance : Double := 0
  prevHigh : Double := 0
  prevLow : Double := 0
  prevHLValid : Bool := false
  regime : MarketRegime := .chaos
  deriving DecidableEq

end RegimeDetector

/-- The state of `RegimeDetector`, after its configuration. -/
structure RegimeDetector where
  adxPeriod : ℤ := 14
  varWindow : ℤ := 20
  varThreshold : Double := .finite (1 / 10 ^ 4)
  adxTrendAbove : Double := .finite 25
  adxRangeBelow : Double := .finite 20
  state : RegimeDetector.State := {}
  regime : MarketRegime := .chaos
  adx : Double := 0
  variance : Double := 0
  deriving DecidableEq

namespace RegimeDetector

/-- The first part of `update`: the variance of the returns. -/
def State.observeClose (s : State) (varWindow : ℤ) (close : Double) : State :=
  let observed :=
    if s.prevCloseValid ∧ 0 < s.prevClose then
      let pushed := s.returnWindow ++ [(close - s.prevClose) / s.prevClose]
      let window := if varWindow < pushed.length then pushed.tail else pushed
      if 2 ≤ window.length then
        let n := Double.ofNat window.length
        let mean := Double.sum window / n
        { s with
          returnWindow := window
          variance := Double.sum (window.map fun r => (r - mean) * (r - mean)) / n }
      else { s with returnWindow := window }
    else s
  { observed with
    prevClose := close
    prevCloseValid := true }

/-- The directional index of smoothed ranges and movements. -/
def directionalIndex (smoothTR smoothDMPlus smoothDMMinus : Double) : Double :=
  let hundred := Double.finite 100
  let diPlus := if 0 < smoothTR then smoothDMPlus / smoothTR * hundred else 0
  let diMinus := if 0 < smoothTR then smoothDMMinus / smoothTR * hundred else 0
  let diSum := diPlus + diMinus
  if 0 < diSum then (diPlus - diMinus).abs / diSum * hundred else 0

/-- The second part of `update`: Wilder's smoothing and the average directional index. -/
def State.observeRange (s : State) (adxPeriod : ℤ) (high low : Double) : State :=
  let observed :=
    if s.prevHLValid then
      let trueRange := Double.max (Double.max (high - low) (high - s.prevHigh).abs)
        (low - s.prevLow).abs
      let up := high - s.prevHigh
      let down := s.prevLow - low
      let dmPlus := if down < up ∧ 0 < up then up else 0
      let dmMinus := if up < down ∧ 0 < down then down else 0
      let observations := s.adxObservations + 1
      if observations ≤ adxPeriod then
        let smoothTR := s.smoothTR + trueRange
        let smoothDMPlus := s.smoothDMPlus + dmPlus
        let smoothDMMinus := s.smoothDMMinus + dmMinus
        { s with
          adxObservations := observations
          smoothTR := smoothTR
          smoothDMPlus := smoothDMPlus
          smoothDMMinus := smoothDMMinus
          adx := if observations = adxPeriod then
            directionalIndex smoothTR smoothDMPlus smoothDMMinus else s.adx }
      else
        let period := Double.finite adxPeriod
        let smoothTR := s.smoothTR - s.smoothTR / period + trueRange
        let smoothDMPlus := s.smoothDMPlus - s.smoothDMPlus / period + dmPlus
        let smoothDMMinus := s.smoothDMMinus - s.smoothDMMinus / period + dmMinus
        { s with
          adxObservations := observations
          smoothTR := smoothTR
          smoothDMPlus := smoothDMPlus
          smoothDMMinus := smoothDMMinus
          adx := s.adx - s.adx / period +
            directionalIndex smoothTR smoothDMPlus smoothDMMinus / period }
    else s
  { observed with
    prevHigh := high
    prevLow := low
    prevHLValid := true }

/-- `classifyRegime` -/
def classifyRegime (detector : RegimeDetector) : MarketRegime :=
  let highVariance := decide (detector.varThreshold < detector.variance)
  if detector.adxTrendAbove < detector.adx ∧ !highVariance then .trend
  else if detector.adx < detector.adxRangeBelow ∧ !highVariance then .range
  else .chaos

/-- `update` -/
def update (detector : RegimeDetector) (high low close : Double) : RegimeDetector :=
  let observed := (detector.state.observeClose detector.varWindow close).observeRange
    detector.adxPeriod high low
  let measured := { detector with
    state := observed
    adx := observed.adx
    variance := observed.variance }
  let regime := measured.classifyRegime
  { measured with
    regime := regime
    state := { observed with regime := regime } }

/-- `restoreState` -/
def restoreState (detector : RegimeDetector) (s : State) : RegimeDetector :=
  { detector with
    state := s
    regime := s.regime
    adx := s.adx
    variance := s.variance }

/-- `affinity` -/
def affinity (strategyId : String) (regime : MarketRegime) : Double :=
  if regime = .chaos then 0
  else if strategyId = "SMA_01" then if regime = .trend then .finite 1 else .finite (-1 / 2)
  else if strategyId = "MR_01" then if regime = .range then .finite 1 else .finite (-1 / 2)
  else 0

end RegimeDetector

end TradeBot
