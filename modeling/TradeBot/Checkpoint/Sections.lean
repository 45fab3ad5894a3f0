import TradeBot.Checkpoint.Codec
import TradeBot.Checkpoint.Validation

/-!
# The sections of a snapshot

The section writers and readers of `StateSerializer.cpp`: the portfolio, the risk engine,
the regime and the performance of the strategies. A list and a map are written with their
number of entries, a map in the order of its keys.
-/

namespace TradeBot

open Library Financial

/-- The code of an order type. -/
def OrderType.code : OrderType → UInt8
  | .market => 0
  | .limit => 1
  | .stopLoss => 2
  | .trailingStop => 3

/-- The order type of a code. -/
def OrderType.ofCode (code : UInt8) : OrderType :=
  if code = 0 then .market else if code = 1 then .limit else if code = 2 then .stopLoss
  else .trailingStop

/-- The code of a regime. -/
def MarketRegime.code : MarketRegime → UInt8
  | .trend => 0
  | .range => 1
  | .chaos => 2

/-- The regime of a code. -/
def MarketRegime.ofCode (code : UInt8) : MarketRegime :=
  if code = 0 then .trend else if code = 1 then .range else .chaos

namespace StateSerializer

section Writers

/-- `writeDoubles` -/
def writeDoubles (values : List Double) : List UInt8 :=
  Writer.u64 values.length ++ values.flatMap Writer.number

/-- The units of a value that `validate` found to be aligned. -/
def alignedUnits {tag : Tag} (value : Option (Value tag)) : Int64 := value.elim 0 (·.units)

/-- `moneyUnits` -/
def moneyUnits (value : Double) : Int64 := alignedUnits (money value .rejectUnaligned)

/-- `priceUnits` -/
def priceUnits (value : Double) : Int64 := alignedUnits (price value .rejectUnaligned)

/-- `quantityUnits` -/
def quantityUnits (value : Double) : Int64 := alignedUnits (quantity value .rejectUnaligned)

/-- The position loop of `writePortfolio`. -/
def writePosition (p : PortfolioManager.PositionSnapshot) : List UInt8 := [
  Writer.string p.position.symbol,
  Writer.i64 (quantityUnits p.position.quantity),
  Writer.i64 (priceUnits p.position.entryPrice),
  Writer.boolean p.position.isLong,
  Writer.u64 p.entryTimestamp,
  Writer.i64 (moneyUnits p.entryFee),
  Writer.i64 (moneyUnits p.costBasis),
  Writer.i64 (priceUnits p.lastMarkPrice),
  Writer.string p.strategyId].flatten

/-- The trade-log loop of `writePortfolio`. -/
def writeTrade (t : TradeRecord) : List UInt8 := [
  Writer.string t.symbol,
  Writer.u64 t.openTimestamp,
  Writer.u64 t.closeTimestamp,
  Writer.i64 (priceUnits t.entryPrice),
  Writer.i64 (priceUnits t.exitPrice),
  Writer.i64 (quantityUnits t.quantity),
  Writer.i64 (moneyUnits t.totalFees),
  Writer.i64 (moneyUnits t.realizedPnL),
  Writer.i64 (moneyUnits t.grossPnL),
  Writer.string t.strategyId].flatten

/-- The order loop of `writePortfolio`. -/
def writeOrder (o : OrderRecord) : List UInt8 := [
  Writer.string o.symbol,
  Writer.u8 o.orderType.code,
  Writer.boolean o.isBuy,
  Writer.i64 (priceUnits o.limitPrice),
  Writer.i64 (priceUnits o.trailOffset),
  Writer.i64 (priceUnits o.trailBest),
  Writer.i64 (quantityUnits o.quantity),
  Writer.i64 (moneyUnits o.capitalToCommit),
  Writer.u64 o.placedTimestamp,
  Writer.u64 o.orderId].flatten

/-- `writePortfolio` -/
def writePortfolio (s : PortfolioManager.Snapshot) : List UInt8 := [
  Writer.i64 (moneyUnits s.cash),
  Writer.i64 (moneyUnits s.unrealizedPnL),
  Writer.i64 (moneyUnits s.totalEquity),
  Writer.i64 (moneyUnits s.maxEquity),
  Writer.number s.currentDrawdown,
  Writer.number s.maxDrawdown,
  Writer.i32 s.tradeCount,
  Writer.i64 (moneyUnits s.totalFeesPaid),
  Writer.i32 s.roundTripCount,
  Writer.u64 s.positions.length,
  s.positions.flatMap writePosition,
  Writer.u64 s.tradeLog.length,
  s.tradeLog.flatMap writeTrade,
  Writer.u64 s.pendingOrders.length,
  s.pendingOrders.flatMap writeOrder,
  Writer.u64 s.nextOrderId].flatten

/-- The asset loop of `writeRisk`. -/
def writeAsset (e : Sigma fun _ : String => AssetReturnState) : List UInt8 := [
  Writer.string e.1,
  writeDoubles e.2.returnWindow,
  Writer.number e.2.prevPrice,
  Writer.boolean e.2.prevPriceValid,
  Writer.number e.2.positionValue].flatten

/-- The loop of `writeRisk` over the synchronised positions. -/
def writeSynced (e : Sigma fun _ : String => Double) : List UInt8 :=
  [Writer.string e.1, Writer.number e.2].flatten

/-- `writeRisk` -/
def writeRisk (s : RiskMonitor.Snapshot) : List UInt8 := [
  Writer.u64 s.configuredMaxPositions,
  Writer.number s.configuredVarLimit,
  Writer.u64 s.configuredVarWindow,
  Writer.number s.totalDrawdown,
  Writer.number s.dailyDrawdown,
  Writer.number s.prevEquity,
  Writer.boolean s.prevEquityValid,
  writeDoubles s.returnWindow,
  Writer.number s.currentVaR95,
  Writer.number s.returnStdDev,
  Writer.u64 (KeyedMap.sortedEntries s.assetStates).length,
  (KeyedMap.sortedEntries s.assetStates).flatMap writeAsset,
  writeDoubles s.covarianceMatrix,
  Writer.u64 s.assetOrder.length,
  s.assetOrder.flatMap Writer.string,
  Writer.boolean s.multiAssetMode,
  Writer.boolean s.closeOnly,
  Writer.u32 s.lastLatencyMs,
  Writer.boolean s.halted,
  Writer.u64 (KeyedMap.sortedEntries s.syncedPositions).length,
  (KeyedMap.sortedEntries s.syncedPositions).flatMap writeSynced,
  Writer.u64 s.effectiveMaxPositions,
  Writer.number s.effectiveVarLimit,
  Writer.boolean s.volatilityScaled].flatten

/-- `writeRegime` -/
def writeRegime (s : RegimeDetector.State) : List UInt8 := [
  Writer.number s.smoothTR,
  Writer.number s.smoothDMPlus,
  Writer.number s.smoothDMMinus,
  Writer.number s.adx,
  Writer.i32 s.adxObservations,
  writeDoubles s.returnWindow,
  Writer.number s.prevClose,
  Writer.boolean s.prevCloseValid,
  Writer.number s.variance,
  Writer.number s.prevHigh,
  Writer.number s.prevLow,
  Writer.boolean s.prevHLValid,
  Writer.u8 s.regime.code].flatten

/-- The loop of `writePhi`. -/
def writePhiState (e : Sigma fun _ : String => PhiState) : List UInt8 :=
  [Writer.string e.1, writeDoubles e.2.pnlWindow, Writer.number e.2.phi].flatten

/-- `writePhi` -/
def writePhi (states : KeyedMap String PhiState) : List UInt8 := [
  Writer.u64 (KeyedMap.sortedEntries states).length,
  (KeyedMap.sortedEntries states).flatMap writePhiState].flatten

end Writers

section Readers

/-- `readDoubles` -/
def readDoubles : Reader UInt8 String (List Double) := do
  let count ← Reader.count
  Reader.many Reader.number count

/-- A counted list. -/
def readList {α : Type} (item : Reader UInt8 String α) : Reader UInt8 String (List α) := do
  let count ← Reader.count
  Reader.many item count

/-- A counted map; a key that comes twice sets no message. -/
def readMap {α : Type} (entry : Reader UInt8 String (String × α)) :
    Reader UInt8 String (KeyedMap String α) := do
  let count ← Reader.count
  Reader.entries entry "" count ∅

/-- The position loop of `readPortfolio`. -/
def readPosition : Reader UInt8 String PortfolioManager.PositionSnapshot := do
  let symbol ← Reader.string
  let quantity ← Reader.i64
  let price ← Reader.i64
  let isLong ← Reader.boolean
  let entryTimestamp ← Reader.u64
  let entryFee ← Reader.i64
  let costBasis ← Reader.i64
  let mark ← Reader.i64
  let strategyId ← Reader.string
  return {
    position := {
      symbol := symbol
      quantity := (⟨quantity⟩ : Quantity).toDouble
      entryPrice := (⟨price⟩ : Price).toDouble
      isLong := isLong }
    entryTimestamp := entryTimestamp
    entryFee := (⟨entryFee⟩ : Money).toDouble
    costBasis := (⟨costBasis⟩ : Money).toDouble
    lastMarkPrice := (⟨mark⟩ : Price).toDouble
    strategyId := strategyId }

/-- The trade-log loop of `readPortfolio`. -/
def readTrade : Reader UInt8 String TradeRecord := do
  let symbol ← Reader.string
  let openTimestamp ← Reader.u64
  let closeTimestamp ← Reader.u64
  let entry ← Reader.i64
  let exit ← Reader.i64
  let quantity ← Reader.i64
  let totalFees ← Reader.i64
  let realized ← Reader.i64
  let gross ← Reader.i64
  let strategyId ← Reader.string
  return {
    symbol := symbol
    openTimestamp := openTimestamp
    closeTimestamp := closeTimestamp
    entryPrice := (⟨entry⟩ : Price).toDouble
    exitPrice := (⟨exit⟩ : Price).toDouble
    quantity := (⟨quantity⟩ : Quantity).toDouble
    totalFees := (⟨totalFees⟩ : Money).toDouble
    realizedPnL := (⟨realized⟩ : Money).toDouble
    grossPnL := (⟨gross⟩ : Money).toDouble
    strategyId := strategyId }

/-- The order loop of `readPortfolio`. -/
def readOrder : Reader UInt8 String OrderRecord := do
  let symbol ← Reader.string
  let type ← Reader.u8
  Reader.require (decide (type ≤ OrderType.trailingStop.code)) ""
  let isBuy ← Reader.boolean
  let limit ← Reader.i64
  let offset ← Reader.i64
  let best ← Reader.i64
  let quantity ← Reader.i64
  let capital ← Reader.i64
  let placedTimestamp ← Reader.u64
  let orderId ← Reader.u64
  return {
    symbol := symbol
    orderType := .ofCode type
    isBuy := isBuy
    limitPrice := (⟨limit⟩ : Price).toDouble
    trailOffset := (⟨offset⟩ : Price).toDouble
    trailBest := (⟨best⟩ : Price).toDouble
    quantity := (⟨quantity⟩ : Quantity).toDouble
    capitalToCommit := (⟨capital⟩ : Money).toDouble
    placedTimestamp := placedTimestamp
    orderId := orderId }

/-- `readPortfolio` -/
def readPortfolio : Reader UInt8 String PortfolioManager.Snapshot := do
  let cash ← Reader.i64
  let unrealized ← Reader.i64
  let equity ← Reader.i64
  let maxEquity ← Reader.i64
  let currentDrawdown ← Reader.number
  let maxDrawdown ← Reader.number
  let tradeCount ← Reader.i32
  let fees ← Reader.i64
  let roundTripCount ← Reader.i32
  let positions ← readList readPosition
  let tradeLog ← readList readTrade
  let pendingOrders ← readList readOrder
  let nextOrderId ← Reader.u64
  return {
    cash := (⟨cash⟩ : Money).toDouble
    positions := positions
    unrealizedPnL := (⟨unrealized⟩ : Money).toDouble
    totalEquity := (⟨equity⟩ : Money).toDouble
    maxEquity := (⟨maxEquity⟩ : Money).toDouble
    currentDrawdown := currentDrawdown
    maxDrawdown := maxDrawdown
    tradeCount := tradeCount
    totalFeesPaid := (⟨fees⟩ : Money).toDouble
    tradeLog := tradeLog
    roundTripCount := roundTripCount
    pendingOrders := pendingOrders
    nextOrderId := nextOrderId }

/-- The asset loop of `readRisk`. -/
def readAsset : Reader UInt8 String (String × AssetReturnState) := do
  let key ← Reader.string
  Reader.require (decide (key ≠ "")) ""
  let returnWindow ← readDoubles
  let prevPrice ← Reader.number
  let prevPriceValid ← Reader.boolean
  let positionValue ← Reader.number
  return (key, {
    symbol := key
    returnWindow := returnWindow
    prevPrice := prevPrice
    prevPriceValid := prevPriceValid
    positionValue := positionValue })

/-- The loop of `readRisk` over the synchronised positions. -/
def readSynced : Reader UInt8 String (String × Double) := do
  let symbol ← Reader.string
  Reader.require (decide (symbol ≠ "")) ""
  let quantity ← Reader.number
  return (symbol, quantity)

/-- `readRisk` -/
def readRisk : Reader UInt8 String RiskMonitor.Snapshot := do
  let configuredMax ← Reader.u64
  let configuredVarLimit ← Reader.number
  let configuredWindow ← Reader.u64
  let totalDrawdown ← Reader.number
  let dailyDrawdown ← Reader.number
  let prevEquity ← Reader.number
  let prevEquityValid ← Reader.boolean
  let returnWindow ← readDoubles
  let currentVaR95 ← Reader.number
  let returnStdDev ← Reader.number
  let assetStates ← readMap readAsset
  let covarianceMatrix ← readDoubles
  let assetOrder ← readList Reader.string
  let multiAssetMode ← Reader.boolean
  let closeOnly ← Reader.boolean
  let lastLatencyMs ← Reader.u32
  let halted ← Reader.boolean
  let syncedPositions ← readMap readSynced
  let effective ← Reader.u64
  let effectiveVarLimit ← Reader.number
  let volatilityScaled ← Reader.boolean
  return {
    configuredMaxPositions := configuredMax
    configuredVarLimit := configuredVarLimit
    configuredVarWindow := configuredWindow
    totalDrawdown := totalDrawdown
    dailyDrawdown := dailyDrawdown
    prevEquity := prevEquity
    prevEquityValid := prevEquityValid
    returnWindow := returnWindow
    currentVaR95 := currentVaR95
    returnStdDev := returnStdDev
    assetStates := assetStates
    covarianceMatrix := covarianceMatrix
    assetOrder := assetOrder
    multiAssetMode := multiAssetMode
    closeOnly := closeOnly
    lastLatencyMs := lastLatencyMs
    halted := halted
    syncedPositions := syncedPositions
    effectiveMaxPositions := effective
    effectiveVarLimit := effectiveVarLimit
    volatilityScaled := volatilityScaled }

/-- `readRegime` -/
def readRegime : Reader UInt8 String RegimeDetector.State := do
  let smoothTR ← Reader.number
  let smoothDMPlus ← Reader.number
  let smoothDMMinus ← Reader.number
  let adx ← Reader.number
  let observations ← Reader.i32
  let returnWindow ← readDoubles
  let prevClose ← Reader.number
  let prevCloseValid ← Reader.boolean
  let variance ← Reader.number
  let prevHigh ← Reader.number
  let prevLow ← Reader.number
  let prevHLValid ← Reader.boolean
  let regime ← Reader.u8
  Reader.require (decide (regime ≤ MarketRegime.chaos.code)) ""
  return {
    smoothTR := smoothTR
    smoothDMPlus := smoothDMPlus
    smoothDMMinus := smoothDMMinus
    adx := adx
    adxObservations := observations
    returnWindow := returnWindow
    prevClose := prevClose
    prevCloseValid := prevCloseValid
    variance := variance
    prevHigh := prevHigh
    prevLow := prevLow
    prevHLValid := prevHLValid
    regime := .ofCode regime }

/-- The loop of `readPhi`. -/
def readPhiState : Reader UInt8 String (String × PhiState) := do
  let key ← Reader.string
  Reader.require (decide (key ≠ "")) ""
  let pnlWindow ← readDoubles
  let phi ← Reader.number
  return (key, {
    strategyId := key
    pnlWindow := pnlWindow
    phi := phi })

/-- `readPhi` -/
def readPhi : Reader UInt8 String (KeyedMap String PhiState) := readMap readPhiState

end Readers

end StateSerializer

end TradeBot
