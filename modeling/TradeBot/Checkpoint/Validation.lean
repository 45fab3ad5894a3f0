import TradeBot.PortfolioSnapshot
import TradeBot.PortfolioAllocator

/-!
# Validation of snapshots

`validate` and `validateExtended` of `StateSerializer.cpp`. A snapshot is checked before
it is written and again after it is read. The first check that fails gives the error.
-/

namespace TradeBot

open Library Financial

variable [FloatFormat]

namespace StateSerializer

/-- An error that is set when a condition holds. -/
def failIf (condition : Bool) (error : String) : Except String Unit :=
  if condition then .error error else .ok ()

/-- `finiteRange` -/
def finiteRange (values : List Double) : Bool := values.all Double.isFinite

/-- `alignedMoney` -/
def alignedMoney (value : Double) : Bool := (money value .rejectUnaligned).isSome

/-- `alignedPrice` -/
def alignedPrice (value : Double) : Bool := (price value .rejectUnaligned).isSome

/-- `alignedQuantity` -/
def alignedQuantity (value : Double) : Bool := (quantity value .rejectUnaligned).isSome

/-- The accounts of a portfolio. -/
def checkAccounts (p : PortfolioManager.Snapshot) : Except String Unit :=
  failIf (decide (p.cash < 0) || decide (p.totalEquity < 0) || decide (p.maxEquity < 0)
    || decide (p.totalFeesPaid < 0) || decide (p.tradeCount < 0) || decide (p.roundTripCount < 0)
    || decide (p.nextOrderId = 0) || !p.cash.isFinite || !p.unrealizedPnL.isFinite
    || !p.totalEquity.isFinite || !p.maxEquity.isFinite || !p.currentDrawdown.isFinite
    || !p.maxDrawdown.isFinite || !p.totalFeesPaid.isFinite || !alignedMoney p.cash
    || !alignedMoney p.unrealizedPnL || !alignedMoney p.totalEquity || !alignedMoney p.maxEquity
    || !alignedMoney p.totalFeesPaid)
    "invalid portfolio accounting state"

/-- The body of the loop over the positions, with the symbols seen before. -/
def checkPosition (symbols : Finset String) (p : PortfolioManager.PositionSnapshot) :
    Except String (Finset String) := do
  failIf (decide (p.position.symbol = "") || decide (p.position.quantity ≤ 0)
    || decide (p.position.entryPrice ≤ 0) || !p.position.isLong
    || !p.position.quantity.isFinite || !p.position.entryPrice.isFinite
    || !p.entryFee.isFinite || decide (p.entryFee < 0)
    || !p.costBasis.isFinite || decide (p.costBasis ≤ 0)
    || !p.lastMarkPrice.isFinite || decide (p.lastMarkPrice ≤ 0)
    || !alignedQuantity p.position.quantity || !alignedPrice p.position.entryPrice
    || !alignedMoney p.entryFee || !alignedMoney p.costBasis || !alignedPrice p.lastMarkPrice
    || decide (p.position.symbol ∈ symbols))
    "invalid or duplicate open position"
  return insert p.position.symbol symbols

/-- The body of the loop over the pending orders, with the identifiers seen before and the
largest of them. -/
def checkOrder (seen : Finset ℕ × ℕ) (order : OrderRecord) : Except String (Finset ℕ × ℕ) := do
  failIf (decide (order.symbol = "") || decide (order.orderId = 0)
    || !order.limitPrice.isFinite || !order.trailOffset.isFinite
    || !order.trailBest.isFinite || !order.quantity.isFinite
    || !order.capitalToCommit.isFinite
    || !alignedPrice order.limitPrice || !alignedPrice order.trailOffset
    || !alignedPrice order.trailBest || !alignedQuantity order.quantity
    || !alignedMoney order.capitalToCommit || decide (order.orderId ∈ seen.1))
    "invalid or duplicate pending order"
  return (insert order.orderId seen.1, max seen.2 order.orderId)

/-- The body of the loop over the trade log. -/
def checkTrade (trade : TradeRecord) : Except String Unit :=
  failIf (decide (trade.symbol = "") || !trade.entryPrice.isFinite || !trade.exitPrice.isFinite
    || !trade.quantity.isFinite || !trade.totalFees.isFinite
    || !trade.realizedPnL.isFinite || !trade.grossPnL.isFinite
    || decide (trade.entryPrice ≤ 0) || decide (trade.exitPrice ≤ 0)
    || decide (trade.quantity ≤ 0) || decide (trade.totalFees < 0)
    || !alignedPrice trade.entryPrice || !alignedPrice trade.exitPrice
    || !alignedQuantity trade.quantity || !alignedMoney trade.totalFees
    || !alignedMoney trade.realizedPnL || !alignedMoney trade.grossPnL)
    "invalid trade-log state"

/-- The restoration into a detached portfolio. -/
def checkRestoration (p : PortfolioManager.Snapshot) : Except String Unit :=
  match PortfolioManager.restoreState p with
  | .ok _ => .ok ()
  | .error exception =>
    .error ("inconsistent portfolio accounting state: " ++ exception.what)

/-- The part of `validate` about the portfolio. -/
def validatePortfolio (p : PortfolioManager.Snapshot) : Except String Unit := do
  checkAccounts p
  let _ ← p.positions.foldlM checkPosition ∅
  let (_, maxOrderId) ← p.pendingOrders.foldlM checkOrder (∅, 0)
  failIf (decide (p.nextOrderId ≤ maxOrderId)) "pending-order identity would be reused"
  p.tradeLog.forM checkTrade
  checkRestoration p

/-- The body of the loop over the asset states. -/
def checkAsset (symbol : String) (asset : AssetReturnState) : Except String Unit :=
  failIf (decide (symbol = "") || !finiteRange asset.returnWindow || !asset.prevPrice.isFinite
    || !asset.positionValue.isFinite)
    "invalid asset-risk state"

/-- The part of `validate` about the risk engine. -/
def validateRisk (r : RiskMonitor.Snapshot) : Except String Unit := do
  failIf (!r.configuredVarLimit.isFinite || !r.totalDrawdown.isFinite
    || !r.dailyDrawdown.isFinite || !r.prevEquity.isFinite
    || !finiteRange r.returnWindow || !r.currentVaR95.isFinite
    || !r.returnStdDev.isFinite || !finiteRange r.covarianceMatrix
    || !r.effectiveVarLimit.isFinite)
    "invalid risk state"
  r.assetStates.entries.forM fun e => checkAsset e.1 e.2
  r.syncedPositions.entries.forM fun e =>
    failIf (decide (e.1 = "") || !e.2.isFinite) "invalid synchronized position"
  let n := r.assetOrder.length
  failIf (decide (r.covarianceMatrix ≠ []) && decide (r.covarianceMatrix.length ≠ n * n))
    "invalid covariance dimensions"
  r.assetOrder.forM fun symbol =>
    failIf (decide (symbol ∉ r.assetStates)) "covariance symbol lacks return state"

/-- `validate` -/
def validate (p : PortfolioManager.Snapshot) (r : RiskMonitor.Snapshot) : Except String Unit := do
  validatePortfolio p
  validateRisk r

/-- `validateExtended` -/
def validateExtended (regime : RegimeDetector.State) (phi : KeyedMap String PhiState) :
    Except String Unit := do
  failIf (!regime.smoothTR.isFinite || !regime.smoothDMPlus.isFinite
    || !regime.smoothDMMinus.isFinite || !regime.adx.isFinite
    || !regime.prevClose.isFinite || !regime.variance.isFinite
    || !regime.prevHigh.isFinite || !regime.prevLow.isFinite
    || !finiteRange regime.returnWindow)
    "invalid regime state"
  phi.entries.forM fun e =>
    failIf (decide (e.1 = "") || !e.2.phi.isFinite || !finiteRange e.2.pnlWindow)
      "invalid allocator state"

end StateSerializer

end TradeBot
