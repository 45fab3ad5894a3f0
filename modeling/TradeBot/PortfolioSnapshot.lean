import TradeBot.PortfolioManager
import Mathlib.Data.List.Sort
import Mathlib.Data.String.Basic

/-!
# Snapshots of the portfolio

`PortfolioManager::snapshotState` writes all members as doubles, with the positions in
the order of their symbols. `restoreState` reads the fixed-point units back, recomputes
average prices and valuation, and throws when they are not those of the snapshot.
-/

namespace TradeBot

open Library Financial

variable [FloatFormat]

namespace StdException

/-- `what` -/
def what : StdException → String
  | .invalidArgument what => what
  | .logicError what => what
  | .overflowError what => what

end StdException

/-- An optional value that must be present. -/
def requirePresent {α : Type} (value : Option α) (e : StdException) : Except StdException α :=
  match value with
  | some v => .ok v
  | none => .error e

omit [FloatFormat] in
/-- A value that must be present is returned when it is. -/
@[simp] theorem requirePresent_eq_ok {α : Type} {value : Option α} {e : StdException} {v : α} :
    requirePresent value e = .ok v ↔ value = some v := by
  cases value <;> simp [requirePresent]

/-- `Position` -/
structure Position where
  symbol : String
  quantity : Double := 0
  entryPrice : Double := 0
  isLong : Bool := true
  deriving DecidableEq

namespace PortfolioManager

/-- `PositionSnapshot` -/
structure PositionSnapshot where
  position : Position
  entryTimestamp : ℕ := 0
  entryFee : Double := 0
  costBasis : Double := 0
  lastMarkPrice : Double := 0
  strategyId : String := ""
  deriving DecidableEq

/-- `Snapshot` -/
structure Snapshot where
  cash : Double
  positions : List PositionSnapshot
  unrealizedPnL : Double
  totalEquity : Double
  maxEquity : Double
  currentDrawdown : Double
  maxDrawdown : Double
  tradeCount : ℤ
  totalFeesPaid : Double
  tradeLog : List TradeRecord
  roundTripCount : ℤ
  pendingOrders : List OrderRecord
  nextOrderId : ℕ
  deriving DecidableEq

/-- The snapshot of one entry of the positions. -/
def positionSnapshot (symbol : String) (state : PositionState) : PositionSnapshot where
  position := {
    symbol := symbol
    quantity := state.quantity.toDouble
    entryPrice := state.averageEntryPrice.toDouble
    isLong := true }
  entryTimestamp := state.entryTimestamp
  entryFee := state.entryFee.toDouble
  costBasis := state.costBasis.toDouble
  lastMarkPrice := state.lastMarkPrice.toDouble
  strategyId := state.strategyId

/-- The order in which `snapshotState` sorts the positions. -/
def symbolOrder (lhs rhs : PositionSnapshot) : Prop := lhs.position.symbol ≤ rhs.position.symbol

instance : DecidableRel symbolOrder := fun _ _ => inferInstanceAs (Decidable (_ ≤ _))

/-- `snapshotState` -/
def snapshotState (pm : PortfolioManager) : Snapshot where
  cash := pm.cash.toDouble
  positions :=
    (pm.positions.entries.map fun e => positionSnapshot e.1 e.2).insertionSort symbolOrder
  unrealizedPnL := pm.unrealizedPnL.toDouble
  totalEquity := pm.totalEquity.toDouble
  maxEquity := pm.maxEquity.toDouble
  currentDrawdown := pm.currentDrawdown
  maxDrawdown := pm.maxDrawdown
  tradeCount := pm.tradeCount
  totalFeesPaid := pm.totalFeesPaid.toDouble
  tradeLog := pm.tradeLog
  roundTripCount := pm.roundTripCount
  pendingOrders := pm.pendingOrders
  nextOrderId := pm.nextOrderId

/-- The exception of `restoreState` for amounts that are not money. -/
def incompatibleSnapshot : StdException :=
  .invalidArgument "PortfolioManager: incompatible accounting snapshot"

/-- The exception of `restoreState` for a position. -/
def invalidPosition : StdException :=
  .invalidArgument "PortfolioManager: invalid position snapshot"

/-- The exception of `restoreState` for a valuation that is not the recomputed one. -/
def inconsistentSnapshot : StdException :=
  .invalidArgument "PortfolioManager: inconsistent accounting snapshot"

/-- The body of the loop of `restoreState` over the positions. -/
def restorePosition (positions : KeyedMap String PositionState) (persisted : PositionSnapshot) :
    Except StdException (KeyedMap String PositionState) := do
  let quantity ← requirePositive (quantity persisted.position.quantity .rejectUnaligned)
    invalidPosition
  let average ← requirePositive (price persisted.position.entryPrice .rejectUnaligned)
    invalidPosition
  let entryFee ← requireNonnegative (money persisted.entryFee .rejectUnaligned) invalidPosition
  let costBasis ← requirePositive (money persisted.costBasis .rejectUnaligned) invalidPosition
  let lastMark ← requirePositive (price persisted.lastMarkPrice .rejectUnaligned) invalidPosition
  let derivedAverage ← requirePresent (averagePrice costBasis quantity) invalidPosition
  throwIf (decide (persisted.position.symbol = "") || !persisted.position.isLong
    || decide (derivedAverage ≠ average)) invalidPosition
  throwIf (decide (persisted.position.symbol ∈ positions)) invalidPosition
  return positions.insert persisted.position.symbol {
    quantity := quantity
    averageEntryPrice := average
    costBasis := costBasis
    lastMarkPrice := lastMark
    entryTimestamp := persisted.entryTimestamp
    entryFee := entryFee
    strategyId := persisted.strategyId }

/-- The tolerance of `restoreState` for a drawdown. -/
def drawdownTolerance : Double := .finite (1 / 10 ^ 12)

/-- `restoreState` -/
def restoreState (snapshot : Snapshot) : Except StdException PortfolioManager := do
  let cash ← requireNonnegative (money snapshot.cash .rejectUnaligned) incompatibleSnapshot
  let unrealized ← requirePresent (money snapshot.unrealizedPnL .rejectUnaligned)
    incompatibleSnapshot
  let equity ← requireNonnegative (money snapshot.totalEquity .rejectUnaligned)
    incompatibleSnapshot
  let maxEquity ← requireNonnegative (money snapshot.maxEquity .rejectUnaligned)
    incompatibleSnapshot
  let fees ← requireNonnegative (money snapshot.totalFeesPaid .rejectUnaligned)
    incompatibleSnapshot
  let positions ← snapshot.positions.foldlM restorePosition ∅
  let candidate := { fresh with
    maxEquity := maxEquity
    maxDrawdown := snapshot.maxDrawdown }
  let valuation ← candidate.valueState cash positions
  throwIf (decide (valuation.unrealizedPnL ≠ unrealized) || decide (valuation.totalEquity ≠ equity)
    || decide (valuation.maxEquity ≠ maxEquity)
    || decide (drawdownTolerance < (valuation.currentDrawdown - snapshot.currentDrawdown).abs)
    || decide (drawdownTolerance < (valuation.maxDrawdown - snapshot.maxDrawdown).abs))
    inconsistentSnapshot
  return {
    cash := cash
    positions := positions
    unrealizedPnL := unrealized
    totalEquity := equity
    maxEquity := maxEquity
    currentDrawdown := snapshot.currentDrawdown
    maxDrawdown := snapshot.maxDrawdown
    tradeCount := snapshot.tradeCount
    totalFeesPaid := fees
    tradeLog := snapshot.tradeLog
    roundTripCount := snapshot.roundTripCount
    pendingOrders := snapshot.pendingOrders
    nextOrderId := snapshot.nextOrderId }

end PortfolioManager

end TradeBot
