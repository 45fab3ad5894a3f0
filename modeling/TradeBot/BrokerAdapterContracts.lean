import TradeBot.Double

/-!
# Broker adapter contracts

`BrokerAdapterContracts.hpp`: the broker-neutral values, orders and events that
cross the gateway. Identifiers, timestamps and sequence numbers are natural
numbers; where the source adds to a 64-bit sequence number, the sum wraps.
-/

namespace TradeBot

/-- `DecimalRounding` -/
inductive DecimalRounding where
  | towardZero
  | rejectUnaligned
  | nearestTiesAwayFromZero
  deriving DecidableEq

/-- `Decimal64`: signed units of a power of ten. -/
structure Decimal64 where
  units : Int64 := 0
  scale : ℕ := 0
  deriving DecidableEq

namespace Decimal64

/-- `MAX_SCALE` -/
def maxScale : ℕ := 12

/-- The exact decimal value. -/
def toRat (value : Decimal64) : ℚ := value.units.toInt / 10 ^ value.scale

/-- Nonnegative units stand for a nonnegative number. -/
theorem toRat_nonneg {d : Decimal64} (h : 0 ≤ d.units.toInt) : 0 ≤ d.toRat := by
  rw [toRat]
  positivity

/-- Only zero units stand for zero. -/
theorem toRat_eq_zero_iff {d : Decimal64} : d.toRat = 0 ↔ d.units = 0 := by
  rw [toRat, div_eq_zero_iff, or_iff_left (by positivity), Int.cast_eq_zero, ← Int64.toInt_inj]
  rfl

/-- Only positive units stand for a positive number. -/
theorem toRat_pos_iff {d : Decimal64} : 0 < d.toRat ↔ 0 < d.units := by
  rw [toRat, div_pos_iff_of_pos_right (by positivity), Int.cast_pos, Int64.lt_iff_toInt_lt]
  rfl

/-- Zero is zero at every scale. -/
@[simp] theorem toRat_zero (scale : ℕ) : toRat ⟨0, scale⟩ = 0 :=
  toRat_eq_zero_iff.mpr rfl

/-- The power of ten that `toDouble` multiplies up. -/
def factor [FloatFormat] : ℕ → ℚ
  | 0 => 1
  | scale + 1 => FloatFormat.double (factor scale * 10)

/-- `toDouble` -/
def toDouble [FloatFormat] (value : Decimal64) : Double :=
  .finite (FloatFormat.double (FloatFormat.double value.units.toInt / factor value.scale))

/-- `isPositive` -/
def isPositive (value : Decimal64) : Bool := decide (0 < value.units)

/-- `isNegative` -/
def isNegative (value : Decimal64) : Bool := decide (value.units < 0)

/-- `isZero` -/
def isZero (value : Decimal64) : Bool := decide (value.units = 0)

/-- `fromDouble` -/
def fromDouble [FloatFormat] (value : Double) (scale : ℕ)
    (rounding : DecimalRounding := .nearestTiesAwayFromZero) : Option Decimal64 :=
  match value with
  | .finite v =>
    if maxScale < scale then none
    else
      let scaled := FloatFormat.longDouble (v * 10 ^ scale)
      if scaled < Int64.minValue.toInt ∨ Int64.maxValue.toInt < scaled then none
      else
        let rounded? : Option ℤ := match rounding with
          | .towardZero => some (Double.trunc scaled)
          | .rejectUnaligned =>
            let rounded := Double.round scaled
            -- twice the machine epsilon, relative to the scaled value
            let tolerance := max (FloatFormat.longDouble (1 / 10 ^ 7))
              (|scaled| * (1 / 2 ^ 52) * 2)
            if tolerance < |scaled - rounded| then none else some rounded
          | .nearestTiesAwayFromZero => some (Double.round scaled)
        match rounded? with
        | none => none
        | some rounded =>
          if rounded < Int64.minValue.toInt ∨ Int64.maxValue.toInt < rounded then none
          else some ⟨Int64.ofInt rounded, scale⟩
  | _ => none

end Decimal64

/-- `OrderSide` -/
inductive OrderSide where
  | buy
  | sell
  deriving DecidableEq

/-- `BrokerOrderType` -/
inductive BrokerOrderType where
  | market
  | limit
  | stop
  | unknown
  deriving DecidableEq

/-- `OrderLifecycleState` -/
inductive OrderLifecycleState where
  | created
  | riskChecked
  | submitted
  | accepted
  | partiallyFilled
  | filled
  | cancelRequested
  | canceled
  | expired
  | rejected
  | timeout
  | unknown
  | reconciled
  deriving DecidableEq

/-- `FailureCategory` -/
inductive FailureCategory where
  | none
  | validation
  | rejected
  | transport
  | timeout
  | authentication
  | rateLimited
  | staleData
  | malformedEvent
  | reconciliationMismatch
  | unknown
  deriving DecidableEq

/-- `AdapterHealthState` -/
inductive AdapterHealthState where
  | disconnected
  | connected
  | degraded
  | stale
  | rateLimited
  | authenticationFailed
  | unknown
  deriving DecidableEq

/-- `CancelDisposition` -/
inductive CancelDisposition where
  | accepted
  | rejected
  | alreadyFilled
  | alreadyCanceled
  | unknown
  deriving DecidableEq

/-- `RuleBreachAction` -/
inductive RuleBreachAction where
  | warn
  | pause
  | flatten
  | cancelPending
  | closeOnly
  | readOnly
  | halt
  | termination
  | rewardAdjustment
  deriving DecidableEq

/-- `OrderRequest` -/
structure OrderRequest where
  schemaVersion : ℕ := 1
  localOrderId : ℕ := 0
  canonicalSymbol : String := ""
  side : OrderSide := .buy
  type : BrokerOrderType := .market
  quantity : Decimal64 := {}
  limitPrice : Option Decimal64 := none
  stopPrice : Option Decimal64 := none
  referencePrice : Option Decimal64 := none
  sourceId : String := ""
  timestampNs : ℕ := 0
  sequence : ℕ := 0
  idempotencyKey : String := ""
  deriving DecidableEq

/-- `NormalizedOrder` -/
structure NormalizedOrder where
  request : OrderRequest
  executionSymbol : String
  normalizedQuantity : Decimal64
  normalizedLimitPrice : Option Decimal64
  normalizedStopPrice : Option Decimal64
  normalizedReferencePrice : Option Decimal64
  instrumentVersion : ℕ
  deriving DecidableEq

/-- `OrderAcknowledgement` -/
structure OrderAcknowledgement where
  schemaVersion : ℕ := 1
  localOrderId : ℕ := 0
  externalOrderId : String := ""
  accepted : Bool := false
  failure : FailureCategory := .none
  reason : String := ""
  timestampNs : ℕ := 0
  sequence : ℕ := 0
  eventKey : String := ""
  deriving DecidableEq

/-- `ExecutionEvent` -/
structure ExecutionEvent where
  schemaVersion : ℕ := 1
  localOrderId : ℕ := 0
  externalOrderId : String := ""
  cumulativeFilledQuantity : Decimal64 := {}
  remainingQuantity : Decimal64 := {}
  fillPrice : Decimal64 := {}
  fee : Decimal64 := {}
  timestampNs : ℕ := 0
  sequence : ℕ := 0
  eventKey : String := ""
  deriving DecidableEq

/-- `CancelRequest` -/
structure CancelRequest where
  schemaVersion : ℕ := 1
  localOrderId : ℕ := 0
  externalOrderId : String := ""
  timestampNs : ℕ := 0
  sequence : ℕ := 0
  idempotencyKey : String := ""
  deriving DecidableEq

/-- `CancelResult` -/
structure CancelResult where
  schemaVersion : ℕ := 1
  localOrderId : ℕ := 0
  disposition : CancelDisposition := .unknown
  failure : FailureCategory := .none
  reason : String := ""
  timestampNs : ℕ := 0
  sequence : ℕ := 0
  eventKey : String := ""
  deriving DecidableEq

/-- `InstrumentSpec` -/
structure InstrumentSpec where
  schemaVersion : ℕ := 1
  version : ℕ := 0
  canonicalSymbol : String := ""
  executionAlias : String := ""
  tickSize : Decimal64 := {}
  contractSize : Decimal64 := {}
  minimumQuantity : Decimal64 := {}
  maximumQuantity : Decimal64 := {}
  quantityStep : Decimal64 := {}
  effectiveTimestampNs : ℕ := 0
  complete : Bool := false
  deriving DecidableEq

/-- `AdapterHealthEvent` -/
structure AdapterHealthEvent where
  schemaVersion : ℕ := 1
  state : AdapterHealthState := .unknown
  timestampNs : ℕ := 0
  sequence : ℕ := 0
  latencyMs : ℕ := 0
  failure : FailureCategory := .none
  reason : String := ""
  eventKey : String := ""
  deriving DecidableEq

/-- `RiskDecision` -/
structure RiskDecision where
  allowed : Bool := false
  riskIncreasing : Bool := true
  failure : FailureCategory := .none
  action : RuleBreachAction := .halt
  reason : String := ""
  deriving DecidableEq

end TradeBot
