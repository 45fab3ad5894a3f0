import TradeBot.BrokerAdapterContracts
import TradeBot.FinancialMath
import TradeBot.Library.KeyedTotals

/-!
# The deterministic paper adapter

`DeterministicBrokerAdapter.cpp`: it acknowledges every submission and fills it at
once, with its own slippage and fee arithmetic, subject to injected errors, drops,
reconnects and partial fills. Its events are delivered during `submit`, in order.
-/

namespace TradeBot

open Library Financial

/-- `FaultConfig` -/
structure FaultConfig where
  enabled : Bool := false
  dropEveryN : ℕ := 0
  latencySpikeEveryN : ℕ := 0
  latencySpikeMs : ℕ := 0
  disconnectEveryN : ℕ := 0
  deriving DecidableEq

/-- What an adapter can report to the gateway. -/
inductive BrokerEvent where
  | acknowledgement (acknowledgement : OrderAcknowledgement)
  | execution (execution : ExecutionEvent)
  | cancelResult (result : CancelResult)
  | health (health : AdapterHealthEvent)
  deriving DecidableEq

/-- 0.1 % and 5 bps are rates. -/
theorem tenthPercent_nonneg : (⟨100000⟩ : Fraction).isNegative = false := by decide

/-- 0.1 % is less than the whole. -/
theorem tenthPercent_lt_one : (⟨100000⟩ : Fraction).units < scaleFactor := by decide

/-- 5 bps are not negative. -/
theorem fiveBps_nonneg : (⟨50000⟩ : Fraction).isNegative = false := by decide

/-- 5 bps are less than the whole. -/
theorem fiveBps_lt_one : (⟨50000⟩ : Fraction).units < scaleFactor := by decide

/-- The state of `DeterministicBrokerAdapter`. -/
structure DeterministicBrokerAdapter where
  connected : Bool := false
  everConnected : Bool := false
  sequence : ℕ := 0
  submitCount : ℕ := 0
  faultDrops : ℕ := 0
  faultLatencySpikes : ℕ := 0
  faultDisconnects : ℕ := 0
  connectCount : ℕ := 0
  disconnectCount : ℕ := 0
  reconnectCount : ℕ := 0
  injectError : Bool := false
  injectedError : String := ""
  partialFillRatio : Option Double := none
  feeRate : Rate := ⟨⟨100000⟩, tenthPercent_nonneg, tenthPercent_lt_one⟩
  slippageRate : Rate := ⟨⟨50000⟩, fiveBps_nonneg, fiveBps_lt_one⟩
  faultConfig : FaultConfig := {}
  health : AdapterHealthEvent := {}
  pendingOrders : KeyedMap ℕ NormalizedOrder := ∅

namespace DeterministicBrokerAdapter

variable [FloatFormat]

/-- `setSimulationCosts` -/
def setSimulationCosts (adapter : DeterministicBrokerAdapter) (feeRate slippageBps : Double) :
    DeterministicBrokerAdapter × Bool :=
  match Rate.ofFraction (fraction feeRate),
    Rate.ofFraction (fraction (slippageBps / .finite 10000)) with
  | some fee, some slippage => ({ adapter with feeRate := fee, slippageRate := slippage }, true)
  | _, _ => (adapter, false)

/-- The health event of a connection change. -/
def healthEvent (state : AdapterHealthState) (timestampNs sequence : ℕ)
    (failure : FailureCategory := .none) (reason : String := "") : AdapterHealthEvent where
  state := state
  timestampNs := timestampNs
  sequence := sequence
  failure := failure
  reason := reason
  eventKey := "health-" ++ toString sequence

/-- `connect`: the events it delivers. It always succeeds. -/
def connect (adapter : DeterministicBrokerAdapter) :
    DeterministicBrokerAdapter × List BrokerEvent :=
  if adapter.connected then (adapter, [])
  else
    let event := healthEvent .connected 0 (adapter.sequence + 1)
    ({ adapter with
      reconnectCount :=
        if adapter.everConnected then adapter.reconnectCount + 1 else adapter.reconnectCount
      connected := true
      everConnected := true
      connectCount := adapter.connectCount + 1
      sequence := adapter.sequence + 1
      health := event }, [.health event])

/-- `disconnect`: the events it delivers. -/
def disconnect (adapter : DeterministicBrokerAdapter) :
    DeterministicBrokerAdapter × List BrokerEvent :=
  if !adapter.connected then (adapter, [])
  else
    let event := healthEvent .disconnected 0 (adapter.sequence + 1)
    ({ adapter with
      connected := false
      disconnectCount := adapter.disconnectCount + 1
      sequence := adapter.sequence + 1
      health := event }, [.health event])

/-- `injectNextError` -/
def injectNextError (adapter : DeterministicBrokerAdapter) (reason : String) :
    DeterministicBrokerAdapter :=
  { adapter with injectError := true, injectedError := reason }

/-- `injectNextPartialFill` -/
def injectNextPartialFill (adapter : DeterministicBrokerAdapter) (ratio : Double) :
    DeterministicBrokerAdapter :=
  { adapter with
    partialFillRatio :=
      if ratio.isFinite ∧ 0 < ratio ∧ ratio < .finite 1 then some ratio else none }

/-- `setFaultConfig` -/
def setFaultConfig (adapter : DeterministicBrokerAdapter) (config : FaultConfig) :
    DeterministicBrokerAdapter :=
  { adapter with faultConfig := config }

/-- Every `n`-th submission is hit by an enabled fault. -/
def faultHits (adapter : DeterministicBrokerAdapter) (n : ℕ) : Bool :=
  adapter.faultConfig.enabled && decide (0 < n) && decide ((adapter.submitCount + 1) % n = 0)

/-- The injected reconnect of `submit`, and the health event it publishes. -/
def reconnectFault (adapter : DeterministicBrokerAdapter) (order : NormalizedOrder) :
    DeterministicBrokerAdapter × List BrokerEvent :=
  if adapter.faultHits adapter.faultConfig.disconnectEveryN then
    let event := healthEvent .connected order.request.timestampNs (adapter.sequence + 1) .transport
      "deterministic disconnect and reconnect"
    ({ adapter with
      faultDisconnects := adapter.faultDisconnects + 1
      disconnectCount := adapter.disconnectCount + 1
      reconnectCount := adapter.reconnectCount + 1
      connected := true
      sequence := adapter.sequence + 1
      health := event }, [.health event])
  else (adapter, [])

/-- The injected latency spike of `submit`. -/
def latencyFault (adapter : DeterministicBrokerAdapter) : DeterministicBrokerAdapter :=
  if adapter.faultHits adapter.faultConfig.latencySpikeEveryN
      ∧ 0 < adapter.faultConfig.latencySpikeMs then
    { adapter with
      faultLatencySpikes := adapter.faultLatencySpikes + 1
      health := { adapter.health with latencyMs := adapter.faultConfig.latencySpikeMs } }
  else adapter

/-- The filled and remaining quantity of the fill that `submit` makes. -/
def fillQuantities (adapter : DeterministicBrokerAdapter) (quantity : Decimal64) :
    Decimal64 × Decimal64 :=
  match adapter.partialFillRatio with
  | none => (quantity, ⟨0, quantity.scale⟩)
  | some ratio =>
    match Decimal64.fromDouble (quantity.toDouble * ratio) quantity.scale .towardZero with
    | none => (quantity, ⟨0, quantity.scale⟩)
    | some part =>
      if part.isPositive ∧ part.units < quantity.units then
        (part, ⟨quantity.units - part.units, quantity.scale⟩)
      else (quantity, ⟨0, quantity.scale⟩)

/-- The price and the fee of a fill, when the arithmetic represents them. -/
def fillCosts (adapter : DeterministicBrokerAdapter) (order : NormalizedOrder)
    (filled : Decimal64) : Option (Price × Money) := do
  let referencePrice := order.normalizedLimitPrice.getD
    (order.normalizedStopPrice.getD (order.normalizedReferencePrice.getD {}))
  let normalizedPrice ← price referencePrice.toDouble .rejectUnaligned
  let normalizedQuantity ← quantity filled.toDouble .rejectUnaligned
  let slippedPrice ← applySlippage normalizedPrice adapter.slippageRate.value
    (decide (order.request.side = .buy))
  let fillNotional ← notional slippedPrice normalizedQuantity
  let fillFee ← fee fillNotional adapter.feeRate.value
  if normalizedQuantity.isPositive then some (slippedPrice, fillFee) else none

/-- The acknowledgement of a submission, before its outcome is filled in. -/
def acknowledgementOf (order : NormalizedOrder) : OrderAcknowledgement where
  localOrderId := order.request.localOrderId
  timestampNs := order.request.timestampNs
  sequence := (order.request.sequence + 3) % 2 ^ 64
  eventKey := "ack-" ++ toString order.request.localOrderId

/-- The fill of a submission. -/
def executionOf (order : NormalizedOrder) (filled remaining : Decimal64) (slippedPrice : Price)
    (fillFee : Money) : ExecutionEvent where
  localOrderId := order.request.localOrderId
  externalOrderId := "paper-" ++ toString order.request.localOrderId
  cumulativeFilledQuantity := filled
  remainingQuantity := remaining
  fillPrice := ⟨slippedPrice.units, Financial.scale⟩
  fee := ⟨fillFee.units, Financial.scale⟩
  timestampNs := order.request.timestampNs
  sequence := (order.request.sequence + 4) % 2 ^ 64
  eventKey := "fill-" ++ toString order.request.localOrderId ++ "-1"

/-- The part of `submit` that answers: a rejection under an injected error or drop,
otherwise an acceptance with its fill, unless the fill is not representable. -/
def answer (adapter : DeterministicBrokerAdapter) (drop : Bool) (order : NormalizedOrder) :
    DeterministicBrokerAdapter × List BrokerEvent :=
  if adapter.injectError ∨ drop then
    ({ adapter with
      faultDrops := if drop then adapter.faultDrops + 1 else adapter.faultDrops
      injectError := false
      injectedError := "" }, [.acknowledgement { acknowledgementOf order with
        failure := if drop then .transport else .rejected
        reason := if drop then "deterministic fault drop" else adapter.injectedError }])
  else
    let (filled, remaining) := adapter.fillQuantities order.normalizedQuantity
    let adapter := { adapter with partialFillRatio := none }
    match adapter.fillCosts order filled with
    | none => (adapter, [.acknowledgement { acknowledgementOf order with
        failure := .validation
        reason := "paper fill arithmetic is not representable" }])
    | some (slippedPrice, fillFee) =>
      ({ adapter with
        pendingOrders := if remaining.isZero then adapter.pendingOrders
          else adapter.pendingOrders.insert order.request.localOrderId order }, [
        .acknowledgement { acknowledgementOf order with
          accepted := true
          externalOrderId := "paper-" ++ toString order.request.localOrderId },
        .execution (executionOf order filled remaining slippedPrice fillFee)])

/-- `submit`: whether the submission is accepted for processing, and the events that
it delivers before it returns. -/
def submit (adapter : DeterministicBrokerAdapter) (order : NormalizedOrder) :
    DeterministicBrokerAdapter × Option (List BrokerEvent) :=
  if !adapter.connected then (adapter, none)
  else
    let (reconnected, healthEvents) := adapter.reconnectFault order
    let drop := adapter.faultHits adapter.faultConfig.dropEveryN
    let (answered, events) := reconnected.latencyFault.answer drop order
    ({ answered with submitCount := adapter.submitCount + 1 }, some (healthEvents ++ events))

/-- `cancel`: whether the request is accepted for processing, and the events that it
delivers before it returns. -/
def cancel (adapter : DeterministicBrokerAdapter) (request : CancelRequest) :
    DeterministicBrokerAdapter × Option (List BrokerEvent) :=
  if !adapter.connected then (adapter, none)
  else
    ({ adapter with pendingOrders := adapter.pendingOrders.erase request.localOrderId },
      some [.cancelResult {
        localOrderId := request.localOrderId
        disposition := if request.localOrderId ∈ adapter.pendingOrders then .accepted
          else .alreadyFilled
        timestampNs := request.timestampNs
        sequence := (request.sequence + 1) % 2 ^ 64
        eventKey := "cancel-result-" ++ toString request.localOrderId }])

end DeterministicBrokerAdapter

end TradeBot
