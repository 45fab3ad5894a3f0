import TradeBot.OrderLifecycleStore
import TradeBot.RiskEngine

/-!
# The broker gateway

`BrokerGateway.cpp`: orders are normalized to the instrument, created in the
lifecycle store, and handed to the adapter; what the adapter reports goes through the
store, and only an applied report reaches the observers. The adapter is outside:
the gateway sees whether it is connected and whether it accepts a submission.
-/

namespace TradeBot

open Library

/-- `rescaleTowardZero`, upwards: multiplications by ten that must not overflow. -/
def rescaleUp (units : Int64) : ℕ → Option Int64
  | 0 => some units
  | steps + 1 =>
    if Int64.maxValue / 10 < units ∨ units < Int64.minValue / 10 then none
    else rescaleUp (units * 10) steps

/-- `rescaleTowardZero`, downwards: divisions by ten. -/
def rescaleDown (units : Int64) : ℕ → Int64
  | 0 => units
  | steps + 1 => rescaleDown (units / 10) steps

/-- `rescaleTowardZero` -/
def rescaleTowardZero (value : Decimal64) (targetScale : ℕ) : Option Decimal64 :=
  if Decimal64.maxScale < value.scale ∨ Decimal64.maxScale < targetScale then none
  else (rescaleUp value.units (targetScale - value.scale)).map fun units =>
    ⟨rescaleDown units (value.scale - targetScale), targetScale⟩

/-- `normalizeToStep` -/
def normalizeToStep (value step : Decimal64) : Option Decimal64 :=
  if !value.isPositive || !step.isPositive then none
  else (rescaleTowardZero value step.scale).map fun scaled =>
    ⟨scaled.units / step.units * step.units, step.scale⟩

/-- `defaultInstrument` -/
def defaultInstrument (request : OrderRequest) : InstrumentSpec where
  version := 1
  canonicalSymbol := request.canonicalSymbol
  executionAlias := request.canonicalSymbol
  tickSize := ⟨1, 8⟩
  contractSize := ⟨1, 0⟩
  minimumQuantity := ⟨1, request.quantity.scale⟩
  maximumQuantity := ⟨Int64.maxValue, request.quantity.scale⟩
  quantityStep := ⟨1, request.quantity.scale⟩
  complete := true

/-- `GatewayDispatchResult` -/
structure GatewayDispatchResult where
  dispatched : Bool := false
  localOrderId : ℕ := 0
  failure : FailureCategory := .none
  reason : String := ""
  deriving DecidableEq

/-- The adapters a gateway can hold, as far as `adapterAuthorized` tells them apart. -/
inductive AdapterKind where
  | absent
  | deterministic
  | external
  deriving DecidableEq

/-- The state of `BrokerGateway`. `adapterConnected` is what the adapter's own
`isConnected` reports. -/
structure BrokerGateway where
  config : SystemConfig := {}
  adapter : AdapterKind := .absent
  liveAdapterApproved : Bool := false
  adapterConnected : Bool := false
  lifecycle : OrderLifecycleStore := .empty
  symbolAliases : KeyedMap String String := ∅
  instrumentSpecs : KeyedMap String InstrumentSpec := ∅
  health : AdapterHealthEvent := {}
  totalOrdersSubmitted : ℕ := 0
  totalFillsReceived : ℕ := 0
  totalApiErrors : ℕ := 0

namespace BrokerGateway

/-- `adapterAuthorized` -/
def adapterAuthorized (gateway : BrokerGateway) : Bool :=
  gateway.config.isPaperMode || (gateway.config.canEnterLiveRuntime && gateway.liveAdapterApproved
    && decide (gateway.adapter ≠ .deterministic))

/-- `isConnected` -/
def isConnected (gateway : BrokerGateway) : Bool :=
  gateway.adapterAuthorized && decide (gateway.adapter ≠ .absent) && gateway.adapterConnected

/-- `setSymbolAlias` -/
def setSymbolAlias (gateway : BrokerGateway) (canonicalSymbol executionAlias : String) :
    BrokerGateway :=
  { gateway with symbolAliases := gateway.symbolAliases.insert canonicalSymbol executionAlias }

/-- `setInstrumentSpec` -/
def setInstrumentSpec (gateway : BrokerGateway) (spec : InstrumentSpec) : BrokerGateway :=
  { gateway with
    instrumentSpecs := gateway.instrumentSpecs.insert spec.canonicalSymbol spec }

/-- `orderLifecycle` -/
def orderLifecycle (gateway : BrokerGateway) (localOrderId : ℕ) : Option OrderLifecycleRecord :=
  gateway.lifecycle.find localOrderId

/-- The instrument of a request: the configured one, or the default. -/
def instrumentOf (gateway : BrokerGateway) (request : OrderRequest) : InstrumentSpec :=
  (gateway.instrumentSpecs.lookup request.canonicalSymbol).getD (defaultInstrument request)

/-- The order type comes with the price it needs. -/
def hasPriceEvidence (request : OrderRequest) : Bool :=
  match request.type with
  | .market => request.referencePrice.isSome
  | .limit => request.limitPrice.isSome
  | .stop => request.stopPrice.isSome
  | .unknown => false

/-- The normalized quantity, when the instrument admits it. -/
def normalizeQuantity (spec : InstrumentSpec) (quantity : Decimal64) : Except String Decimal64 :=
  match normalizeToStep quantity spec.quantityStep with
  | none => .error "quantity normalizes to zero or is not representable"
  | some normalized =>
    if !normalized.isPositive then .error "quantity normalizes to zero or is not representable"
    else
      match rescaleTowardZero spec.minimumQuantity normalized.scale,
        rescaleTowardZero spec.maximumQuantity normalized.scale with
      | some minimum, some maximum =>
        if normalized.units < minimum.units ∨ maximum.units < normalized.units then
          .error "normalized quantity violates instrument bounds"
        else .ok normalized
      | _, _ => .error "normalized quantity violates instrument bounds"

/-- `normalizeOrder`: the normalized order, or the reason for the rejection. -/
def normalizeOrder (gateway : BrokerGateway) (request : OrderRequest) :
    Except String NormalizedOrder :=
  if request.localOrderId = 0 ∨ request.canonicalSymbol = "" ∨ !request.quantity.isPositive
      ∨ request.idempotencyKey = "" then .error "invalid broker-neutral order request"
  else if !hasPriceEvidence request then .error "order type lacks required price evidence"
  else
    let spec := gateway.instrumentOf request
    let executionAlias :=
      (gateway.symbolAliases.lookup request.canonicalSymbol).getD spec.executionAlias
    if !spec.complete || !spec.quantityStep.isPositive then
      .error "instrument metadata is incomplete"
    else
      match normalizeQuantity spec request.quantity with
      | .error reason => .error reason
      | .ok normalizedQuantity =>
        let normalizePrice : Option Decimal64 → Option Decimal64 := fun price =>
          price.bind fun p => normalizeToStep p spec.tickSize
        if (request.limitPrice.isSome ∧ (normalizePrice request.limitPrice).isNone)
            ∨ (request.stopPrice.isSome ∧ (normalizePrice request.stopPrice).isNone)
            ∨ (request.referencePrice.isSome ∧ (normalizePrice request.referencePrice).isNone) then
          .error "price is not representable for instrument tick size"
        else .ok {
          request := request
          executionSymbol := if executionAlias = "" then request.canonicalSymbol
            else executionAlias
          normalizedQuantity := normalizedQuantity
          normalizedLimitPrice := normalizePrice request.limitPrice
          normalizedStopPrice := normalizePrice request.stopPrice
          normalizedReferencePrice := normalizePrice request.referencePrice
          instrumentVersion := spec.version }

/-- The request that `dispatchOrder` creates in the store. -/
def lifecycleRequest (order : NormalizedOrder) : OrderRequest :=
  { order.request with
    quantity := order.normalizedQuantity
    limitPrice := order.normalizedLimitPrice
    stopPrice := order.normalizedStopPrice
    referencePrice := order.normalizedReferencePrice }

/-- `"gateway-risk-"` with the order's identifier. -/
def riskKey (localOrderId : ℕ) : String := "gateway-risk-" ++ toString localOrderId

/-- `"gateway-submit-"` with the order's identifier. -/
def submitKey (localOrderId : ℕ) : String := "gateway-submit-" ++ toString localOrderId

/-- The marks that `dispatchOrder` sets on a created order. -/
def markDispatched (store : OrderLifecycleStore) (request : OrderRequest) :
    OrderLifecycleStore × Bool :=
  match store.markRiskChecked request.localOrderId (riskKey request.localOrderId)
      request.timestampNs ((request.sequence + 1) % 2 ^ 64) with
  | (store, .applied) =>
    match store.markSubmitted request.localOrderId (submitKey request.localOrderId)
        request.timestampNs ((request.sequence + 2) % 2 ^ 64) with
    | (store, .applied) => (store, true)
    | (store, _) => (store, false)
  | (store, _) => (store, false)

/-- `dispatchOrder` up to the adapter's `submit`: the refusal, or none when the
order is handed to the adapter. -/
def beginDispatch (gateway : BrokerGateway) (order : NormalizedOrder)
    (finalRiskDecision : RiskDecision) : BrokerGateway × Option GatewayDispatchResult :=
  let localOrderId := order.request.localOrderId
  if !finalRiskDecision.allowed then
    (gateway, some {
      localOrderId := localOrderId
      failure := if finalRiskDecision.failure = .none then .validation
        else finalRiskDecision.failure
      reason := if finalRiskDecision.reason = "" then
        "final quantity-aware risk decision rejected dispatch" else finalRiskDecision.reason })
  else if !gateway.isConnected then
    ({ gateway with totalApiErrors := gateway.totalApiErrors + 1 }, some {
      localOrderId := localOrderId
      failure := .transport
      reason := if gateway.config.isLiveMode then
        "LIVE dispatch blocked: adapter not approved or connected" else "adapter not connected" })
  else
    match gateway.lifecycle.create (lifecycleRequest order) with
    | (_, false) =>
      ({ gateway with totalApiErrors := gateway.totalApiErrors + 1 }, some {
        localOrderId := localOrderId
        failure := .validation
        reason := "duplicate or invalid order identity" })
    | (store, true) =>
      match markDispatched store order.request with
      | (store, false) =>
        ({ gateway with
          lifecycle := store
          totalApiErrors := gateway.totalApiErrors + 1 }, some {
            localOrderId := localOrderId
            failure := .validation
            reason := "lifecycle dispatch transition failed" })
      | (store, true) =>
        ({ gateway with
          lifecycle := store
          totalOrdersSubmitted := gateway.totalOrdersSubmitted + 1 }, none)

/-- `dispatchOrder` from the return of the adapter's `submit` on. -/
def finishDispatch (gateway : BrokerGateway) (order : NormalizedOrder) (submitted : Bool) :
    BrokerGateway × GatewayDispatchResult :=
  let localOrderId := order.request.localOrderId
  if submitted then (gateway, { dispatched := true, localOrderId := localOrderId })
  else
    let (store, _) := gateway.lifecycle.markUnknown localOrderId
      ("gateway-dispatch-failed-" ++ toString localOrderId) .transport
      "adapter refused dispatch" order.request.timestampNs ((order.request.sequence + 3) % 2 ^ 64)
    ({ gateway with
      lifecycle := store
      totalApiErrors := gateway.totalApiErrors + 1 }, {
        localOrderId := localOrderId
        failure := .transport
        reason := "adapter refused dispatch" })

/-- `requestCancel` up to the adapter's `cancel`: whether the adapter is asked. -/
def beginCancel (gateway : BrokerGateway) (request : CancelRequest) : BrokerGateway × Bool :=
  if !gateway.isConnected then (gateway, false)
  else
    match gateway.lifecycle.requestCancel request with
    | (store, .applied) => ({ gateway with lifecycle := store }, true)
    | (_, _) => (gateway, false)

/-- `requestCancel` from the return of the adapter's `cancel` on. -/
def finishCancel (gateway : BrokerGateway) (request : CancelRequest) (canceled : Bool) :
    BrokerGateway × Bool :=
  if canceled then (gateway, true)
  else
    let (store, _) := gateway.lifecycle.markUnknown request.localOrderId
      ("gateway-cancel-dispatch-failed-" ++ toString request.localOrderId) .transport
      "adapter refused cancel dispatch" request.timestampNs ((request.sequence + 1) % 2 ^ 64)
    ({ gateway with lifecycle := store }, false)

/-- `handleAcknowledgement`, and whether the callback is called. -/
def handleAcknowledgement (gateway : BrokerGateway) (acknowledgement : OrderAcknowledgement) :
    BrokerGateway × Bool :=
  match gateway.lifecycle.applyAcknowledgement acknowledgement with
  | (store, .applied) =>
    ({ gateway with
      lifecycle := store
      totalApiErrors :=
        if acknowledgement.accepted then gateway.totalApiErrors else gateway.totalApiErrors + 1 },
      true)
  | (_, _) => ({ gateway with totalApiErrors := gateway.totalApiErrors + 1 }, false)

/-- `handleExecution`, and whether the observers are called. -/
def handleExecution (gateway : BrokerGateway) (execution : ExecutionEvent) :
    BrokerGateway × Bool :=
  match gateway.lifecycle.applyExecution execution with
  | (store, .applied) =>
    ({ gateway with
      lifecycle := store
      totalFillsReceived := gateway.totalFillsReceived + 1 }, true)
  | (_, .duplicate) => (gateway, false)
  | (_, _) => ({ gateway with totalApiErrors := gateway.totalApiErrors + 1 }, false)

/-- `handleCancel` -/
def handleCancel (gateway : BrokerGateway) (result : CancelResult) : BrokerGateway :=
  match gateway.lifecycle.applyCancelResult result with
  | (store, .applied) => { gateway with lifecycle := store }
  | (_, _) => { gateway with totalApiErrors := gateway.totalApiErrors + 1 }

/-- `handleHealth` -/
def handleHealth (gateway : BrokerGateway) (health : AdapterHealthEvent) : BrokerGateway :=
  { gateway with health := health }

end BrokerGateway

end TradeBot
