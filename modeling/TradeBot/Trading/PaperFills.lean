import TradeBot.Trading.Protection

/-!
# Orders over an unhindered paper adapter

Without injected faults and without instrument overrides an order goes through the gateway
as it was requested: it keeps its quantity and its price, it is recorded under the engine's
next identifier, and the adapter accepts it and fills it whole.
-/

namespace TradeBot

open Library Financial

variable [FloatFormat]

/-- A value at the engine's scale is the same double as a broker decimal. -/
theorem Decimal64.toDouble_units [ExactFormat] {tag : Tag} (value : Value tag) :
    Decimal64.toDouble ⟨value.units, Financial.scale⟩ = value.toDouble := by
  have hfactor (scale : ℕ) : factor scale = 10 ^ scale := by
    induction scale with
    | zero => rw [factor, pow_zero]
    | succ scale ih => rw [factor, ExactFormat.double_eq, ih, pow_succ]
  rw [Decimal64.toDouble, Value.toDouble, hfactor, scaleFactor_eq]

namespace DeterministicBrokerAdapter

variable {adapter : DeterministicBrokerAdapter} {order : NormalizedOrder}

/-- The adapter is connected, and no fault, error or partial fill is injected. -/
structure Unhindered (adapter : DeterministicBrokerAdapter) : Prop where
  connected : adapter.connected = true
  noFault : adapter.faultConfig.enabled = false
  noError : adapter.injectError = false
  whole : adapter.partialFillRatio = none

omit [FloatFormat] in
/-- No fault hits an unhindered adapter. -/
theorem Unhindered.faultHits (h : adapter.Unhindered) (n : ℕ) : adapter.faultHits n = false := by
  rw [DeterministicBrokerAdapter.faultHits, h.noFault, Bool.false_and, Bool.false_and]

/-- An unhindered adapter accepts an order whose fill it can represent, and fills it whole. -/
theorem Unhindered.submit (h : adapter.Unhindered) {slippedPrice : Price} {fillFee : Money}
    (hcosts : adapter.fillCosts order order.normalizedQuantity = some (slippedPrice, fillFee)) :
    adapter.submit order = ({ adapter with submitCount := adapter.submitCount + 1 },
      some [.acknowledgement (acceptanceOf order), .execution (executionOf order
        order.normalizedQuantity ⟨0, order.normalizedQuantity.scale⟩ slippedPrice fillFee)]) := by
  have hreconnect : adapter.reconnectFault order = (adapter, []) := by
    rw [reconnectFault, h.faultHits, if_neg Bool.false_ne_true]
  have hlatency : adapter.latencyFault = adapter := by
    rw [latencyFault, h.faultHits, if_neg (fun hspike => absurd hspike.1 Bool.false_ne_true)]
  have hfill : adapter.fillQuantities order.normalizedQuantity =
      (order.normalizedQuantity, ⟨0, order.normalizedQuantity.scale⟩) := by
    rw [fillQuantities, h.whole]
  have hwhole : ({ adapter with partialFillRatio := none } : DeterministicBrokerAdapter) =
      adapter := by
    rw [← h.whole]
  have hzero : Decimal64.isZero ⟨0, order.normalizedQuantity.scale⟩ = true := decide_eq_true rfl
  have hanswer : adapter.answer false order = (adapter, [
      .acknowledgement (acceptanceOf order), .execution (executionOf order
        order.normalizedQuantity ⟨0, order.normalizedQuantity.scale⟩ slippedPrice fillFee)]) := by
    have hnone : ¬(adapter.injectError = true ∨ false = true) := by
      rw [h.noError]
      decide
    rw [answer, if_neg hnone, hfill]
    dsimp only
    rw [hwhole, hcosts]
    dsimp only
    rw [if_pos hzero, hwhole]
    rfl
  rw [submit_of_connected h.connected, drops, h.faultHits, hreconnect]
  dsimp only
  rw [hlatency, hanswer]
  rfl

omit [FloatFormat] in
/-- Counting submissions does not hinder it. -/
theorem Unhindered.counted (h : adapter.Unhindered) (submitCount : ℕ) :
    Unhindered { adapter with submitCount := submitCount } :=
  ⟨h.connected, h.noFault, h.noError, h.whole⟩

end DeterministicBrokerAdapter

namespace BrokerGateway

variable {gateway : BrokerGateway} {request : OrderRequest}

omit [FloatFormat] in
/-- A quantity that is positive meets the default instrument as it is. -/
theorem normalizeQuantity_default (hquantity : request.quantity.isPositive = true)
    (hscale : request.quantity.scale ≤ Decimal64.maxScale) :
    normalizeQuantity (defaultInstrument request) request.quantity = .ok request.quantity := by
  have hunits : 0 < request.quantity.units.toInt := by
    rw [Decimal64.isPositive, decide_eq_true_iff, Int64.lt_iff_toInt_lt] at hquantity
    exact hquantity
  have hrescale (units : Int64) :
      rescaleTowardZero ⟨units, request.quantity.scale⟩ request.quantity.scale =
        some ⟨units, request.quantity.scale⟩ := by
    simp only [rescaleTowardZero, not_lt.mpr hscale, or_self, if_false, Nat.sub_self, rescaleUp,
      Option.map_some, rescaleDown]
  have hbounds : ¬(request.quantity.units < 1 ∨ Int64.maxValue < request.quantity.units) := by
    have hone : (1 : Int64).toInt = 1 := rfl
    have hmax : Int64.maxValue.toInt = 2 ^ 63 - 1 := rfl
    have hbound := Int64.toInt_lt request.quantity.units
    rw [Int64.lt_iff_toInt_lt, Int64.lt_iff_toInt_lt]
    omega
  rw [normalizeQuantity, defaultInstrument]
  dsimp only
  rw [normalizeToStep_unit hquantity hscale]
  dsimp only
  rw [hquantity, if_neg (by decide), hrescale, hrescale]
  dsimp only
  rw [if_neg hbounds]

omit [FloatFormat] in
/-- Without instrument overrides a market order keeps its quantity and its reference price. -/
theorem normalizeOrder_default (hspecs : gateway.instrumentSpecs = ∅)
    (hid : request.localOrderId ≠ 0) (hsymbol : request.canonicalSymbol ≠ "")
    (hkey : request.idempotencyKey ≠ "") (htype : request.type = .market)
    (hquantity : request.quantity.isPositive = true)
    (hscale : request.quantity.scale ≤ Decimal64.maxScale)
    (hlimit : request.limitPrice = none) (hstop : request.stopPrice = none) {price : Price}
    (hprice : request.referencePrice = some ⟨price.units, Financial.scale⟩)
    (hpositive : price.isPositive = true) :
    ∃ order, gateway.normalizeOrder request = .ok order ∧ order.request = request ∧
      order.normalizedQuantity = request.quantity ∧ order.normalizedLimitPrice = none ∧
      order.normalizedStopPrice = none ∧
      order.normalizedReferencePrice = some ⟨price.units, Financial.scale⟩ := by
  have hspec : gateway.instrumentOf request = defaultInstrument request := by
    rw [instrumentOf, hspecs, AList.lookup_empty, Option.getD_none]
  have htick : normalizeToStep ⟨price.units, Financial.scale⟩ (defaultInstrument request).tickSize =
      some ⟨price.units, Financial.scale⟩ :=
    @normalizeToStep_unit ⟨price.units, Financial.scale⟩ hpositive
      (show Financial.scale ≤ Decimal64.maxScale by decide)
  have hnormalized := normalizeQuantity_default hquantity hscale
  have hinvalid : ¬(request.localOrderId = 0 ∨ request.canonicalSymbol = "" ∨
      (!request.quantity.isPositive) = true ∨ request.idempotencyKey = "") := by
    rw [hquantity]
    simp [hid, hsymbol, hkey]
  have hevidence : hasPriceEvidence request = true := by
    rw [hasPriceEvidence, htype, hprice]
    rfl
  unfold normalizeOrder
  have hcomplete : (!(defaultInstrument request).complete ||
      !(defaultInstrument request).quantityStep.isPositive) = false := rfl
  rw [if_neg hinvalid, hevidence, if_neg (by decide), hspec]
  dsimp only
  rw [hcomplete, if_neg Bool.false_ne_true, hnormalized]
  dsimp only
  simp only [hlimit, hstop, hprice, Option.bind_none, Option.bind_some, Option.isSome_none,
    Bool.false_eq_true, false_and, false_or]
  rw [htick, if_neg (by simp)]
  exact ⟨_, rfl, rfl, rfl, rfl, rfl, rfl⟩

end BrokerGateway

namespace OrderLifecycleStore

variable {store store' : OrderLifecycleStore} {order : NormalizedOrder} {next other : ℕ}

/-- Every order of the store has an identifier below the next one, and every event that it has
applied comes from the dispatch of such an order. -/
structure Below (store : OrderLifecycleStore) (next : ℕ) : Prop where
  ids : ∀ id record, store.find id = some record → id < next
  keys : ∀ key ∈ store.appliedEventKeys, ∃ id, id < next ∧
    (key = "execution-" ++ toString id ∨ ∃ kind : EventKind, key = kind.key id)

omit [FloatFormat] in
/-- In an empty store every id is new. -/
theorem below_empty (next : ℕ) : empty.Below next :=
  ⟨fun _ _ h => (by cases h), fun _ h => (by cases h)⟩

omit [FloatFormat] in
/-- A greater id is new as well. -/
theorem Below.mono (h : store.Below next) (hle : next ≤ other) : store.Below other := by
  refine ⟨fun id record hfind => lt_of_lt_of_le (h.ids id record hfind) hle, fun key hkey => ?_⟩
  obtain ⟨id, hlt, hmade⟩ := h.keys key hkey
  exact ⟨id, lt_of_lt_of_le hlt hle, hmade⟩

omit [FloatFormat] in
/-- The next order of the engine is new to the store, and so are the keys made from it. -/
theorem Below.fresh (h : store.Below order.request.localOrderId)
    (hkey : order.request.idempotencyKey = "execution-" ++ toString order.request.localOrderId) :
    store.find order.request.localOrderId = none ∧
      order.request.idempotencyKey ∉ store.appliedEventKeys ∧ store.Fresh order := by
  have havoids : AvoidsInternal order.request.idempotencyKey := by
    rw [hkey]
    exact avoidsInternal_execution _
  refine ⟨?_, fun hmem => ?_, fun kind hmem => ?_, havoids⟩
  · cases hfind : store.find order.request.localOrderId with
    | none => rfl
    | some record => exact absurd (h.ids _ record hfind) (lt_irrefl _)
  · obtain ⟨id, hlt, hown | ⟨kind, hmade⟩⟩ := h.keys _ hmem
    · rw [hkey] at hown
      have hsame : order.request.localOrderId = id :=
        numbered_injective "execution-" "" (by simpa only [String.append_empty] using hown)
      omega
    · exact havoids.ne_key kind id hmade
  · obtain ⟨id, hlt, hown | ⟨other, hmade⟩⟩ := h.keys _ hmem
    · exact (avoidsInternal_execution id).ne_key kind _ hown.symm
    · obtain ⟨-, hsame⟩ := EventKind.key_inj.mp hmade
      omega

omit [FloatFormat] in
/-- A dispatched order takes one identifier. -/
theorem Below.placed {made : List EventKind} {P : OrderLifecycleRecord → Prop}
    (h : store.Below order.request.localOrderId) (hplaced : store.Placed store' order made P)
    (hkey : order.request.idempotencyKey = "execution-" ++ toString order.request.localOrderId) :
    store'.Below (order.request.localOrderId + 1) := by
  constructor
  · intro id record hfind
    by_cases hid : id = order.request.localOrderId
    · omega
    · rw [hplaced.others id hid] at hfind
      have hlt := h.ids id record hfind
      omega
  · intro key hmem
    rcases (hplaced.keys key).mp hmem with hold | hown | ⟨kind, -, hmade⟩
    · obtain ⟨id, hlt, hmade⟩ := h.keys key hold
      exact ⟨id, by omega, hmade⟩
    · exact ⟨_, Nat.lt_succ_self _, .inl (hown.trans hkey)⟩
    · exact ⟨_, Nat.lt_succ_self _, .inr ⟨kind, hmade⟩⟩

end OrderLifecycleStore

omit [FloatFormat] in
/-- A connected gateway takes a new order under an allowing risk decision. -/
theorem BrokerGateway.takes_of_fresh {gateway : BrokerGateway} {order : NormalizedOrder}
    {decision : RiskDecision} (hallowed : decision.allowed = true)
    (hconnected : gateway.isConnected = true) (hid : order.request.localOrderId ≠ 0)
    (hsymbol : order.request.canonicalSymbol ≠ "")
    (hquantity : order.normalizedQuantity.isPositive = true)
    (hscale : order.normalizedQuantity.scale ≤ Decimal64.maxScale)
    (hsequence : order.request.sequence < 2 ^ 64)
    (hkey : order.request.idempotencyKey = "execution-" ++ toString order.request.localOrderId)
    (hbelow : gateway.lifecycle.Below order.request.localOrderId) :
    gateway.takes order decision = true := by
  obtain ⟨hfind, hnew, hfresh⟩ := hbelow.fresh hkey
  have hnonempty : order.request.idempotencyKey ≠ "" := by
    rw [hkey]
    simp
  have hcreate : gateway.lifecycle.create (lifecycleRequest order) =
      (gateway.lifecycle.commit order.request.localOrderId
        (OrderLifecycleStore.newRecord (lifecycleRequest order))
        order.request.idempotencyKey, true) := by
    have hvalid : ¬(order.request.localOrderId = 0 ∨ order.request.canonicalSymbol = "" ∨
        (!order.normalizedQuantity.isPositive) = true ∨ order.request.idempotencyKey = "" ∨
        Decimal64.maxScale < order.normalizedQuantity.scale) := by
      rw [hquantity]
      simp [hid, hsymbol, hnonempty, hscale]
    have hunused : ¬(order.request.localOrderId ∈ gateway.lifecycle.records ∨
        order.request.idempotencyKey ∈ gateway.lifecycle.appliedEventKeys) := by
      rw [← AList.lookup_isSome]
      change ¬((gateway.lifecycle.find order.request.localOrderId).isSome = true ∨ _)
      simp [hfind, hnew]
    exact (if_neg hvalid).trans (if_neg hunused)
  obtain ⟨marked, hmarked, -⟩ := OrderLifecycleStore.placed_marks
    (OrderLifecycleStore.placed_create hcreate hsequence) hfresh
  rw [takes, hallowed, hconnected, hcreate, hmarked]
  rfl

end TradeBot
