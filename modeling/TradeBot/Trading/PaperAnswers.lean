import TradeBot.Lifecycle.Quantities
import TradeBot.Trading.EventKeys

/-!
# How the paper adapter answers a submission

A connected adapter answers every submission before `submit` returns: it rejects the
order, or it accepts the order and fills it at once, wholly or in part. The fill always
splits the ordered quantity, so the lifecycle store can take it.
-/

namespace TradeBot

open Library Financial

variable [FloatFormat]

/-- A converted number has the scale that was asked for. -/
theorem Decimal64.scale_of_fromDouble {value : Double} {scale : ℕ} {rounding : DecimalRounding}
    {d : Decimal64} (h : Decimal64.fromDouble value scale rounding = some d) : d.scale = scale := by
  unfold Decimal64.fromDouble at h
  split at h
  · split at h
    · cases h
    · dsimp only at h
      split at h
      · cases h
      · split at h
        · cases h
        · split at h
          · cases h
          · cases h
            rfl
  · cases h

/-- The report is about the connection. -/
def BrokerEvent.isHealth : BrokerEvent → Bool
  | .health _ => true
  | _ => false

namespace DeterministicBrokerAdapter

variable {adapter : DeterministicBrokerAdapter} {order : NormalizedOrder}

/-- An injected drop hits the next submission. -/
def drops (adapter : DeterministicBrokerAdapter) : Bool :=
  adapter.faultHits adapter.faultConfig.dropEveryN

/-- The adapter accepts the order: no error or drop is injected, and the arithmetic
represents its fill. -/
def Accepts (adapter : DeterministicBrokerAdapter) (order : NormalizedOrder) : Prop :=
  (adapter.injectError = false ∧ adapter.drops = false) ∧
    (adapter.fillCosts order (adapter.fillQuantities order.normalizedQuantity).1).isSome

instance (adapter : DeterministicBrokerAdapter) (order : NormalizedOrder) :
    Decidable (adapter.Accepts order) :=
  inferInstanceAs (Decidable (_ ∧ _))

/-- A pair of quantities splits the ordered one: something is filled and nothing is lost. -/
structure Splits (ordered filled remaining : Decimal64) : Prop where
  filled_scale : filled.scale = ordered.scale
  remaining_scale : remaining.scale = ordered.scale
  filled_pos : 0 < filled.units.toInt
  remaining_nonneg : 0 ≤ remaining.units.toInt
  sum_eq : filled.units.toInt + remaining.units.toInt = ordered.units.toInt

omit [FloatFormat] in
/-- Filling everything is a split that leaves nothing. -/
theorem splits_whole {quantity : Decimal64} (h : quantity.isPositive = true) :
    Splits quantity quantity ⟨0, quantity.scale⟩ := by
  rw [Decimal64.isPositive, decide_eq_true_iff, Int64.lt_iff_toInt_lt] at h
  exact ⟨rfl, rfl, h, le_rfl, add_zero _⟩

/-- The fill of a submission splits the ordered quantity. -/
theorem splits_fillQuantities (adapter : DeterministicBrokerAdapter) {quantity : Decimal64}
    (h : quantity.isPositive = true) :
    Splits quantity (adapter.fillQuantities quantity).1 (adapter.fillQuantities quantity).2 := by
  unfold fillQuantities
  split
  · exact splits_whole h
  · split
    · exact splits_whole h
    · next part hpart =>
      split
      · next hproper =>
        obtain ⟨hpositive, hlt⟩ := hproper
        rw [Decimal64.isPositive, decide_eq_true_iff, Int64.lt_iff_toInt_lt] at hpositive
        rw [Int64.lt_iff_toInt_lt] at hlt
        have hzero : (0 : Int64).toInt = 0 := rfl
        have hbound := Int64.toInt_lt quantity.units
        have hrest : (quantity.units - part.units).toInt =
            quantity.units.toInt - part.units.toInt :=
          toInt_sub_of_fits (by omega) (by omega)
        refine ⟨Decimal64.scale_of_fromDouble hpart, rfl, hpositive, ?_, ?_⟩
        · change 0 ≤ (quantity.units - part.units).toInt
          omega
        · change part.units.toInt + (quantity.units - part.units).toInt = _
          omega
      · exact splits_whole h

/-- What a submission goes by before it is answered. -/
structure SameTerms (adapter next : DeterministicBrokerAdapter) : Prop where
  connected_eq : next.connected = adapter.connected
  injectError_eq : next.injectError = adapter.injectError
  partialFillRatio_eq : next.partialFillRatio = adapter.partialFillRatio
  feeRate_eq : next.feeRate = adapter.feeRate
  slippageRate_eq : next.slippageRate = adapter.slippageRate
  pendingOrders_eq : next.pendingOrders = adapter.pendingOrders

/-- Adapters of the same terms fill the same quantities. -/
theorem SameTerms.fillQuantities_eq {next : DeterministicBrokerAdapter}
    (h : SameTerms adapter next) (quantity : Decimal64) :
    next.fillQuantities quantity = adapter.fillQuantities quantity := by
  simp only [fillQuantities, h.partialFillRatio_eq]

/-- And at the same costs. -/
theorem SameTerms.fillCosts_eq {next : DeterministicBrokerAdapter} (h : SameTerms adapter next)
    (order : NormalizedOrder) (filled : Decimal64) :
    ({ next with partialFillRatio := none } : DeterministicBrokerAdapter).fillCosts order filled =
      adapter.fillCosts order filled := by
  simp only [fillCosts, h.feeRate_eq, h.slippageRate_eq]

omit [FloatFormat] in
/-- Injected reconnects and latency spikes leave the terms of a submission alone; at most
the connection is reported. -/
theorem sameTerms_faults (hconnected : adapter.connected = true) (order : NormalizedOrder) :
    SameTerms adapter (adapter.reconnectFault order).1.latencyFault ∧
      ∀ event ∈ (adapter.reconnectFault order).2, event.isHealth = true := by
  have hlatency (a : DeterministicBrokerAdapter) : SameTerms a a.latencyFault := by
    unfold latencyFault
    split <;> exact ⟨rfl, rfl, rfl, rfl, rfl, rfl⟩
  unfold reconnectFault
  split
  · refine ⟨?_, fun event hevent => ?_⟩
    · obtain ⟨h₁, h₂, h₃, h₄, h₅, h₆⟩ := hlatency _
      exact ⟨h₁.trans hconnected.symm, h₂, h₃, h₄, h₅, h₆⟩
    · rw [List.mem_singleton.mp hevent]
      rfl
  · exact ⟨hlatency adapter, fun event hevent => by cases hevent⟩

/-- The acknowledgement of an accepted order. -/
def acceptanceOf (order : NormalizedOrder) : OrderAcknowledgement :=
  { acknowledgementOf order with
    accepted := true
    externalOrderId := "paper-" ++ toString order.request.localOrderId }

/-- The acknowledgement of a rejected order. -/
def rejectionOf (order : NormalizedOrder) (failure : FailureCategory) (reason : String) :
    OrderAcknowledgement :=
  { acknowledgementOf order with
    failure := failure
    reason := reason }

/-- The fill of an accepted order. -/
def fillOf (adapter : DeterministicBrokerAdapter) (order : NormalizedOrder)
    (slippedPrice : Price) (fillFee : Money) : ExecutionEvent :=
  executionOf order (adapter.fillQuantities order.normalizedQuantity).1
    (adapter.fillQuantities order.normalizedQuantity).2 slippedPrice fillFee

/-- The orders that wait for the rest of their fill, after a fill. -/
def waiting (pendingOrders : KeyedMap ℕ NormalizedOrder) (order : NormalizedOrder)
    (remaining : Decimal64) : KeyedMap ℕ NormalizedOrder :=
  if remaining.isZero then pendingOrders
  else pendingOrders.insert order.request.localOrderId order

/-- An acceptable order is acknowledged and filled at once. -/
theorem answer_of_accepts {prepared : DeterministicBrokerAdapter}
    (hsame : SameTerms adapter prepared) (h : adapter.Accepts order) :
    ∃ next slippedPrice fillFee,
      prepared.answer adapter.drops order = (next, [.acknowledgement (acceptanceOf order),
        .execution (adapter.fillOf order slippedPrice fillFee)]) ∧
      next.connected = adapter.connected ∧
      next.pendingOrders = waiting adapter.pendingOrders order
        (adapter.fillQuantities order.normalizedQuantity).2 := by
  obtain ⟨⟨herror, hdrop⟩, hcosts⟩ := h
  obtain ⟨⟨slippedPrice, fillFee⟩, hcosts⟩ := Option.isSome_iff_exists.mp hcosts
  have hnone : ¬(prepared.injectError = true ∨ adapter.drops = true) := by
    rw [hsame.injectError_eq, herror, hdrop]
    decide
  unfold answer
  rw [if_neg hnone, hsame.fillQuantities_eq]
  have hprepared := (hsame.fillCosts_eq order _).trans hcosts
  dsimp only
  rw [hprepared]
  refine ⟨_, slippedPrice, fillFee, rfl, hsame.connected_eq, ?_⟩
  rw [waiting, ← hsame.pendingOrders_eq]

/-- Any other order is rejected. -/
theorem answer_of_not_accepts {prepared : DeterministicBrokerAdapter}
    (hsame : SameTerms adapter prepared) (h : ¬adapter.Accepts order) :
    ∃ next failure reason,
      prepared.answer adapter.drops order =
        (next, [.acknowledgement (rejectionOf order failure reason)]) ∧
      next.connected = adapter.connected ∧ next.pendingOrders = adapter.pendingOrders := by
  unfold answer
  split
  · exact ⟨_, _, _, rfl, hsame.connected_eq, hsame.pendingOrders_eq⟩
  · next hinjected =>
    simp only [hsame.injectError_eq, not_or, Bool.not_eq_true] at hinjected
    have hcosts : adapter.fillCosts order (adapter.fillQuantities order.normalizedQuantity).1 =
        none := by
      rw [← Option.not_isSome_iff_eq_none]
      exact fun hcosts => h ⟨hinjected, hcosts⟩
    have hprepared := (hsame.fillCosts_eq order _).trans hcosts
    rw [hsame.fillQuantities_eq]
    dsimp only
    rw [hprepared]
    exact ⟨_, _, _, rfl, hsame.connected_eq, hsame.pendingOrders_eq⟩

/-- A connected adapter answers a submission after its injected faults. -/
theorem submit_of_connected (hconnected : adapter.connected = true) (order : NormalizedOrder) :
    adapter.submit order =
      ({ ((adapter.reconnectFault order).1.latencyFault.answer adapter.drops order).1 with
        submitCount := adapter.submitCount + 1 },
        some ((adapter.reconnectFault order).2 ++
          ((adapter.reconnectFault order).1.latencyFault.answer adapter.drops order).2)) := by
  simp only [submit, hconnected]
  rfl

/-- An accepted order is acknowledged and filled, in whole or in part, in one submission. -/
theorem submit_of_accepts (hconnected : adapter.connected = true) (h : adapter.Accepts order) :
    ∃ next health slippedPrice fillFee,
      adapter.submit order = (next, some (health ++ [.acknowledgement (acceptanceOf order),
        .execution (adapter.fillOf order slippedPrice fillFee)])) ∧
      (∀ event ∈ health, event.isHealth = true) ∧ next.connected = true ∧
      next.pendingOrders = waiting adapter.pendingOrders order
        (adapter.fillQuantities order.normalizedQuantity).2 := by
  obtain ⟨hsame, hhealth⟩ := sameTerms_faults hconnected order
  obtain ⟨next, slippedPrice, fillFee, hanswer, hnext, hpending⟩ := answer_of_accepts hsame h
  rw [submit_of_connected hconnected, hanswer]
  exact ⟨_, _, slippedPrice, fillFee, rfl, hhealth, hnext.trans hconnected, hpending⟩

/-- An order that is not accepted is rejected, and no order waits that did not before. -/
theorem submit_of_not_accepts (hconnected : adapter.connected = true)
    (h : ¬adapter.Accepts order) :
    ∃ next health failure reason,
      adapter.submit order =
        (next, some (health ++ [.acknowledgement (rejectionOf order failure reason)])) ∧
      (∀ event ∈ health, event.isHealth = true) ∧ next.connected = true ∧
      next.pendingOrders = adapter.pendingOrders := by
  obtain ⟨hsame, hhealth⟩ := sameTerms_faults hconnected order
  obtain ⟨next, failure, reason, hanswer, hnext, hpending⟩ := answer_of_not_accepts hsame h
  rw [submit_of_connected hconnected, hanswer]
  exact ⟨_, _, failure, reason, rfl, hhealth, hnext.trans hconnected, hpending⟩

end DeterministicBrokerAdapter

end TradeBot
