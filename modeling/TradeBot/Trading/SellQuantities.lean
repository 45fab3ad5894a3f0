import TradeBot.PortfolioQueue
import TradeBot.Trading.LocalDesk

/-!
# The quantity of a sale

A protective order and a resting order carry a quantity. An engine without a gateway passes it on
to neither of its two sales: both close the whole position.
-/

namespace TradeBot

open Library Financial

/-- The difference of a value and the smaller of a positive quantity and the value is zero exactly
when the quantity is no less than the value. -/
theorem Double.sub_min_eq_zero_iff {quantity : Double} {held : ℚ} (hquantity : 0 < quantity) :
    (.finite held : Double) - quantity.min (.finite held) = 0 ↔ .finite held ≤ quantity := by
  cases quantity with
  | finite q =>
    rw [Double.finite_le_finite, Double.min]
    simp only [Double.finite_lt_finite]
    split
    · change Double.finite (held + -held) = .finite 0 ↔ _
      rw [Double.finite.injEq]
      constructor
      · intro _
        linarith
      · intro _
        ring
    · change Double.finite (held + -q) = .finite 0 ↔ _
      rw [Double.finite.injEq]
      constructor
      · intro heq
        linarith
      · intro hle
        linarith
  | infinite negative =>
    cases negative with
    | true => cases hquantity
    | false =>
      change Double.finite (held + -held) = .finite 0 ↔ true = true
      rw [Double.finite.injEq, add_neg_cancel]
      simp only
  | nan => cases hquantity

namespace System

variable {n : ℕ} {s t : System n} {i : Fin n} {symbol strategyId : String} {quantity : Double}

/-- The sale took the quantity of its order from the position, or all that was held. -/
def SoldQuantity (s t : System n) (symbol : String) (quantity : Double) : Prop :=
  t.portfolio.getPositionQuantity symbol = s.portfolio.getPositionQuantity symbol -
    quantity.min (s.portfolio.getPositionQuantity symbol)

/-- An engine without a gateway executes a sell order: a protective order that a quote triggers,
or a resting order that a candle triggers. -/
inductive ExecutesSale (s t : System n) (i : Fin n) : String → Double → Prop
  | protective {slot : OrderSlot} {bbo : BestQuote} {timestamp : ℕ} {event : TriggerFillEvent}
    {atr : Option Double} {routeLatencyMs : ℚ} (hsell : slot.isBuy = false)
    (htriggered : TriggerOrderManager.slotEvent (s.engines i).symbol bbo timestamp slot =
      some event)
    (hexecuted : s.beginExecute i (triggerArgs event atr routeLatencyMs) =
      (t, .returned (.ok true))) : ExecutesSale s t i slot.symbol slot.quantity
  | resting {order : OrderRecord} {candle : MarketCandle} {normalizedFill : Price}
    (hsell : order.isBuy = false)
    (htriggered : PortfolioManager.fillPriceOf candle.symbol candle.high candle.low candle.close
      order = some normalizedFill)
    (hexecuted : s.processFill i (PortfolioManager.fillOf candle.epochTimestamp order
      normalizedFill) = (t, .ok true)) : ExecutesSale s t i order.symbol order.quantity

/-- Without a gateway a sale is a fill that the engine books. -/
theorem ExecutesSale.booked (h : s.ExecutesSale t i symbol quantity)
    (hunbound : (s.engines i).bound = false) :
    ∃ strategyId, s.Booked t i symbol strategyId (.ok true) := by
  cases h with
  | @protective slot bbo timestamp event atr routeLatencyMs _ htriggered hexecuted =>
    obtain ⟨u, result, hreturned, -, hbooked⟩ := beginExecute_booked hunbound
      (triggerArgs event atr routeLatencyMs)
    rw [hexecuted] at hreturned
    cases hreturned
    have hsymbol : slot.symbol = (s.engines i).symbol := by
      unfold TriggerOrderManager.slotEvent at htriggered
      split at htriggered
      · cases htriggered
      · next hslot => exact not_not.mp (not_or.mp hslot).2
    rw [hsymbol]
    exact ⟨_, hbooked⟩
  | @resting order candle normalizedFill _ _ hexecuted =>
    have hbooked := (s.processFill_booked i
      (PortfolioManager.fillOf candle.epochTimestamp order normalizedFill)).2
    rw [hexecuted] at hbooked
    exact ⟨_, hbooked⟩

/-- A fill without a gateway that meets an open position closes all of it. -/
theorem Booked.closes_position (h : s.Booked t i symbol strategyId (.ok true))
    (hheld : 0 < s.portfolio.getPositionQuantity symbol) :
    t.portfolio.getPositionQuantity symbol = 0 := by
  cases h with
  | unfilled hresult _ _ => exact absurd rfl hresult
  | bought _ hopened _ _ =>
    have hnone := AList.lookup_eq_none.mpr hopened.closed
    rw [PortfolioManager.getPositionQuantity, hnone] at hheld
    cases hheld
  | sold hclosed _ _ _ _ =>
    rw [PortfolioManager.getPositionQuantity, hclosed.positions, AList.lookup_erase]

/-- **Sold quantities.** An executed sell order has sold its own quantity, or all that was held
if that is less, exactly when it asked for no less than the whole position. -/
theorem soldQuantity_iff (hunbound : (s.engines i).bound = false)
    (h : s.ExecutesSale t i symbol quantity) (hquantity : 0 < quantity)
    (hheld : 0 < s.portfolio.getPositionQuantity symbol) :
    s.SoldQuantity t symbol quantity ↔ s.portfolio.getPositionQuantity symbol ≤ quantity := by
  obtain ⟨strategyId, hbooked⟩ := h.booked hunbound
  rw [SoldQuantity, hbooked.closes_position hheld]
  obtain ⟨held, heq⟩ : ∃ held, s.portfolio.getPositionQuantity symbol = .finite held := by
    unfold PortfolioManager.getPositionQuantity
    split
    · exact ⟨0, rfl⟩
    · exact ⟨_, rfl⟩
  rw [heq, ← Double.sub_min_eq_zero_iff hquantity]
  exact eq_comm

/-- The call returned true. -/
def Progress.isExecuted : Progress Bool → Bool
  | .returned (.ok executed) => executed
  | _ => false

/-- An execution has ended and has returned `true`. -/
theorem Progress.isExecuted_eq_true {progress : Progress Bool}
    (h : progress.isExecuted = true) : progress = .returned (.ok true) := by
  unfold isExecuted at h
  split at h
  · rw [h]
  · cases h

/-- One engine of `main` without a gateway, with two units of its symbol bought at 100. -/
def holdingTwo : System 1 where
  portfolio :=
    match (PortfolioManager.fresh).openLong "A" (.finite 100) 0 0 0 (.finite 2) "" with
    | .ok portfolio => portfolio
    | .error _ => .fresh
  risk := {}
  gateway := { config := {}, adapter := .deterministic }
  engines := fun _ => ExecutionEngine.main "A"
  executionObservers := []
  reportsRejections := false
  analytics := {}
  clock := id

/-- A stop loss for one unit, in its slot. -/
def stopLossSlot : OrderSlot where
  inUse := true
  orderId := 1
  symbol := "A"
  stopPrice := .finite 95
  quantity := .finite 1

/-- The event that the stop loss emits at a bid of 90. -/
def stopLossEvent : TriggerFillEvent where
  orderId := 1
  symbol := "A"
  orderType := .stopLoss
  triggerReason := .stopTrigger
  isBuy := false
  triggerPrice := .finite 95
  executionPrice := .finite 90
  quantity := .finite 1
  timestamp := 60
  strategyId := ""

/-- A stop loss for one unit that rests in the queue. -/
def restingStop : OrderRecord where
  symbol := "A"
  orderType := .stopLoss
  isBuy := false
  limitPrice := .finite 95
  quantity := .finite 1
  orderId := 1

/-- The event is executed. -/
theorem executesSale_stopLoss :
    ∃ t, holdingTwo.beginExecute 0 (triggerArgs stopLossEvent none 0) =
        (t, .returned (.ok true)) ∧ holdingTwo.ExecutesSale t 0 "A" (.finite 1) := by
  have hexecuted : (holdingTwo.beginExecute 0 (triggerArgs stopLossEvent none 0)).2 =
      .returned (.ok true) := Progress.isExecuted_eq_true (by decide +kernel)
  have htriggered : TriggerOrderManager.slotEvent "A" ⟨true, .finite 90, 0, .finite 91, 0⟩ 60
      stopLossSlot = some stopLossEvent := by decide +kernel
  have h : holdingTwo.beginExecute 0 (triggerArgs stopLossEvent none 0) =
      (_, .returned (.ok true)) := Prod.ext rfl hexecuted
  exact ⟨_, h, @ExecutesSale.protective _ _ _ _ stopLossSlot _ _ _ _ _ rfl htriggered h⟩

/-- The resting order is executed at a low of 90. -/
theorem executesSale_restingStop :
    ∃ t, holdingTwo.processFill 0 (PortfolioManager.fillOf 60 restingStop ⟨9000000000⟩) =
        (t, .ok true) ∧ holdingTwo.ExecutesSale t 0 "A" (.finite 1) := by
  have hreturns : returnsAnd id (holdingTwo.processFill 0
      (PortfolioManager.fillOf 60 restingStop ⟨9000000000⟩)).2 = true := by decide +kernel
  have htriggered : PortfolioManager.fillPriceOf "A" (.finite 100) (.finite 90) (.finite 91)
      restingStop = some ⟨9000000000⟩ := by decide +kernel
  obtain ⟨executed, hexecuted, htrue⟩ := returnsAnd_eq_true.mp hreturns
  rw [show executed = true from htrue] at hexecuted
  have h : holdingTwo.processFill 0 (PortfolioManager.fillOf 60 restingStop ⟨9000000000⟩) =
      (_, .ok true) := Prod.ext rfl hexecuted
  exact ⟨_, h, @ExecutesSale.resting _ _ _ _ restingStop
    ⟨"A", 60, .finite 100, .finite 90, .finite 91⟩ _ rfl htriggered h⟩

/-- One of two units is asked for: the condition fails, and so does the sale. -/
theorem soldQuantity_iff_stopLoss :
    ∃ t, holdingTwo.ExecutesSale t 0 "A" (.finite 1) ∧
      (holdingTwo.SoldQuantity t "A" (.finite 1) ↔
        holdingTwo.portfolio.getPositionQuantity "A" ≤ .finite 1) := by
  obtain ⟨t, -, hsale⟩ := executesSale_stopLoss
  exact ⟨t, hsale, soldQuantity_iff rfl hsale (by decide +kernel) (by decide +kernel)⟩

/-- Both sales of one of the two units sell both. -/
theorem sale_of_one_sells_two :
    (∃ t, holdingTwo.beginExecute 0 (triggerArgs stopLossEvent none 0) =
        (t, .returned (.ok true)) ∧ t.portfolio.getPositionQuantity "A" = 0 ∧
        ¬holdingTwo.SoldQuantity t "A" (.finite 1)) ∧
      ∃ t, holdingTwo.processFill 0 (PortfolioManager.fillOf 60 restingStop ⟨9000000000⟩) =
        (t, .ok true) ∧ t.portfolio.getPositionQuantity "A" = 0 ∧
        ¬holdingTwo.SoldQuantity t "A" (.finite 1) := by
  have hheld : holdingTwo.portfolio.getPositionQuantity "A" = .finite 2 := by decide +kernel
  have hsells {t : System 1} (h : holdingTwo.ExecutesSale t 0 "A" (.finite 1)) :
      t.portfolio.getPositionQuantity "A" = 0 ∧ ¬holdingTwo.SoldQuantity t "A" (.finite 1) := by
    obtain ⟨strategyId, hbooked⟩ := h.booked rfl
    have hclosed := hbooked.closes_position (by rw [hheld]; decide +kernel)
    refine ⟨hclosed, ?_⟩
    rw [SoldQuantity, hclosed, hheld]
    decide +kernel
  obtain ⟨t, ht, hstop⟩ := executesSale_stopLoss
  obtain ⟨u, hu, hresting⟩ := executesSale_restingStop
  exact ⟨⟨t, ht, hsells hstop⟩, u, hu, hsells hresting⟩

end System

end TradeBot
