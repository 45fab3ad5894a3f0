import TradeBot.Checkpoint.Portfolios

/-!
# The levels of trailing stops

A trailing stop follows the best close at a fixed distance. Its best close is not known when it is
placed, and the level it is placed with is taken instead: the first close above the level that is
nearer to it than the distance moves the stop down. Every later close moves it up.
-/

namespace TradeBot

open Library Financial

namespace Double

/-- Doubles compare asymmetrically, `NaN` included. -/
theorem lt_asymm {a b : Double} (h : a < b) : ¬b < a := by
  cases a with
  | finite x =>
    cases b with
    | finite y =>
      rw [finite_lt_finite] at h ⊢
      exact not_lt.mpr h.le
    | infinite n =>
      change (!n) = true at h
      change ¬n = true
      simpa using h
    | nan => cases h
  | infinite m =>
    cases b with
    | finite y =>
      change m = true at h
      change ¬(!m) = true
      simpa using h
    | infinite n =>
      change (m && !n) = true at h
      change ¬(n && !m) = true
      cases m <;> cases n <;> simp_all
    | nan => cases m <;> cases h
  | nan => cases h

/-- The minimum of two numbers is the smaller one. -/
theorem min_eq_of_le {a : ℚ} {b : Double} (h : b ≤ .finite a) : min (.finite a) b = b := by
  unfold min
  split
  · rfl
  · next hlt =>
    cases b with
    | finite b =>
      rw [finite_lt_finite, not_lt] at hlt
      rw [finite_le_finite] at h
      rw [le_antisymm hlt h]
    | infinite negative =>
      cases negative with
      | false => cases h
      | true => exact absurd rfl hlt
    | nan => cases h

end Double

/-- A price of at most ten million, read of a double. Such prices are subtracted exactly. -/
def Double.Ordinary (value : Double) : Prop :=
  ∀ p ∈ price value, |p.units.toInt| ≤ 10 ^ 15

instance (value : Double) : Decidable value.Ordinary :=
  inferInstanceAs (Decidable (∀ p ∈ price value, |p.units.toInt| ≤ 10 ^ 15))

/-- Prices of ordinary size survive the conversions. -/
theorem Financial.survives_of_ordinary {p : Price} (h : |p.units.toInt| ≤ 10 ^ 15) : p.Survives :=
  survives_of_le (h.trans (by norm_num))

/-- The levels of a trailing stop in whole units: the level it was placed with, which is also its
best price, or a level below the best price by the offset. -/
structure OrderRecord.Trails (order : OrderRecord) (limit offset best : Price) : Prop where
  limitPrice_eq : order.limitPrice = limit.toDouble
  trailOffset_eq : order.trailOffset = offset.toDouble
  trailBest_eq : order.trailBest = best.toDouble
  limit_ordinary : |limit.units.toInt| ≤ 10 ^ 15
  offset_ordinary : |offset.units.toInt| ≤ 10 ^ 15
  best_ordinary : |best.units.toInt| ≤ 10 ^ 15
  offset_nonneg : 0 ≤ offset.units.toInt
  level : best = limit ∨ limit.units.toInt = best.units.toInt - offset.units.toInt

/-- A candle moves an order that has the level it was placed with to a lower level, and does not
sell at this level: the close is above the level by less than the offset. -/
def OrderRecord.Slips (order : OrderRecord) (low close : Double) : Prop :=
  order.trailBest = order.limitPrice ∧ order.limitPrice < close ∧
    ∃ top ∈ price close, ∃ limit ∈ price order.limitPrice, ∃ offset ∈ price order.trailOffset,
      offset.units.toInt < top.units.toInt ∧
      top.units.toInt < limit.units.toInt + offset.units.toInt ∧
      ¬((∃ stop ∈ subtract top offset, low ≤ stop.toDouble) ∧
        ∃ fill ∈ price low, fill.isPositive = true)

instance (order : OrderRecord) (low close : Double) : Decidable (order.Slips low close) :=
  inferInstanceAs (Decidable (_ ∧ _ ∧ _))

namespace PortfolioManager

section Order

variable {order : OrderRecord} {limit offset best : Price}

/-- A close moves the stop to the offset below it when it is above the best price and above the
offset, and changes nothing otherwise. -/
theorem trailOrder_of_trails (h : order.Trails limit offset best) {close : Double}
    (hclose : close.Ordinary) :
    (∃ top stop : Price, order.trailBest < close ∧ price close = some top ∧
        |top.units.toInt| ≤ 10 ^ 15 ∧ offset.units.toInt < top.units.toInt ∧
        best.units.toInt ≤ top.units.toInt ∧
        stop.units.toInt = top.units.toInt - offset.units.toInt ∧
        trailOrder order close = { order with
          trailBest := top.toDouble
          limitPrice := stop.toDouble }) ∨
      (¬∃ top, order.trailBest < close ∧ price close = some top ∧
        offset.units.toInt < top.units.toInt) ∧ trailOrder order close = order := by
  have hoffset := h.offset_nonneg
  unfold trailOrder
  by_cases habove : order.trailBest < close
  · rw [if_pos habove]
    cases htop : price close with
    | none =>
      refine .inr ⟨?_, rfl⟩
      rintro ⟨top, -, hsome, -⟩
      cases hsome
    | some top =>
      have hsmall := hclose top htop
      have hoffsetSmall := h.offset_ordinary
      have hbest : best.units.toInt ≤ top.units.toInt := by
        apply (survives_of_ordinary h.best_ordinary).le_of_price htop
        rw [← h.trailBest_eq]
        exact Double.lt_asymm habove
      obtain ⟨stop, hstop⟩ : ∃ stop : Price,
          stop.units.toInt = top.units.toInt - offset.units.toInt := by
        rw [abs_le] at hsmall hoffsetSmall
        exact exists_value .price (by omega) (by omega)
      have hread : price (top.toDouble - order.trailOffset).rounded = some stop := by
        rw [h.trailOffset_eq]
        exact price_sub_of_small hsmall hoffsetSmall hstop
      dsimp only
      rw [hread]
      dsimp only
      by_cases hmoves : offset.units.toInt < top.units.toInt
      · refine .inl ⟨top, stop, habove, rfl, hsmall, hmoves, hbest, hstop, ?_⟩
        rw [if_pos]
        exact ⟨(isPositive_iff top).mpr (by omega), (isPositive_iff stop).mpr (by omega)⟩
      · refine .inr ⟨?_, ?_⟩
        · rintro ⟨top', -, hsome, hlt⟩
          cases hsome
          exact hmoves hlt
        · rw [if_neg]
          rintro ⟨-, hpositive⟩
          rw [isPositive_iff] at hpositive
          omega
  · rw [if_neg habove]
    exact .inr ⟨fun ⟨top, hlt, _⟩ => habove hlt, rfl⟩

/-- A candle keeps the levels of a trailing stop. -/
theorem trails_trailOrder (h : order.Trails limit offset best) {close : Double}
    (hclose : close.Ordinary) :
    ∃ limit' best', (trailOrder order close).Trails limit' offset best' := by
  rcases trailOrder_of_trails h hclose with
    ⟨top, stop, -, -, hsmall, hmoves, -, hstop, hmoved⟩ | ⟨-, hkept⟩
  · have hstopSmall : |stop.units.toInt| ≤ 10 ^ 15 := by
      have hoffset := h.offset_nonneg
      rw [abs_le] at hsmall ⊢
      omega
    rw [hmoved]
    exact ⟨stop, top, rfl, h.trailOffset_eq, rfl, hstopSmall, h.offset_ordinary, hsmall,
      h.offset_nonneg, .inr hstop⟩
  · rw [hkept]
    exact ⟨limit, best, h⟩

/-- A trailing stop of the candle's symbol is sold when the low of the candle is a price and has
reached the stop. -/
theorem fillPriceOf_trailing {symbol : String} (hsymbol : order.symbol = symbol)
    (htype : order.orderType = .trailingStop) {stop : Price} {high low close : Double}
    (hstop : (trailOrder order close).limitPrice = stop.toDouble) :
    fillPriceOf symbol high low close order = none ↔
      ¬(low ≤ stop.toDouble ∧ ∃ fill, price low = some fill ∧ fill.isPositive = true) := by
  rw [fillPriceOf, if_pos hsymbol, evaluateOrder, htype]
  dsimp only
  rw [hstop]
  split
  · next hlow =>
    dsimp only
    rw [Option.bind_some, Value.toDouble, Double.min_eq_of_le hlow, Option.filter_eq_none_iff]
    simp only [not_and, not_exists]
    exact ⟨fun h _ fill hfill => h fill hfill, fun h fill hfill => h hlow fill hfill⟩
  · next hlow =>
    simp only [hlow, false_and, not_false_eq_true, iff_true]
    rfl

/-- A candle that leaves a trailing stop in the queue keeps or raises its level exactly when the
order does not slip. -/
theorem level_le_iff (h : order.Trails limit offset best) {symbol : String}
    (hsymbol : order.symbol = symbol) (htype : order.orderType = .trailingStop)
    (high low : Double) {close : Double} (hclose : close.Ordinary) :
    (fillPriceOf symbol high low close order = none →
        order.limitPrice ≤ (trailOrder order close).limitPrice) ↔ ¬order.Slips low close := by
  have hlimit := survives_of_ordinary h.limit_ordinary
  have hoffset := survives_of_ordinary h.offset_ordinary
  have hslips : order.Slips low close ↔ order.trailBest = order.limitPrice ∧
      order.limitPrice < close ∧ ∃ top, price close = some top ∧
        offset.units.toInt < top.units.toInt ∧
        top.units.toInt < limit.units.toInt + offset.units.toInt ∧
        ¬((∃ stop ∈ subtract top offset, low ≤ stop.toDouble) ∧
          ∃ fill ∈ price low, fill.isPositive = true) := by
    have hreadLimit : price order.limitPrice = some limit := by
      rw [h.limitPrice_eq]
      exact hlimit.read (by decide)
    have hreadOffset : price order.trailOffset = some offset := by
      rw [h.trailOffset_eq]
      exact hoffset.read (by decide)
    simp [OrderRecord.Slips, hreadLimit, hreadOffset]
  rw [hslips]
  rcases trailOrder_of_trails h hclose with
    ⟨top, stop, habove, htop, hsmall, hmoves, hbest, hstop, hmoved⟩ | ⟨hunmoved, hkept⟩
  · have hlevel : (trailOrder order close).limitPrice = stop.toDouble := by rw [hmoved]
    have hstopSmall : |stop.units.toInt| ≤ 10 ^ 15 := by
      have hnonneg := h.offset_nonneg
      rw [abs_le] at hsmall ⊢
      omega
    have hsubtract : subtract top offset = some stop := subtract_eq_some_iff.mpr hstop
    have hunsold : (¬((∃ stop ∈ subtract top offset, low ≤ stop.toDouble) ∧
        ∃ fill ∈ price low, fill.isPositive = true)) ↔
        ¬(low ≤ stop.toDouble ∧ ∃ fill, price low = some fill ∧ fill.isPositive = true) := by
      simp [hsubtract]
    rw [fillPriceOf_trailing hsymbol htype hlevel, hlevel, h.limitPrice_eq,
      hlimit.toDouble_le_iff (survives_of_ordinary hstopSmall)]
    rw [h.trailBest_eq] at habove ⊢
    constructor
    · rintro hraised ⟨-, -, top', htop', -, hbelow, hstays⟩
      cases htop.symm.trans htop'
      have hle := hraised (hunsold.mp hstays)
      omega
    · intro hkeeps hstays
      by_contra hbelow
      rcases h.level with rfl | htrailing
      · -- The first move from the level that the order was placed with.
        exact hkeeps ⟨rfl, habove, top, htop, hmoves, by omega, hunsold.mpr hstays⟩
      · omega
  · rw [hkept]
    refine iff_of_true (fun _ => ?_) ?_
    · rw [h.limitPrice_eq, hlimit.toDouble_le_iff hlimit]
    · rintro ⟨hplaced, habove, top, htop, hmoves, -⟩
      rw [← hplaced] at habove
      exact hunmoved ⟨top, habove, htop, hmoves⟩

end Order

/-- A step does not lower the level of a trailing stop that it leaves in the queue. -/
def LevelsKept (pm : PortfolioManager) (i : Input) : Prop :=
  ∀ order ∈ pm.pendingOrders, order.orderType = .trailingStop →
    ∀ order' ∈ (trading.next pm i).pendingOrders, order'.orderId = order.orderId →
      order.limitPrice ≤ order'.limitPrice

/-- A call whose prices are at most ten million: the level and the offset of a trailing stop, and
the close of a candle. -/
def Input.Ordinary : Input → Prop
  | .placePendingOrder order => order.orderType = .trailingStop →
      order.limitPrice.Ordinary ∧ order.trailOffset.Ordinary
  | .evaluatePendingOrders _ _ _ close _ => close.Ordinary
  | _ => True

instance : DecidablePred Input.Ordinary
  | .account _ => inferInstanceAs (Decidable True)
  | .placePendingOrder order =>
    inferInstanceAs (Decidable (order.orderType = .trailingStop →
      order.limitPrice.Ordinary ∧ order.trailOffset.Ordinary))
  | .cancelPendingOrder _ => inferInstanceAs (Decidable True)
  | .evaluatePendingOrders _ _ _ close _ => inferInstanceAs (Decidable close.Ordinary)

/-- No trailing stop slips when a candle of its symbol is evaluated. -/
def NoSlip (pm : PortfolioManager) : Input → Prop
  | .evaluatePendingOrders symbol _ low close _ => ∀ order ∈ pm.pendingOrders,
      order.symbol = symbol → order.orderType = .trailingStop → ¬order.Slips low close
  | _ => True

instance : ∀ (pm : PortfolioManager) (i : Input), Decidable (pm.NoSlip i)
  | _, .account _ => inferInstanceAs (Decidable True)
  | _, .placePendingOrder _ => inferInstanceAs (Decidable True)
  | _, .cancelPendingOrder _ => inferInstanceAs (Decidable True)
  | pm, .evaluatePendingOrders symbol _ low close _ =>
    inferInstanceAs (Decidable (∀ order ∈ pm.pendingOrders, order.symbol = symbol →
      order.orderType = .trailingStop → ¬order.Slips low close))

/-- What every call keeps of the portfolio and the levels of its trailing stops. -/
structure Trailing (pm : PortfolioManager) : Prop where
  consistent : pm.Consistent
  trails : ∀ order ∈ pm.pendingOrders, order.orderType = .trailingStop →
    ∃ limit offset best, order.Trails limit offset best

/-- A fresh portfolio trails no price. -/
theorem trailing_fresh : (fresh).Trailing where
  consistent := consistent_fresh
  trails := fun _ horder => by cases horder

section Run

variable {pm : PortfolioManager}

/-- Accounting leaves the queue. -/
theorem pendingOrders_account (pm : PortfolioManager) (c : PortfolioCall) :
    (trading.next pm (.account c)).pendingOrders = pm.pendingOrders := by
  unfold Machine.next
  simp only [trading]
  split
  · next pm' hcall => exact (call_queue c hcall).1
  · rfl

/-- The record of a trailing stop has the level as its best price. -/
theorem placedOrder_trails {order : OrderRecord} {limit offset : Price}
    (hnonneg : ¬order.trailOffset < 0) (hlimit : |limit.units.toInt| ≤ 10 ^ 15)
    (hread : price order.trailOffset = some offset) (hoffset : |offset.units.toInt| ≤ 10 ^ 15)
    (htype : order.orderType = .trailingStop) (units : Quantity) (capital : Money)
    (best : Price) (orderId : ℕ) :
    (placedOrder order units capital limit offset best orderId).Trails limit offset limit where
  limitPrice_eq := rfl
  trailOffset_eq := rfl
  trailBest_eq := if_pos htype
  limit_ordinary := hlimit
  offset_ordinary := hoffset
  best_ordinary := hlimit
  offset_nonneg := survives_zero.le_of_price hread (by rwa [toDouble_zero])
  level := .inl rfl

/-- A call adds a record at the end of the queue, or leaves records of the queue, and a candle may
trail them. -/
theorem Trailing.step (h : pm.Trailing) {i : Input} (hi : i.Ordinary) :
    (trading.next pm i).Trailing := by
  refine ⟨h.consistent.step i, ?_⟩
  cases i with
  | account c =>
    rw [pendingOrders_account pm c]
    exact h.trails
  | placePendingOrder order =>
    change ∀ o ∈ (pm.placePendingOrder order).1.pendingOrders, _
    rcases pm.placePendingOrder_cases order with hrefused |
      ⟨units, capital, limit, offset, best, -, hnonneg, hlimit, hoffset, hplaced⟩
    · rw [hrefused]
      exact h.trails
    · rw [hplaced]
      intro o ho htype
      rcases List.mem_append.mp ho with hold | hlast
      · exact h.trails o hold htype
      · rw [List.mem_singleton.mp hlast] at htype ⊢
        exact ⟨_, _, _, placedOrder_trails hnonneg ((hi htype).1 limit hlimit) hoffset
          ((hi htype).2 offset hoffset) htype units capital best _⟩
  | cancelPendingOrder orderId =>
    change ∀ o ∈ (pm.cancelPendingOrder orderId).1.pendingOrders, _
    rcases pm.cancelPendingOrder_cases orderId with hmissed | hfound
    · rw [hmissed]
      exact h.trails
    · rw [hfound]
      exact fun o ho => h.trails o (List.eraseP_subset ho)
  | evaluatePendingOrders symbol high low close timestamp =>
    intro o ho htype
    change o ∈ (evaluateQueue symbol high low close timestamp pm.pendingOrders).1 at ho
    rw [evaluateQueue_eq] at ho
    obtain ⟨order, horder, rfl⟩ := List.mem_map.mp ho
    have hmem := List.mem_of_mem_filter horder
    unfold afterCandle at htype ⊢
    split
    · next htrailed =>
      obtain ⟨limit, offset, best, htrails⟩ := h.trails order hmem htrailed.2
      obtain ⟨limit', best', hafter⟩ := trails_trailOrder htrails hi
      exact ⟨limit', offset, best', hafter⟩
    · next huntrailed =>
      rw [if_neg huntrailed] at htype
      exact h.trails order hmem htype

/-- The level of a trailing stop is a number. -/
theorem Trailing.limitPrice_refl (h : pm.Trailing) {order : OrderRecord}
    (horder : order ∈ pm.pendingOrders) (htype : order.orderType = .trailingStop) :
    order.limitPrice ≤ order.limitPrice := by
  obtain ⟨limit, offset, best, htrails⟩ := h.trails order horder htype
  have hlimit := survives_of_ordinary htrails.limit_ordinary
  rw [htrails.limitPrice_eq, hlimit.toDouble_le_iff hlimit]

/-- A call other than a candle changes no record of the queue. -/
theorem Trailing.kept_of_mem (h : pm.Trailing) {i : Input}
    (hmem : ∀ order' ∈ (trading.next pm i).pendingOrders,
      order' ∈ pm.pendingOrders ∨ order'.orderId = pm.nextOrderId) : pm.LevelsKept i := by
  intro order horder htype order' horder' hid
  rcases hmem order' horder' with hold | hnew
  · rw [h.consistent.queued.numbered.eq_of_orderId hold horder hid]
    exact h.limitPrice_refl horder htype
  · have hlt := h.consistent.queued.orderId_lt order horder
    omega

/-- A step keeps the levels exactly when no trailing stop slips in it. -/
theorem Trailing.levelsKept_iff (h : pm.Trailing) {i : Input} (hi : i.Ordinary) :
    pm.LevelsKept i ↔ pm.NoSlip i := by
  cases i with
  | account c =>
    refine iff_of_true (h.kept_of_mem fun order' horder' => .inl ?_) trivial
    rwa [pendingOrders_account pm c] at horder'
  | placePendingOrder order =>
    refine iff_of_true (h.kept_of_mem fun order' horder' => ?_) trivial
    change order' ∈ (pm.placePendingOrder order).1.pendingOrders at horder'
    rcases pm.placePendingOrder_cases order with hrefused | ⟨_, _, _, _, _, -, -, -, -, hplaced⟩
    · rw [hrefused] at horder'
      exact .inl horder'
    · rw [hplaced] at horder'
      rcases List.mem_append.mp horder' with hold | hlast
      · exact .inl hold
      · rw [List.mem_singleton.mp hlast]
        exact .inr rfl
  | cancelPendingOrder orderId =>
    refine iff_of_true (h.kept_of_mem fun order' horder' => .inl ?_) trivial
    change order' ∈ (pm.cancelPendingOrder orderId).1.pendingOrders at horder'
    rcases pm.cancelPendingOrder_cases orderId with hmissed | hfound
    · rwa [hmissed] at horder'
    · rw [hfound] at horder'
      exact List.eraseP_subset horder'
  | evaluatePendingOrders symbol high low close timestamp =>
    have hqueue : (trading.next pm (.evaluatePendingOrders symbol high low close
        timestamp)).pendingOrders = (pm.pendingOrders.filter fun order =>
          (fillPriceOf symbol high low close order).isNone).map (afterCandle symbol close) :=
      congrArg Prod.fst (evaluateQueue_eq symbol high low close timestamp pm.pendingOrders)
    unfold LevelsKept NoSlip
    rw [hqueue]
    constructor
    · intro hkept order horder hsymbol htype
      obtain ⟨limit, offset, best, htrails⟩ := h.trails order horder htype
      rw [← level_le_iff htrails hsymbol htype high low hi]
      intro hunsold
      have hle := hkept order horder htype (afterCandle symbol close order)
        (List.mem_map_of_mem (List.mem_filter.mpr ⟨horder, by rw [hunsold]; rfl⟩))
        (orderId_afterCandle symbol close order)
      rwa [afterCandle, if_pos ⟨hsymbol, htype⟩] at hle
    · intro hnoslip order horder htype order' horder' hid
      obtain ⟨old, hold, rfl⟩ := List.mem_map.mp horder'
      rw [List.mem_filter, Option.isNone_iff_eq_none] at hold
      rw [orderId_afterCandle] at hid
      obtain rfl := h.consistent.queued.numbered.eq_of_orderId hold.1 horder hid
      unfold afterCandle
      split
      · next htrailed =>
        obtain ⟨limit, offset, best, htrails⟩ := h.trails old horder htype
        exact (level_le_iff htrails htrailed.1 htype high low hi).mpr
          (hnoslip old horder htrailed.1 htype) hold.2
      · exact h.limitPrice_refl horder htype

end Run

/-- **Trailing stops.** Along every run with prices of at most ten million, of a portfolio that
starts fresh, no step lowers the level of a resting trailing stop, from the level it was placed
with on, exactly when no order slips: the first close above a placed level and above the offset is
not nearer to the level than the offset, unless the candle sells the order. -/
theorem along_levelsKept_iff {inputs : List Input} (hordinary : ∀ i ∈ inputs, i.Ordinary) :
    trading.Along LevelsKept fresh inputs ↔ trading.Along NoSlip fresh inputs :=
  trading.along_iff_of_forall (I := Trailing) (fun _ _ h hi _ => h.step hi)
    (fun _ _ h hi => h.levelsKept_iff hi) trailing_fresh hordinary

/-- A trailing stop is placed at 100 with an offset of 5, and follows the closes 106 and 104. -/
def risingCalls : List Input := [
  .placePendingOrder {
    symbol := "BTC"
    orderType := .trailingStop
    isBuy := false
    limitPrice := .finite 100
    trailOffset := .finite 5
    quantity := .finite 1 },
  .evaluatePendingOrders "BTC" (.finite 107) (.finite 102) (.finite 106) 1,
  .evaluatePendingOrders "BTC" (.finite 106) (.finite 103) (.finite 104) 2]

/-- Over rising candles the stop follows the price and never falls. -/
theorem along_levelsKept_iff_risingCalls :
    (trading.run fresh risingCalls).pendingOrders.map (fun order => order.limitPrice) =
        [.finite 101] ∧ trading.Along LevelsKept fresh risingCalls :=
  ⟨by decide +kernel,
    (along_levelsKept_iff (by decide +kernel)).mpr (by decide +kernel)⟩

/-- A trailing stop is placed at 100 with an offset of 5, and a candle closes at 101. -/
def slippingCalls : List Input := [
  .placePendingOrder {
    symbol := "BTC"
    orderType := .trailingStop
    isBuy := false
    limitPrice := .finite 100
    trailOffset := .finite 5
    quantity := .finite 1 },
  .evaluatePendingOrders "BTC" (.finite 101) (.finite (201 / 2)) (.finite 101) 1]

/-- The stop that was placed at 100 rests at 96 after the first candle. -/
theorem level_of_slippingCalls :
    (trading.run fresh slippingCalls).pendingOrders.map (fun order => order.limitPrice) =
        [.finite 96] ∧ ¬trading.Along LevelsKept fresh slippingCalls := by
  refine ⟨by decide +kernel, ?_⟩
  intro hkept
  have htrailing : ∀ order ∈ (trading.run fresh (slippingCalls.take 1)).pendingOrders,
      order.orderType = .trailingStop := by
    decide +kernel
  have hlowered : ¬∀ order ∈ (trading.run fresh (slippingCalls.take 1)).pendingOrders,
      ∀ order' ∈ (trading.run fresh slippingCalls).pendingOrders,
        order'.orderId = order.orderId → order.limitPrice ≤ order'.limitPrice := by
    decide +kernel
  apply hlowered
  intro order horder
  exact hkept.2.1 order horder (htrailing order horder)

end PortfolioManager

end TradeBot
