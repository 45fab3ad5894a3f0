import TradeBot.PortfolioLedger

/-!
# The valuation of the portfolio

Each call that returns values the new cash and the new positions before it commits
them. So in every portfolio that calls have made from a fresh one the equity is the
cash with the marked positions, the largest equity and the largest drawdown bound the
current ones, and both only grow.
-/

namespace TradeBot

open Library Financial

variable [FloatFormat]

namespace PositionState

/-- The value of a position at its mark. -/
def marked (p : PositionState) : Option Money := notional p.lastMarkPrice p.quantity

/-- The units of the marked value. -/
def markedUnits (p : PositionState) : ℤ := p.marked.elim 0 (·.units.toInt)

/-- An open position: a positive quantity with nonnegative cost and fee, a positive mark,
and the average price of its cost. -/
structure Sound (p : PositionState) : Prop where
  quantity_pos : 0 < p.quantity.units.toInt
  costBasis_nonneg : 0 ≤ p.costBasis.units.toInt
  entryFee_nonneg : 0 ≤ p.entryFee.units.toInt
  lastMarkPrice_pos : 0 < p.lastMarkPrice.units.toInt
  averageEntryPrice_eq : averagePrice p.costBasis p.quantity = some p.averageEntryPrice

end PositionState

namespace PortfolioManager

/-- A portfolio that is valued at its marks: its cash is not negative, its positions are
sound, and its equity, profit and drawdown are those of the cash and the positions. -/
structure Valued (pm : PortfolioManager) : Prop where
  cash_nonneg : 0 ≤ pm.cash.units.toInt
  sound : ∀ symbol p, pm.positions.lookup symbol = some p → p.Sound
  marked : ∀ symbol p, pm.positions.lookup symbol = some p → ∃ value, p.marked = some value
  totalEquity_eq : pm.totalEquity.units.toInt =
    pm.cash.units.toInt + KeyedMap.total (fun _ p => p.markedUnits) pm.positions
  unrealizedPnL_eq : pm.unrealizedPnL.units.toInt =
    KeyedMap.total (fun _ p => p.markedUnits - p.costBasis.units.toInt) pm.positions
  totalEquity_le : pm.totalEquity.units.toInt ≤ pm.maxEquity.units.toInt
  drawdown : ∃ current largest : ℚ, pm.currentDrawdown = .finite current ∧
    pm.maxDrawdown = .finite largest ∧ 0 ≤ current ∧ current ≤ largest

/-- The largest equity and the largest drawdown do not decrease. -/
structure Grows (pm pm' : PortfolioManager) : Prop where
  maxEquity_le : pm.maxEquity.units.toInt ≤ pm'.maxEquity.units.toInt
  maxDrawdown_le : ∀ largest : ℚ, pm.maxDrawdown = .finite largest →
    ∃ later : ℚ, pm'.maxDrawdown = .finite later ∧ largest ≤ later

omit [FloatFormat] in
/-- A portfolio grows into itself. -/
theorem Grows.refl (pm : PortfolioManager) : pm.Grows pm :=
  ⟨le_refl _, fun largest h => ⟨largest, h, le_refl _⟩⟩

omit [FloatFormat] in
/-- Growing twice is growing. -/
theorem Grows.trans {pm pm' pm'' : PortfolioManager} (h : pm.Grows pm') (h' : pm'.Grows pm'') :
    pm.Grows pm'' := by
  refine ⟨h.maxEquity_le.trans h'.maxEquity_le, fun largest hlargest => ?_⟩
  obtain ⟨later, hlater, hle⟩ := h.maxDrawdown_le largest hlargest
  obtain ⟨last, hlast, hle'⟩ := h'.maxDrawdown_le later hlater
  exact ⟨last, hlast, hle.trans hle'⟩

omit [FloatFormat] in
/-- The loop of `valueState` adds up the marked values and the profits. -/
theorem foldlM_addMark_eq_ok {states : List PositionState} {sums sums' : Money × Money}
    (h : states.foldlM addMark sums = .ok sums') :
    (∀ p ∈ states, ∃ value, p.marked = some value) ∧
      sums'.1.units.toInt = sums.1.units.toInt + (states.map (·.markedUnits)).sum ∧
      sums'.2.units.toInt = sums.2.units.toInt +
        (states.map fun p => p.markedUnits - p.costBasis.units.toInt).sum := by
  induction states generalizing sums with
  | nil =>
    rw [List.foldlM_nil, pure_eq_ok] at h
    subst h
    simp
  | cons p states ih =>
    rw [List.foldlM_cons, bind_eq_ok] at h
    obtain ⟨next, hp, hrest⟩ := h
    obtain ⟨hmarked, hvalue, hprofit⟩ := ih hrest
    simp only [addMark, bind_eq_ok, requireValue_eq_ok, pure_eq_ok] at hp
    obtain ⟨value, hvalued, total, htotal, profit, hp', unrealized, hunrealized, rfl⟩ := hp
    rw [add_eq_some_iff] at htotal hunrealized
    rw [subtract_eq_some_iff] at hp'
    dsimp only at hvalue hprofit
    have hunits : p.markedUnits = value.units.toInt := by
      rw [PositionState.markedUnits, PositionState.marked, hvalued, Option.elim_some]
    refine ⟨?_, ?_, ?_⟩
    · intro q hq
      rcases List.mem_cons.mp hq with rfl | hq
      · exact ⟨value, hvalued⟩
      · exact hmarked q hq
    · rw [hvalue, List.map_cons, List.sum_cons, hunits]
      omega
    · rw [hprofit, List.map_cons, List.sum_cons, hunits]
      omega

/-- The drawdown of an equity below a largest equity is a nonnegative rational. -/
theorem drawdown_eq {largest equity : Money} (h : equity.units.toInt ≤ largest.units.toInt) :
    ∃ drawdown : ℚ, (if largest.isPositive then
      (largest.toDouble - equity.toDouble) / largest.toDouble else 0) = .finite drawdown ∧
        0 ≤ drawdown := by
  split
  · next hpos =>
    have hlargest := (zero_lt_toDouble largest).mpr ((isPositive_iff largest).mp hpos)
    have hle := toDouble_mono h
    rw [Value.toDouble] at hlargest hle ⊢
    rw [Value.toDouble, Double.finite_le_finite] at hle
    rw [Double.zero_eq, Double.finite_lt_finite] at hlargest
    refine ⟨_, if_neg hlargest.ne', div_nonneg ?_ hlargest.le⟩
    linarith
  · exact ⟨0, rfl, le_refl 0⟩

omit [FloatFormat] in
/-- The greater of two finite doubles is the greater number. -/
theorem max_finite (a b : ℚ) : Double.max (.finite a) (.finite b) = .finite (max a b) := by
  rw [Double.max]
  split
  · next h =>
    rw [Double.finite_lt_finite] at h
    rw [max_eq_right h.le]
  · next h =>
    rw [Double.finite_lt_finite, not_lt] at h
    rw [max_eq_left h]

/-- What `valueState` computes for cash and positions. -/
structure Values (pm : PortfolioManager) (cash : Money)
    (positions : KeyedMap String PositionState) (valuation : Valuation) : Prop where
  marked : ∀ symbol p, positions.lookup symbol = some p → ∃ value, p.marked = some value
  totalEquity_eq : valuation.totalEquity.units.toInt =
    cash.units.toInt + KeyedMap.total (fun _ p => p.markedUnits) positions
  unrealizedPnL_eq : valuation.unrealizedPnL.units.toInt =
    KeyedMap.total (fun _ p => p.markedUnits - p.costBasis.units.toInt) positions
  maxEquity_eq : valuation.maxEquity.units.toInt =
    max pm.maxEquity.units.toInt valuation.totalEquity.units.toInt
  drawdown : ∃ current : ℚ, valuation.currentDrawdown = .finite current ∧ 0 ≤ current ∧
    valuation.maxDrawdown = Double.max pm.maxDrawdown (.finite current)

/-- `valueState` values cash and positions at their marks. -/
theorem valueState_eq_ok {pm : PortfolioManager} {cash : Money}
    {positions : KeyedMap String PositionState} {valuation : Valuation}
    (h : pm.valueState cash positions = .ok valuation) : pm.Values cash positions valuation := by
  simp only [valueState, bind_eq_ok, requireValue_eq_ok, pure_eq_ok, Prod.exists] at h
  obtain ⟨value, unrealized, hfold, equity, hequity, rfl⟩ := h
  obtain ⟨hmarked, hvalue, hprofit⟩ := foldlM_addMark_eq_ok hfold
  rw [add_eq_some_iff] at hequity
  rw [List.map_map] at hvalue hprofit
  have hmax : (if pm.maxEquity.units < equity.units then equity else pm.maxEquity).units.toInt =
      max pm.maxEquity.units.toInt equity.units.toInt := by
    split
    · next hlt =>
      rw [Int64.lt_iff_toInt_lt] at hlt
      rw [max_eq_right hlt.le]
    · next hlt =>
      rw [Int64.lt_iff_toInt_lt, not_lt] at hlt
      rw [max_eq_left hlt]
  have hzero : (0 : Money).units.toInt = 0 := rfl
  refine ⟨fun symbol p hp => ?_, ?_, ?_, hmax, ?_⟩
  · exact hmarked p (List.mem_map.mpr ⟨⟨symbol, p⟩, AList.mem_lookup_iff.mp hp, rfl⟩)
  · change equity.units.toInt = _
    rw [hequity, hvalue, hzero, zero_add]
    rfl
  · change unrealized.units.toInt = _
    rw [hprofit, hzero, zero_add]
    rfl
  · obtain ⟨current, hcurrent, hnonneg⟩ := drawdown_eq (hmax ▸ le_max_right _ _)
    refine ⟨current, hcurrent, hnonneg, ?_⟩
    change Double.max pm.maxDrawdown _ = _
    rw [hcurrent]

/-- Committing a valuation of sound positions and nonnegative cash keeps the portfolio valued
and lets its bounds grow. -/
theorem valued_commit {pm pm' : PortfolioManager} {valuation : Valuation} (h : pm.Valued)
    (hcash : 0 ≤ pm'.cash.units.toInt)
    (hsound : ∀ symbol p, pm'.positions.lookup symbol = some p → p.Sound)
    (hvalue : pm.valueState pm'.cash pm'.positions = .ok valuation)
    (hcommit : pm'.commitValuation valuation = pm') : pm'.Valued ∧ pm.Grows pm' := by
  obtain ⟨hmarked, hequity, hprofit, hmax, current, hcurrent, hnonneg, hlargest⟩ :=
    valueState_eq_ok hvalue
  obtain ⟨-, previous, -, hprevious, -⟩ := h.drawdown
  rw [hprevious, max_finite] at hlargest
  rw [← hcommit]
  refine ⟨⟨hcash, hsound, hmarked, hequity, hprofit, ?_, ?_⟩, ?_, ?_⟩
  · change valuation.totalEquity.units.toInt ≤ valuation.maxEquity.units.toInt
    rw [hmax]
    exact le_max_right _ _
  · exact ⟨current, _, hcurrent, hlargest, hnonneg, le_max_right _ _⟩
  · change _ ≤ valuation.maxEquity.units.toInt
    rw [hmax]
    exact le_max_left _ _
  · intro largest hsame
    rw [hprevious] at hsame
    cases hsame
    exact ⟨_, hlargest, le_max_left _ _⟩

omit [FloatFormat] in
/-- Positions stay sound when a sound one is written. -/
theorem sound_insert {positions : KeyedMap String PositionState} {symbol : String}
    {p : PositionState} (h : ∀ symbol q, positions.lookup symbol = some q → q.Sound)
    (hp : p.Sound) (other : String) (q : PositionState)
    (hq : (positions.insert symbol p).lookup other = some q) : q.Sound := by
  by_cases hother : other = symbol
  · subst hother
    rw [AList.lookup_insert, Option.some.injEq] at hq
    rw [← hq]
    exact hp
  · rw [AList.lookup_insert_ne hother] at hq
    exact h other q hq

variable {pm pm' : PortfolioManager} {symbol : String}

/-- An entry keeps the portfolio valued. -/
theorem openLong_valued {netPrice : Double} {timestamp : ℕ}
    {fee capitalToCommit explicitUnits : Double} {strategyId : String} (hpm : pm.Valued)
    (h : pm.openLong symbol netPrice timestamp fee capitalToCommit explicitUnits strategyId
      = .ok pm') : pm'.Valued ∧ pm.Grows pm' := by
  simp only [openLong, bind_eq_ok, throwIf_eq_ok, requirePositive_eq_ok,
    requireNonnegative_eq_ok, requireValue_eq_ok, requireCounterCapacity_eq_ok, pure_eq_ok,
    Prod.exists, decide_eq_false_iff_not, Bool.not_eq_false', Int64.lt_iff_toInt_lt,
    isPositive_iff, isNegative_eq_false_iff] at h
  obtain ⟨-, -, -, -, -, -, p, ⟨-, hprice⟩, entryFee, ⟨-, hfee⟩, budget, -, amount, cost, debit,
    hsize, -, hdebit, -, hcost, average, haverage, nextCash, hcash, nextFees, -, valuation, hvalue,
    -, -, rfl⟩ := h
  obtain ⟨hamount, -⟩ := sizeEntry_eq_ok hsize
  rw [subtract_eq_some_iff] at hcash
  refine valued_commit hpm ?_ ?_ hvalue rfl
  · change 0 ≤ nextCash.units.toInt
    omega
  · exact sound_insert hpm.sound
      ⟨(isPositive_iff amount).mp hamount, hcost.le, hfee, hprice, haverage⟩

/-- An add-on keeps the portfolio valued. -/
theorem addToPosition_valued {current : PositionState}
    {netPrice addedUnits fee capitalToCommit : Double} {strategyId : String} (hpm : pm.Valued)
    (hcurrent : pm.positions.lookup symbol = some current)
    (h : pm.addToPosition current symbol netPrice addedUnits fee capitalToCommit strategyId
      = .ok pm') : pm'.Valued ∧ pm.Grows pm' := by
  simp only [addToPosition, bind_eq_ok, throwIf_eq_ok, requirePositive_eq_ok,
    requireNonnegative_eq_ok, requireValue_eq_ok, requireCounterCapacity_eq_ok, pure_eq_ok,
    decide_eq_false_iff_not, Bool.not_eq_false', Int64.lt_iff_toInt_lt, isPositive_iff,
    isNegative_eq_false_iff] at h
  obtain ⟨-, -, p, ⟨-, hprice⟩, amount, ⟨-, hamount⟩, addedFee, ⟨-, hfee⟩, cost, -, debit, -, -,
    hcost, -, hdebit, -, -, nextQuantity, hquantity, nextCost, hnextCost, nextEntryFee, hnextFee,
    average, haverage, nextCash, hcash, nextFees, -, valuation, hvalue, -, -, rfl⟩ := h
  rw [subtract_eq_some_iff] at hcash
  rw [add_eq_some_iff] at hquantity hnextCost hnextFee
  obtain ⟨hheld, hbasis, hentry, -, -⟩ := hpm.sound symbol current hcurrent
  refine valued_commit hpm ?_ ?_ hvalue rfl
  · change 0 ≤ nextCash.units.toInt
    omega
  · have hnextHeld : 0 < nextQuantity.units.toInt := by omega
    have hnextBasis : 0 ≤ nextCost.units.toInt := by omega
    have hnextEntry : 0 ≤ nextEntryFee.units.toInt := by omega
    exact sound_insert hpm.sound ⟨hnextHeld, hnextBasis, hnextEntry, hprice, haverage⟩

/-- `addToLong` keeps the portfolio valued. -/
theorem addToLong_valued {netPrice addedUnits fee capitalToCommit : Double} {strategyId : String}
    (hpm : pm.Valued)
    (h : pm.addToLong symbol netPrice addedUnits fee capitalToCommit strategyId = .ok pm') :
    pm'.Valued ∧ pm.Grows pm' := by
  unfold addToLong at h
  split at h
  · exact openLong_valued hpm h
  · next current hcurrent => exact addToPosition_valued hpm hcurrent h

omit [FloatFormat] in
/-- The positions after a close are sound. -/
theorem sound_reducePosition {positions next : KeyedMap String PositionState}
    {prior : PositionState} {p : Price} {remaining : Quantity} {cost entryFee : Money}
    (h : ∀ symbol q, positions.lookup symbol = some q → q.Sound)
    (hnext : reducePosition positions symbol prior p remaining cost entryFee = .ok next)
    (hremaining : 0 ≤ remaining.units.toInt) (hprice : 0 < p.units.toInt)
    (hcost : cost.units.toInt ≤ prior.costBasis.units.toInt)
    (hfee : entryFee.units.toInt ≤ prior.entryFee.units.toInt) (other : String)
    (q : PositionState) (hq : next.lookup other = some q) : q.Sound := by
  unfold reducePosition at hnext
  split at hnext
  · rw [pure_eq_ok] at hnext
    subst hnext
    by_cases hother : other = symbol
    · subst hother
      rw [AList.lookup_erase] at hq
      cases hq
    · rw [AList.lookup_erase_ne hother] at hq
      exact h other q hq
  · next hzero =>
    simp only [bind_eq_ok, requireValue_eq_ok, pure_eq_ok] at hnext
    obtain ⟨nextCost, hnextCost, nextFee, hnextFee, average, haverage, rfl⟩ := hnext
    rw [subtract_eq_some_iff] at hnextCost hnextFee
    rw [isZero_iff] at hzero
    have hbasis : 0 ≤ nextCost.units.toInt := by omega
    have hentry : 0 ≤ nextFee.units.toInt := by omega
    refine sound_insert h ?_ other q hq
    exact ⟨lt_of_le_of_ne hremaining (Ne.symm hzero), hbasis, hentry, hprice, haverage⟩

/-- A close of an open position keeps the portfolio valued. -/
theorem reduceOpenPosition_valued {prior : PositionState} {netPrice : Double} {timestamp : ℕ}
    {fee : Double} {strategyId : String} {explicitQuantity : Double} (hpm : pm.Valued)
    (hprior : pm.positions.lookup symbol = some prior)
    (h : pm.reduceOpenPosition prior symbol netPrice timestamp fee strategyId explicitQuantity
      = .ok pm') : pm'.Valued ∧ pm.Grows pm' := by
  simp only [reduceOpenPosition, bind_eq_ok, throwIf_eq_ok, requirePositive_eq_ok,
    requireNonnegative_eq_ok, requireValue_eq_ok, requireCounterCapacity_eq_ok, pure_eq_ok,
    isPositive_iff, isNegative_eq_false_iff] at h
  obtain ⟨-, -, p, ⟨-, hprice⟩, exitFee, -, closed, hclose, proceeds, -, netProceeds, ⟨-, hnet⟩,
    cost, hcost, entryFee, hentryFee, gross, -, afterExitFee, -, realized, -, tradeFees, -,
    remaining, hremaining, next, hnext, nextCash, hcash, nextFees, -, valuation, hvalue, -, -, -,
    -, rfl⟩ := h
  obtain ⟨-, -, hle, -⟩ := closeQuantity_eq_ok hclose
  rw [subtract_eq_some_iff] at hremaining
  rw [add_eq_some_iff] at hcash
  obtain ⟨-, hbasis, hentry, -, -⟩ := hpm.sound symbol prior hprior
  have hnonneg := hpm.cash_nonneg
  refine valued_commit hpm ?_ ?_ hvalue rfl
  · change 0 ≤ nextCash.units.toInt
    omega
  · exact sound_reducePosition hpm.sound hnext (by omega) hprice
      (proportional_bounds hbasis hcost).2 (proportional_bounds hentry hentryFee).2

/-- `closePosition` keeps the portfolio valued. -/
theorem closePosition_valued {netPrice : Double} {timestamp : ℕ} {fee : Double}
    {strategyId : String} {explicitQuantity : Double} (hpm : pm.Valued)
    (h : pm.closePosition symbol netPrice timestamp fee strategyId explicitQuantity = .ok pm') :
    pm'.Valued ∧ pm.Grows pm' := by
  unfold closePosition at h
  split at h
  · rw [pure_eq_ok] at h
    subst h
    exact ⟨hpm, Grows.refl pm⟩
  · next prior hprior => exact reduceOpenPosition_valued hpm hprior h

/-- `updatePnL` keeps the portfolio valued. -/
theorem updatePnL_valued {currentPrice : Double} (hpm : pm.Valued)
    (h : pm.updatePnL symbol currentPrice = .ok pm') : pm'.Valued ∧ pm.Grows pm' := by
  unfold updatePnL at h
  split at h
  · rw [pure_eq_ok] at h
    subst h
    exact ⟨hpm, Grows.refl pm⟩
  · next current hcurrent =>
    simp only [bind_eq_ok, requirePositive_eq_ok, pure_eq_ok, isPositive_iff] at h
    obtain ⟨mark, ⟨-, hmark⟩, valuation, hvalue, rfl⟩ := h
    obtain ⟨hheld, hbasis, hentry, -, haverage⟩ := hpm.sound symbol current hcurrent
    refine valued_commit hpm hpm.cash_nonneg ?_ hvalue rfl
    exact sound_insert hpm.sound ⟨hheld, hbasis, hentry, hmark, haverage⟩

/-- Every call that returns keeps the portfolio valued and lets its bounds grow. -/
theorem Valued.call (h : pm.Valued) (c : PortfolioCall) (hcall : pm.call c = .ok pm') :
    pm'.Valued ∧ pm.Grows pm' := by
  cases c with
  | openLong symbol netPrice timestamp fee capitalToCommit explicitUnits strategyId =>
    exact openLong_valued h hcall
  | addToLong symbol netPrice quantity fee capitalToCommit strategyId =>
    exact addToLong_valued h hcall
  | closePosition symbol netPrice timestamp fee strategyId explicitQuantity =>
    exact closePosition_valued h hcall
  | updatePnL symbol currentPrice => exact updatePnL_valued h hcall

omit [FloatFormat] in
/-- A fresh portfolio is valued. -/
theorem valued_fresh {capital : Money} (hcapital : 0 ≤ capital.units.toInt) :
    (fresh capital).Valued where
  cash_nonneg := hcapital
  sound := fun _ _ hp => by cases hp
  marked := fun _ _ hp => by cases hp
  totalEquity_eq := (add_zero _).symm
  unrealizedPnL_eq := rfl
  totalEquity_le := le_refl _
  drawdown := ⟨0, 0, rfl, rfl, le_refl 0, le_refl 0⟩

end PortfolioManager

end TradeBot
