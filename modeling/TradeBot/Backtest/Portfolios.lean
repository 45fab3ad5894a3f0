import TradeBot.Checkpoint.Portfolios

/-!
# Portfolios that differ in the order of their maps

A restored portfolio lists its positions in another order than the one that was saved, and
`valueState` adds them up in that order. Two positions, or positions whose costs stay in
range together, are valued in any order. Then the calls of a backtest have the same results
on both portfolios, again up to that order.
-/

namespace TradeBot

open Library Financial

namespace PortfolioManager

/-- The positions are valued in any order: there are two of them at most, or their costs are
in range together. -/
def Addable (positions : KeyedMap String PositionState) : Prop :=
  positions.entries.length ≤ 2 ∨
    KeyedMap.total (fun _ p => p.costBasis.units.toInt) positions < 2 ^ 63

section Valuation

/-- A position that was valued has a profit in range. -/
theorem profit_bounds {states : List PositionState} {sums sums' : Money × Money}
    (h : states.foldlM addMark sums = .ok sums') {p : PositionState} (hp : p ∈ states) :
    -2 ^ 63 ≤ p.profit := by
  obtain ⟨before, after, hstep⟩ := body_eq_ok_of_foldlM h p hp
  simp only [addMark, bind_eq_ok, requireValue_eq_ok, pure_eq_ok, subtract_eq_some_iff] at hstep
  obtain ⟨value, hvalue, -, -, profit, hprofit, -⟩ := hstep
  have hbounds := units_bounds profit
  rw [PositionState.profit, PositionState.markedUnits, PositionState.marked, hvalue,
    Option.elim_some]
  omega

/-- The profits of some first positions are in range, when the positions are addable. -/
theorem profits_bounds {states states' : List PositionState} {sums : Money × Money}
    (hperm : states'.Perm states) (hsound : ∀ p ∈ states, p.Sound)
    (haddable : states.length ≤ 2 ∨ (states.map fun p => p.costBasis.units.toInt).sum < 2 ^ 63)
    (h : states.foldlM addMark (0, 0) = .ok sums) (n : ℕ) :
    -2 ^ 63 ≤ ((states'.take n).map PositionState.profit).sum := by
  obtain ⟨-, -, hprofit⟩ := foldlM_addMark_eq_ok h
  have hzero : (0 : Money).units.toInt = 0 := rfl
  have htotal : -2 ^ 63 ≤ (states'.map PositionState.profit).sum := by
    have hbounds := units_bounds sums.2
    rw [(hperm.map PositionState.profit).sum_eq]
    change _ = _ + (states.map PositionState.profit).sum at hprofit
    rw [hzero] at hprofit
    omega
  rcases haddable with hlength | hcost
  · rw [← hperm.length_eq] at hlength
    cases n with
    | zero =>
      rw [List.take_zero, List.map_nil, List.sum_nil]
      decide
    | succ n =>
      cases states' with
      | nil => exact htotal
      | cons p rest =>
        cases n with
        | zero =>
          have hp := profit_bounds h (hperm.mem_iff.mp (List.mem_cons_self))
          simpa using hp
        | succ n =>
          have hrest : rest.length ≤ n + 1 := by
            rw [List.length_cons] at hlength
            omega
          rw [List.take_succ_cons, List.take_of_length_le hrest]
          exact htotal
  · have hsound' : ∀ p ∈ states', p.Sound := fun p hp => hsound p (hperm.mem_iff.mp hp)
    have hmarked : 0 ≤ ((states'.take n).map fun p =>
        p.profit + p.costBasis.units.toInt).sum := by
      apply List.sum_nonneg
      intro z hz
      obtain ⟨p, hp, rfl⟩ := List.mem_map.mp hz
      have hvalue := (hsound' p (List.mem_of_mem_take hp)).markedUnits_nonneg
      rw [PositionState.profit]
      omega
    have hcosts : ((states'.take n).map fun p => p.costBasis.units.toInt).sum ≤
        (states'.map fun p => p.costBasis.units.toInt).sum := by
      apply List.Sublist.sum_le_sum ((List.take_sublist n states').map _)
      intro z hz
      obtain ⟨p, hp, rfl⟩ := List.mem_map.mp hz
      exact (hsound' p hp).costBasis_nonneg
    rw [List.sum_map_add] at hmarked
    rw [(hperm.map fun p => p.costBasis.units.toInt).sum_eq] at hcosts
    omega

/-- Fixed-point values of the same units are the same. -/
theorem value_eq_of_toInt {tag : Tag} {a b : Value tag} (h : a.units.toInt = b.units.toInt) :
    a = b := by
  cases a
  cases b
  rw [Value.mk.injEq, ← Int64.toInt_inj]
  exact h

/-- The loop of `valueState` over addable positions has the same sums in any order. -/
theorem foldlM_addMark_perm {states states' : List PositionState} {sums : Money × Money}
    (hperm : states'.Perm states) (hsound : ∀ p ∈ states, p.Sound)
    (haddable : states.length ≤ 2 ∨ (states.map fun p => p.costBasis.units.toInt).sum < 2 ^ 63)
    (h : states.foldlM addMark (0, 0) = .ok sums) :
    states'.foldlM addMark (0, 0) = .ok sums := by
  obtain ⟨hmarked, hvalue, hprofit⟩ := foldlM_addMark_eq_ok h
  have hzero : (0 : Money).units.toInt = 0 := rfl
  have htotal : (0 : Money).units.toInt + (states'.map PositionState.markedUnits).sum < 2 ^ 63 := by
    have hbounds := units_bounds sums.1
    rw [(hperm.map PositionState.markedUnits).sum_eq, ← hvalue]
    exact hbounds.2
  obtain ⟨sums', hsums⟩ := (@foldlM_addMark_returns_iff states' (0, 0)
    (fun p hp => hsound p (hperm.mem_iff.mp hp)) (fun p hp => hmarked p (hperm.mem_iff.mp hp))
    (le_refl 0) (le_refl _) htotal).mpr fun n => by
      rw [hzero, zero_add]
      exact profits_bounds hperm hsound haddable h n
  obtain ⟨-, hvalue', hprofit'⟩ := foldlM_addMark_eq_ok hsums
  have hsame : sums' = sums := by
    apply Prod.ext
    · apply value_eq_of_toInt
      rw [hvalue, hvalue', (hperm.map PositionState.markedUnits).sum_eq]
    · apply value_eq_of_toInt
      rw [hprofit, hprofit', (hperm.map _).sum_eq]
  rw [hsums, hsame]

/-- Addable positions have the same valuation, in whatever order a map lists them. -/
theorem valueState_congr {pm pm' : PortfolioManager} {cash : Money}
    {positions positions' : KeyedMap String PositionState} {valuation : Valuation}
    (hlookup : ∀ symbol, positions'.lookup symbol = positions.lookup symbol)
    (hsound : ∀ symbol p, positions.lookup symbol = some p → p.Sound)
    (haddable : Addable positions) (hmax : pm'.maxEquity = pm.maxEquity)
    (hlargest : pm'.maxDrawdown = pm.maxDrawdown)
    (h : pm.valueState cash positions = .ok valuation) :
    pm'.valueState cash positions' = .ok valuation := by
  simp only [valueState, bind_eq_ok] at h
  obtain ⟨sums, hsums, hrest⟩ := h
  have hperm := (KeyedMap.perm_of_lookup hlookup).map Sigma.snd
  have hsums' := foldlM_addMark_perm hperm (fun p hp => by
    obtain ⟨e, he, rfl⟩ := List.mem_map.mp hp
    exact hsound e.1 e.2 (AList.mem_lookup_iff.mpr he)) (by
    rw [List.length_map, List.map_map]
    exact haddable) hsums
  simp only [valueState, bind_eq_ok, hmax, hlargest]
  exact ⟨sums, hsums', hrest⟩

end Valuation

section Calls

variable {pm pm' : PortfolioManager} {symbol : String}

/-- Portfolios that are the same differ in the order of their positions at most. -/
theorem Same.eq (h : pm'.Same pm) : pm' = { pm with positions := pm'.positions } := by
  rw [← h.1]

/-- A fresh position in both portfolios. -/
theorem Same.openLong {pm₁ : PortfolioManager} {netPrice : Double} {timestamp : ℕ}
    {fee capitalToCommit explicitUnits : Double} {strategyId : String} (h : pm'.Same pm)
    (hvalued : pm₁.Valued) (haddable : Addable pm₁.positions)
    (hok : pm.openLong symbol netPrice timestamp fee capitalToCommit explicitUnits strategyId =
      .ok pm₁) :
    ∃ pm₁', pm'.openLong symbol netPrice timestamp fee capitalToCommit explicitUnits strategyId =
      .ok pm₁' ∧ pm₁'.Same pm₁ := by
  rw [h.eq]
  simp only [PortfolioManager.openLong, bind_eq_ok, throwIf_eq_ok, pure_eq_ok] at hok ⊢
  obtain ⟨_, hsymbol, _, hnew, _, hinputs, p, hprice, entryFee, hfee, budget, hbudget,
    ⟨amount, cost, debit⟩, hsize, _, hcash, _, hcost, average, haverage, nextCash, hnextCash,
    nextFees, hnextFees, valuation, hvalue, _, hcounter, rfl⟩ := hok
  have hlookup := KeyedMap.lookup_insert_congr h.2 symbol
  have hvalue' := valueState_congr (hlookup _) hvalued.sound haddable rfl rfl hvalue
  refine ⟨_, ⟨(), hsymbol, (), ?_, (), hinputs, p, hprice, entryFee, hfee, budget, hbudget,
    ⟨amount, cost, debit⟩, hsize, (), hcash, (), hcost, average, haverage, nextCash, hnextCash,
    nextFees, hnextFees, valuation, hvalue', (), hcounter, rfl⟩, rfl, hlookup _⟩
  rw [decide_eq_false_iff_not] at hnew ⊢
  rwa [KeyedMap.mem_iff_of_lookup h.2]

/-- Reducing a position in maps with the same lookups. -/
theorem reducePosition_congr {positions positions' next : KeyedMap String PositionState}
    {prior : PositionState} {p : Price} {remaining : Quantity} {cost fee : Money}
    (hlookup : ∀ symbol, positions'.lookup symbol = positions.lookup symbol)
    (hok : reducePosition positions symbol prior p remaining cost fee = .ok next) :
    ∃ next', reducePosition positions' symbol prior p remaining cost fee = .ok next' ∧
      ∀ symbol, next'.lookup symbol = next.lookup symbol := by
  unfold reducePosition at hok ⊢
  split
  · next hzero =>
    rw [if_pos hzero, pure_eq_ok] at hok
    rw [← hok]
    exact ⟨_, rfl, KeyedMap.lookup_erase_congr hlookup symbol⟩
  · next hzero =>
    rw [if_neg hzero] at hok
    simp only [bind_eq_ok, pure_eq_ok] at hok ⊢
    obtain ⟨nextCost, hcost, nextFee, hfee, average, haverage, rfl⟩ := hok
    exact ⟨_, ⟨nextCost, hcost, nextFee, hfee, average, haverage, rfl⟩,
      KeyedMap.lookup_insert_congr hlookup symbol _⟩

/-- A close in both portfolios. -/
theorem Same.closePosition {pm₁ : PortfolioManager} {netPrice : Double} {timestamp : ℕ}
    {fee : Double} {strategyId : String} {explicitQuantity : Double} (h : pm'.Same pm)
    (hvalued : pm₁.Valued) (haddable : Addable pm₁.positions)
    (hok : pm.closePosition symbol netPrice timestamp fee strategyId explicitQuantity =
      .ok pm₁) :
    ∃ pm₁', pm'.closePosition symbol netPrice timestamp fee strategyId explicitQuantity =
      .ok pm₁' ∧ pm₁'.Same pm₁ := by
  unfold PortfolioManager.closePosition at hok ⊢
  rw [h.2 symbol]
  split at hok
  · rw [pure_eq_ok] at hok
    rw [← hok]
    exact ⟨pm', rfl, h⟩
  · next prior hprior =>
    rw [h.eq]
    simp only [reduceOpenPosition, bind_eq_ok, throwIf_eq_ok, pure_eq_ok] at hok ⊢
    obtain ⟨_, hinputs, p, hprice, exitFee, hfee, closed, hclosed, gross, hgross, net, hnet, cost,
      hcost, entryFee, hentryFee, grossPnl, hgrossPnl, afterFee, hafterFee, realized, hrealized,
      tradeFees, htradeFees, remaining, hremaining, next, hnext, nextCash, hnextCash, nextFees,
      hnextFees, valuation, hvalue, _, hcounter, _, htrips, rfl⟩ := hok
    obtain ⟨next', hnext', hlookup⟩ := reducePosition_congr h.2 hnext
    have hvalue' := valueState_congr hlookup hvalued.sound haddable rfl rfl hvalue
    exact ⟨_, ⟨(), hinputs, p, hprice, exitFee, hfee, closed, hclosed, gross, hgross, net, hnet,
      cost, hcost, entryFee, hentryFee, grossPnl, hgrossPnl, afterFee, hafterFee, realized,
      hrealized, tradeFees, htradeFees, remaining, hremaining, next', hnext', nextCash, hnextCash,
      nextFees, hnextFees, valuation, hvalue', (), hcounter, (), htrips, rfl⟩, rfl, hlookup⟩

/-- A mark in both portfolios. -/
theorem Same.updatePnL {pm₁ : PortfolioManager} {currentPrice : Double} (h : pm'.Same pm)
    (hvalued : pm₁.Valued) (haddable : Addable pm₁.positions)
    (hok : pm.updatePnL symbol currentPrice = .ok pm₁) :
    ∃ pm₁', pm'.updatePnL symbol currentPrice = .ok pm₁' ∧ pm₁'.Same pm₁ := by
  unfold PortfolioManager.updatePnL at hok ⊢
  rw [h.2 symbol]
  split at hok
  · rw [pure_eq_ok] at hok
    rw [← hok]
    exact ⟨pm', rfl, h⟩
  · next current hcurrent =>
    rw [h.eq]
    simp only [bind_eq_ok, pure_eq_ok] at hok ⊢
    obtain ⟨mark, hmark, valuation, hvalue, rfl⟩ := hok
    have hlookup := KeyedMap.lookup_insert_congr h.2 symbol { current with lastMarkPrice := mark }
    have hvalue' := valueState_congr hlookup hvalued.sound haddable rfl rfl hvalue
    exact ⟨_, ⟨mark, hmark, valuation, hvalue', rfl⟩, rfl, hlookup⟩

/-- A mark changes neither the number of the positions nor their costs. -/
theorem addable_updatePnL {pm₁ : PortfolioManager} {currentPrice : Double}
    (hok : pm.updatePnL symbol currentPrice = .ok pm₁) (h : Addable pm₁.positions) :
    Addable pm.positions := by
  unfold PortfolioManager.updatePnL at hok
  split at hok
  · rw [pure_eq_ok] at hok
    rwa [hok]
  · next current hcurrent =>
    simp only [bind_eq_ok, pure_eq_ok] at hok
    obtain ⟨mark, -, valuation, -, rfl⟩ := hok
    change Addable (pm.positions.insert symbol { current with lastMarkPrice := mark }) at h
    refine h.imp (fun hlength => ?_) (fun hcost => ?_)
    · have hcount := KeyedMap.total_insert_of_lookup (fun _ _ => (1 : ℤ)) hcurrent
        { current with lastMarkPrice := mark }
      rw [KeyedMap.total_one, KeyedMap.total_one] at hcount
      omega
    · rw [KeyedMap.total_insert_of_lookup _ hcurrent] at hcost
      simpa using hcost

end Calls

end PortfolioManager

end TradeBot
