import TradeBot.Checkpoint.Restoration

/-!
# Checkpoints of reachable portfolios

Any sequence of accounting calls and calls of the queue of resting orders keeps the
portfolio valued, its records sound and its identifiers unique. Such a portfolio passes
the validation of its snapshot and is restored from it exactly when it is `Restorable`:
a partial close may round the remaining cost of a position to zero, and then no snapshot
of the portfolio is accepted.
-/

namespace TradeBot

open Library Financial

namespace StateSerializer

/-- A check passes exactly when its condition is false. -/
@[simp] theorem failIf_eq_ok {condition : Bool} {error : String} {u : Unit} :
    failIf condition error = .ok u ↔ condition = false := by
  cases condition <;> simp [failIf]

section Checks

variable [FloatFormat]

/-- Fixed-point values are finite doubles. -/
@[simp] theorem isFinite_toDouble {tag : Tag} (v : Value tag) : v.toDouble.isFinite = true := rfl

/-- The sign of a value can be read off its double. -/
theorem toDouble_le_zero {tag : Tag} (v : Value tag) :
    v.toDouble ≤ 0 ↔ v.units.toInt ≤ 0 := by
  rw [Double.zero_eq, Value.toDouble, Double.finite_le_finite, ← not_lt, ← not_lt,
    ← zero_lt_toDouble, Double.zero_eq, Value.toDouble, Double.finite_lt_finite]

/-- Under exact conversions every amount of money is aligned. -/
@[simp] theorem alignedMoney_toDouble [ExactFormat] (v : Money) :
    alignedMoney v.toDouble = true := by
  rw [alignedMoney, money_toDouble, Option.isSome_some]

/-- Under exact conversions every price is aligned. -/
@[simp] theorem alignedPrice_toDouble [ExactFormat] (v : Price) :
    alignedPrice v.toDouble = true := by
  rw [alignedPrice, price_toDouble, Option.isSome_some]

/-- Under exact conversions every quantity is aligned. -/
@[simp] theorem alignedQuantity_toDouble [ExactFormat] (v : Quantity) :
    alignedQuantity v.toDouble = true := by
  rw [alignedQuantity, quantity_toDouble, Option.isSome_some]

/-- A sound record of the trade log passes its check when its entry price is positive. -/
theorem checkTrade_eq_ok [ExactFormat] {record : TradeRecord} (h : record.Sound) :
    checkTrade record = .ok () ↔ 0 < record.entryPrice := by
  obtain ⟨hsymbol, ⟨entry, hentry⟩, ⟨exit, hexit⟩, hexitPos, ⟨amount, hamount⟩, hamountPos,
    ⟨fees, hfees⟩, hfeesNonneg, ⟨net, hnet⟩, ⟨gross, hgross⟩⟩ := h
  rw [hexit, zero_lt_toDouble] at hexitPos
  rw [hamount, zero_lt_toDouble] at hamountPos
  rw [hfees, toDouble_lt_zero] at hfeesNonneg
  rw [checkTrade, failIf_eq_ok, hentry, hexit, hamount, hfees, hnet, hgross, zero_lt_toDouble]
  simp [toDouble_le_zero, toDouble_lt_zero, hsymbol, hexitPos, hamountPos, hfeesNonneg]

/-- The accounts of a valued portfolio pass their check. -/
theorem checkAccounts_snapshotState [ExactFormat] {pm : PortfolioManager} (h : pm.Valued)
    (hrecorded : pm.Recorded) (hqueued : pm.Queued) (hequity : 0 ≤ pm.totalEquity.units.toInt) :
    checkAccounts pm.snapshotState = .ok () := by
  obtain ⟨current, largest, hcurrent, hlargest, -, -⟩ := h.drawdown
  have hfinite : pm.currentDrawdown.isFinite = true ∧ pm.maxDrawdown.isFinite = true := by
    rw [hcurrent, hlargest]
    exact ⟨rfl, rfl⟩
  have hmaxEquity := hequity.trans h.totalEquity_le
  have hnext := hqueued.nextOrderId_pos
  have hcash := h.cash_nonneg
  have hfees := hrecorded.fees_nonneg
  have htrades := hrecorded.tradeCount_nonneg
  have htrips := hrecorded.roundTripCount_nonneg
  rw [checkAccounts, failIf_eq_ok]
  simp only [PortfolioManager.snapshotState, hfinite, isFinite_toDouble, alignedMoney_toDouble,
    toDouble_lt_zero, Bool.or_eq_false_iff, decide_eq_false_iff_not, Bool.not_true, and_true,
    not_lt]
  exact ⟨⟨⟨⟨⟨⟨hcash, hequity⟩, hmaxEquity⟩, hfees⟩, decide_eq_false (not_lt.mpr htrades)⟩,
    decide_eq_false (not_lt.mpr htrips)⟩, decide_eq_false hnext.ne'⟩

/-- The snapshot of a priced position passes its check when its symbol is new. -/
theorem checkPosition_snapshot [ExactFormat] {symbols : Finset String} {symbol : String}
    {p : PositionState} (h : p.Sound) (hsymbol : symbol ≠ "")
    (hpriced : p.quantity.units.toInt ≤ 2 * 10 ^ 8 * p.costBasis.units.toInt)
    (hnew : symbol ∉ symbols) :
    checkPosition symbols (PortfolioManager.positionSnapshot symbol p) =
      .ok (insert symbol symbols) := by
  have haverage := (averagePrice_pos_iff h.averageEntryPrice_eq).mpr hpriced
  have hheld := h.quantity_pos
  have hcost : 0 < p.costBasis.units.toInt := by omega
  have hfee := h.entryFee_nonneg
  have hmark := h.lastMarkPrice_pos
  simp only [checkPosition, bind_eq_ok, failIf_eq_ok, pure_eq_ok, PortfolioManager.positionSnapshot]
  refine ⟨(), ?_, trivial⟩
  simp [toDouble_le_zero, toDouble_lt_zero, hsymbol, hnew, haverage, hheld, hcost, hfee, hmark]

/-- The loop over priced positions returns. -/
theorem foldlM_checkPosition [ExactFormat] {entries : List (Sigma fun _ : String => PositionState)}
    (hkeys : entries.NodupKeys) (hsound : ∀ e ∈ entries, e.2.Sound)
    (hsymbol : ∀ e ∈ entries, e.1 ≠ "")
    (hpriced : ∀ e ∈ entries, e.2.quantity.units.toInt ≤ 2 * 10 ^ 8 * e.2.costBasis.units.toInt)
    {symbols : Finset String} (hnew : ∀ e ∈ entries, e.1 ∉ symbols) :
    ∃ seen, (entries.map fun e => PortfolioManager.positionSnapshot e.1 e.2).foldlM checkPosition
      symbols = .ok seen := by
  induction entries generalizing symbols with
  | nil => exact ⟨symbols, rfl⟩
  | cons e entries ih =>
    rw [List.nodupKeys_cons] at hkeys
    rw [List.forall_mem_cons] at hsound hsymbol hpriced hnew
    have hstep := checkPosition_snapshot hsound.1 hsymbol.1 hpriced.1 hnew.1
    have hfresh : ∀ e' ∈ entries, e'.1 ∉ insert e.1 symbols := by
      intro e' he' hmem
      rcases Finset.mem_insert.mp hmem with heq | hold
      · exact hkeys.1 (heq ▸ List.mem_keys_of_mem he')
      · exact hnew.2 e' he' hold
    obtain ⟨seen, hseen⟩ := ih hkeys.2 hsound.2 hsymbol.2 hpriced.2 hfresh
    refine ⟨seen, ?_⟩
    rw [List.map_cons, List.foldlM_cons, bind_eq_ok]
    exact ⟨_, hstep, hseen⟩

/-- A sound resting order passes its check when its identifier is new. -/
theorem checkOrder_sound [ExactFormat] {order : OrderRecord} {seen : Finset ℕ × ℕ} (h : order.Sound)
    (hpos : 0 < order.orderId) (hnew : order.orderId ∉ seen.1) :
    checkOrder seen order = .ok (insert order.orderId seen.1, max seen.2 order.orderId) := by
  obtain ⟨hsymbol, ⟨limit, hlimit⟩, ⟨offset, hoffset⟩, ⟨best, hbest⟩, ⟨amount, hamount⟩,
    ⟨capital, hcapital⟩⟩ := h
  simp only [checkOrder, bind_eq_ok, failIf_eq_ok, pure_eq_ok, hlimit, hoffset, hbest, hamount,
    hcapital]
  refine ⟨(), ?_, trivial⟩
  simp [hsymbol, hnew, hpos.ne']

/-- The loop over sound resting orders returns their largest identifier. -/
theorem foldlM_checkOrder [ExactFormat] {orders : List OrderRecord} {bound : ℕ}
    {seen : Finset ℕ × ℕ} (hsound : ∀ order ∈ orders, order.Sound)
    (hpos : ∀ order ∈ orders, 0 < order.orderId)
    (hlt : ∀ order ∈ orders, order.orderId < bound)
    (hnodup : (orders.map OrderRecord.orderId).Nodup)
    (hnew : ∀ order ∈ orders, order.orderId ∉ seen.1) (hseen : seen.2 < bound) :
    ∃ seen', orders.foldlM checkOrder seen = .ok seen' ∧ seen'.2 < bound := by
  induction orders generalizing seen with
  | nil => exact ⟨seen, rfl, hseen⟩
  | cons order orders ih =>
    rw [List.map_cons, List.nodup_cons] at hnodup
    rw [List.forall_mem_cons] at hsound hpos hlt hnew
    have hstep := checkOrder_sound hsound.1 hpos.1 hnew.1
    have hfresh : ∀ o ∈ orders, o.orderId ∉ insert order.orderId seen.1 := by
      intro o ho hmem
      rcases Finset.mem_insert.mp hmem with heq | hold
      · exact hnodup.1 (heq ▸ List.mem_map_of_mem ho)
      · exact hnew.2 o ho hold
    obtain ⟨seen', hrest, hbound⟩ := @ih (insert order.orderId seen.1, max seen.2 order.orderId)
      hsound.2 hpos.2 hlt.2 hnodup.2 hfresh (max_lt hseen hlt.1)
    refine ⟨seen', ?_, hbound⟩
    rw [List.foldlM_cons, bind_eq_ok]
    exact ⟨_, hstep, hrest⟩

end Checks

end StateSerializer

namespace PortfolioManager

section Runs

variable [FloatFormat]

/-- A call of the portfolio or of its queue of resting orders. -/
inductive Input where
  | account (c : PortfolioCall)
  | placePendingOrder (order : OrderRecord)
  | cancelPendingOrder (orderId : ℕ)
  | evaluatePendingOrders (symbol : String) (high low close : Double) (timestamp : ℕ)

/-- What a call hands back: an exception of an accounting call, or the result of the queue. -/
inductive Output where
  | accounted (exception : Option StdException)
  | placed (orderId : ℕ)
  | cancelled (found : Bool)
  | filled (fills : List OrderFillResult)

/-- The portfolio under accounting calls and calls of its queue. -/
def trading : Machine PortfolioManager Input Output where
  step pm
    | .account c => match pm.call c with
      | .ok pm' => (pm', .accounted none)
      | .error e => (pm, .accounted (some e))
    | .placePendingOrder order =>
      let (pm', orderId) := pm.placePendingOrder order
      (pm', .placed orderId)
    | .cancelPendingOrder orderId =>
      let (pm', found) := pm.cancelPendingOrder orderId
      (pm', .cancelled found)
    | .evaluatePendingOrders symbol high low close timestamp =>
      let (pm', fills) := pm.evaluatePendingOrders symbol high low close timestamp
      (pm', .filled fills)

/-- What every call keeps. -/
structure Consistent (pm : PortfolioManager) : Prop where
  valued : pm.Valued
  recorded : pm.Recorded
  queued : pm.Queued

/-- A fresh portfolio is consistent. -/
theorem consistent_fresh : (fresh).Consistent :=
  ⟨valued_fresh (by decide), recorded_fresh _, queued_fresh _⟩

/-- The queue does not touch the accounts. -/
theorem Consistent.of_queue {pm pm' : PortfolioManager} (h : pm.Consistent)
    (haccounts : pm' = { pm with
      pendingOrders := pm'.pendingOrders
      nextOrderId := pm'.nextOrderId }) (hqueued : pm'.Queued) : pm'.Consistent := by
  refine ⟨?_, ?_, hqueued⟩
  · obtain ⟨hcash, hsound, hmarked, hequity, hprofit, hle, hdrawdown⟩ := h.valued
    rw [haccounts]
    exact ⟨hcash, hsound, hmarked, hequity, hprofit, hle, hdrawdown⟩
  · obtain ⟨hfees, htrades, htrips, hsymbols, hcurrent, hlog⟩ := h.recorded
    rw [haccounts]
    exact ⟨hfees, htrades, htrips, hsymbols, hcurrent, hlog⟩

/-- Every call keeps the portfolio consistent. -/
theorem Consistent.step {pm : PortfolioManager} (h : pm.Consistent) (i : Input) :
    (trading.next pm i).Consistent := by
  unfold Machine.next
  cases i with
  | account c =>
    simp only [trading]
    split
    · next pm' hcall =>
      rcases call_advances h.valued c hcall with hadvance | rfl
      · exact ⟨(h.valued.call c hcall).1, h.recorded.advance hadvance,
          h.queued.congr hadvance.pendingOrders_eq hadvance.nextOrderId_eq⟩
      · exact h
    · exact h
  | placePendingOrder order =>
    refine h.of_queue ?_ (h.queued.place order)
    simp only [trading, placePendingOrder]
    split
    · rfl
    · split <;> rfl
  | cancelPendingOrder orderId =>
    refine h.of_queue ?_ (h.queued.cancel orderId)
    simp only [trading, cancelPendingOrder]
    split <;> rfl
  | evaluatePendingOrders symbol high low close timestamp =>
    exact h.of_queue rfl (h.queued.evaluate symbol high low close timestamp)

/-- Two portfolios are equal in every field; their positions may be listed in another order. -/
def Same (pm pm' : PortfolioManager) : Prop :=
  { pm with positions := pm'.positions } = pm' ∧
    ∀ symbol, pm.positions.lookup symbol = pm'.positions.lookup symbol

/-- A portfolio whose snapshot passes `validate`, with any risk state that passes its part,
and is restored to a portfolio that is equal in every field. -/
structure Checkpointable (pm : PortfolioManager) : Prop where
  validated : ∀ r, StateSerializer.validateRisk r = .ok () →
    StateSerializer.validate pm.snapshotState r = .ok ()
  restored : ∃ pm', restoreState pm.snapshotState = .ok pm' ∧ pm'.Same pm

/-- The portfolio part of `validate` accepts the snapshots of restorable portfolios. -/
theorem Consistent.validatePortfolio_eq_ok [ExactFormat] {pm : PortfolioManager}
    (h : pm.Consistent) :
    StateSerializer.validatePortfolio pm.snapshotState = .ok () ↔ pm.Restorable := by
  obtain ⟨hvalued, hrecorded, hqueued⟩ := h
  have htrades : pm.snapshotState.tradeLog.forM StateSerializer.checkTrade = .ok () ↔
      ∀ record ∈ pm.tradeLog, 0 < record.entryPrice := by
    rw [forM_eq_ok]
    exact forall₂_congr fun record hrecord =>
      StateSerializer.checkTrade_eq_ok (hrecorded.tradeLog record hrecord)
  have hrestoration : StateSerializer.checkRestoration pm.snapshotState = .ok () ↔
      ∃ pm', restoreState pm.snapshotState = .ok pm' := by
    unfold StateSerializer.checkRestoration
    cases restoreState pm.snapshotState with
    | error e => simp
    | ok pm' => simp
  simp only [restoreState_snapshotState hvalued hrecorded (survives_of_exact pm)] at hrestoration
  unfold StateSerializer.validatePortfolio
  simp only [bind_eq_ok, StateSerializer.failIf_eq_ok, htrades, hrestoration]
  constructor
  · rintro ⟨-, -, -, -, -, -, -, -, -, hlog, -, ⟨hpriced, hprofits⟩, -⟩
    exact ⟨hpriced, hlog, hprofits⟩
  · rintro ⟨hpriced, hlog, hprofits⟩
    have hkeys : (KeyedMap.sortedEntries pm.positions).NodupKeys :=
      (List.perm_nodupKeys (KeyedMap.sortedEntries_perm _)).mpr pm.positions.nodupKeys
    obtain ⟨symbols, hpositions⟩ := StateSerializer.foldlM_checkPosition hkeys
      (fun e he => hvalued.sound e.1 e.2 (mem_sortedEntries.mp he))
      (fun e he => hrecorded.symbol_ne e.1 (by
        rw [← AList.lookup_isSome, mem_sortedEntries.mp he]
        rfl))
      (fun e he => hpriced e.1 e.2 (mem_sortedEntries.mp he)) (fun _ _ => Finset.notMem_empty _)
    obtain ⟨seen, horders, hmax⟩ := @StateSerializer.foldlM_checkOrder _ _ _ _ (∅, 0)
      hqueued.sound hqueued.orderId_pos hqueued.orderId_lt hqueued.nodup
      (fun _ _ => Finset.notMem_empty _) hqueued.nextOrderId_pos
    have haccounts := StateSerializer.checkAccounts_snapshotState hvalued hrecorded hqueued
      hvalued.totalEquity_nonneg
    rw [snapshotState_positions]
    exact ⟨(), haccounts, symbols, hpositions, seen, horders, (),
      decide_eq_false (not_le.mpr hmax), (), hlog, _, ⟨hpriced, hprofits⟩, rfl⟩

/-- **Checkpoints**, with exact conversions. A portfolio that calls have made from a fresh one is
validated and restored in every field exactly when each open position has a positive average
price, each closed one had, and the profits of the positions can be added up in the restored
order. -/
theorem checkpointable_iff [ExactFormat] (inputs : List Input) :
    (trading.run fresh inputs).Checkpointable ↔ (trading.run fresh inputs).Restorable := by
  have h : (trading.run fresh inputs).Consistent :=
    Machine.invariant_run (I := Consistent) (fun pm i hpm => hpm.step i) consistent_fresh inputs
  generalize trading.run fresh inputs = pm at h
  rw [← h.validatePortfolio_eq_ok]
  constructor
  · rintro ⟨hvalidated, -⟩
    have hrisk : StateSerializer.validateRisk (RiskMonitor.create).snapshotState = .ok () := rfl
    have hok := hvalidated _ hrisk
    simp only [StateSerializer.validate, bind_eq_ok] at hok
    obtain ⟨_, hportfolio, -⟩ := hok
    exact hportfolio
  · intro hportfolio
    obtain ⟨hpriced, -, hprofits⟩ := h.validatePortfolio_eq_ok.mp hportfolio
    refine ⟨fun r hr => ?_, ?_⟩
    · simp only [StateSerializer.validate, bind_eq_ok]
      exact ⟨(), hportfolio, hr⟩
    · exact ⟨_, (restoreState_snapshotState h.valued h.recorded
        (survives_of_exact pm)).mpr
        ⟨⟨hpriced, hprofits⟩, rfl⟩, rfl, fun symbol => lookup_restoredPositions _ symbol⟩

end Runs

/-- A purchase, a resting order and a partial close that leaves a priced position. -/
def pricedCalls : List Input := [
  .account (.openLong "BTC" (.finite 10) 1 (.finite 1) (.finite 21) (.finite 2) "trend"),
  .placePendingOrder { symbol := "BTC", limitPrice := .finite 9, quantity := .finite 1 },
  .account (.closePosition "BTC" (.finite 12) 2 (.finite 1) "trend" (.finite 1))]

/-- A purchase, a resting order and a sale of half of the position leave a portfolio that can be
checkpointed. -/
theorem checkpointable_iff_pricedCalls :
    @Checkpointable .exact ((@trading .exact).run fresh pricedCalls) := by
  apply (@checkpointable_iff .exact _ pricedCalls).mpr
  set pm := (@trading .exact).run fresh pricedCalls with hpm
  have hpriced : ∀ e ∈ pm.positions.entries,
      e.2.quantity.units.toInt ≤ 2 * 10 ^ 8 * e.2.costBasis.units.toInt := by
    rw [hpm]
    decide +kernel
  have hprofit : ∀ p ∈ (restoredPositions pm.positions).entries.map Sigma.snd, 0 ≤ p.profit := by
    rw [hpm]
    decide +kernel
  refine ⟨fun symbol p hp => hpriced ⟨symbol, p⟩ (AList.mem_lookup_iff.mp hp), ?_, fun n => ?_⟩
  · rw [hpm]
    decide +kernel
  · apply (show (-2 ^ 63 : ℤ) ≤ 0 by norm_num).trans
    apply List.sum_nonneg
    intro z hz
    obtain ⟨p, hp, rfl⟩ := List.mem_map.mp hz
    exact hprofit p (List.mem_of_mem_take hp)

/-- A unit of cost is bought and sixty per cent of the quantity closed: the whole unit leaves
with the closed part. -/
def roundedCostCalls : List Input := [
  .account (.openLong "BTC" (.finite (1 / 10 ^ 8)) 0 0 0 (.finite 1) "SMA_01"),
  .account (.closePosition "BTC" (.finite (1 / 10 ^ 8)) 0 0 "SMA_01" (.finite (6 / 10)))]

/-- A reachable portfolio whose snapshot is not accepted. -/
theorem not_checkpointable_roundedCost :
    ¬∀ inputs, @Checkpointable .exact ((@trading .exact).run fresh inputs) := by
  intro h
  have hvalidated := @Checkpointable.validated .exact _ (h roundedCostCalls)
    (RiskMonitor.create).snapshotState rfl
  revert hvalidated
  decide +kernel

end PortfolioManager

end TradeBot
