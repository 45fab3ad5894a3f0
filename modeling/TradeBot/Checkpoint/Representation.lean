import TradeBot.Checkpoint.Components
import TradeBot.Checkpoint.RoundTrip

/-!
# Snapshots of components

A component holds values of its C++ types: doubles of 64 bits, words, bytes. With what its
calls keep and what validation accepts, its snapshot then has values that the section
writers and readers agree on.
-/

namespace TradeBot

open Library Financial StateSerializer

namespace PortfolioManager

/-- The members of a portfolio have values of their types. -/
structure Representable (pm : PortfolioManager) : Prop where
  currentDrawdown : pm.currentDrawdown.IsBinary64
  maxDrawdown : pm.maxDrawdown.IsBinary64
  tradeCount : Int32Value pm.tradeCount
  roundTripCount : Int32Value pm.roundTripCount
  positions_length : pm.positions.entries.length < 2 ^ 64
  positions : ∀ e ∈ pm.positions.entries,
    Text e.1 ∧ Word64 e.2.entryTimestamp ∧ Text e.2.strategyId
  tradeLog_length : pm.tradeLog.length < 2 ^ 64
  tradeLog : ∀ t ∈ pm.tradeLog,
    Text t.symbol ∧ Word64 t.openTimestamp ∧ Word64 t.closeTimestamp ∧ Text t.strategyId
  pendingOrders_length : pm.pendingOrders.length < 2 ^ 64
  pendingOrders : ∀ o ∈ pm.pendingOrders,
    Text o.symbol ∧ Word64 o.placedTimestamp ∧ Word64 o.orderId
  nextOrderId : Word64 pm.nextOrderId

/-- The positions of a snapshot are those of the portfolio. -/
theorem mem_snapshotState_positions {pm : PortfolioManager} {p : PositionSnapshot} :
    p ∈ pm.snapshotState.positions ↔
      ∃ e ∈ pm.positions.entries, positionSnapshot e.1 e.2 = p := by
  rw [snapshotState_positions, List.mem_map]
  exact exists_congr fun e => and_congr_left' (KeyedMap.sortedEntries_perm _).mem_iff

/-- There are as many of them. -/
theorem length_snapshotState_positions (pm : PortfolioManager) :
    pm.snapshotState.positions.length = pm.positions.entries.length := by
  rw [snapshotState_positions, List.length_map, (KeyedMap.sortedEntries_perm _).length_eq]

/-- The snapshot of a portfolio with accepted drawdowns. -/
theorem Representable.typed {pm : PortfolioManager} (hrep : pm.Representable)
    (hcurrent : pm.currentDrawdown.isFinite = true) (hmax : pm.maxDrawdown.isFinite = true) :
    PortfolioTyped pm.snapshotState where
  currentDrawdown := ⟨hrep.currentDrawdown, hcurrent⟩
  maxDrawdown := ⟨hrep.maxDrawdown, hmax⟩
  tradeCount := hrep.tradeCount
  roundTripCount := hrep.roundTripCount
  positions_length := by
    rw [length_snapshotState_positions]
    exact hrep.positions_length
  positions := by
    intro p hp
    obtain ⟨e, he, rfl⟩ := mem_snapshotState_positions.mp hp
    obtain ⟨hsymbol, hentry, hstrategy⟩ := hrep.positions e he
    exact ⟨hsymbol, hentry, hstrategy⟩
  tradeLog_length := hrep.tradeLog_length
  tradeLog := by
    intro t ht
    obtain ⟨hsymbol, hopen, hclose, hstrategy⟩ := hrep.tradeLog t ht
    exact ⟨hsymbol, hopen, hclose, hstrategy⟩
  pendingOrders_length := hrep.pendingOrders_length
  pendingOrders := by
    intro o ho
    obtain ⟨hsymbol, hplaced, horder⟩ := hrep.pendingOrders o ho
    exact ⟨hsymbol, hplaced, horder⟩
  nextOrderId := hrep.nextOrderId

/-- A portfolio whose amounts come back from what its snapshot is read back as: the accounts and
positions from their doubles, and the doubles of the records and orders from their units. -/
structure Steady (pm : PortfolioManager) : Prop where
  survives : pm.Survives
  tradeLog : ∀ record ∈ pm.tradeLog, TradeSteady record
  pendingOrders : ∀ order ∈ pm.pendingOrders, OrderSteady order

/-- The snapshot of a steady portfolio is read back as it was. -/
theorem Steady.snapshotState {pm : PortfolioManager} (h : pm.Steady) :
    PortfolioSteady pm.snapshotState where
  cash := h.survives.cash.steady
  unrealizedPnL := h.survives.unrealizedPnL.steady
  totalEquity := h.survives.totalEquity.steady
  maxEquity := h.survives.maxEquity.steady
  totalFeesPaid := h.survives.totalFeesPaid.steady
  positions := by
    intro p hp
    obtain ⟨e, he, rfl⟩ := mem_snapshotState_positions.mp hp
    obtain ⟨hquantity, haverage, hcost, hmark, hfee⟩ :=
      h.survives.positions e.1 e.2 (AList.mem_lookup_iff.mpr he)
    exact ⟨hquantity.steady, haverage.steady, hfee.steady, hcost.steady, hmark.steady⟩
  tradeLog := h.tradeLog
  pendingOrders := h.pendingOrders

/-- A position whose amounts are read of what its snapshot is read back as survives. -/
theorem survives_of_reads {symbol : String} {p : PositionState}
    (h : (rewrittenPosition (positionSnapshot symbol p)).Reads p) : p.Survives where
  quantity := survives_of_rewritten h.quantity
  averageEntryPrice := survives_of_rewritten h.averageEntryPrice
  costBasis := survives_of_rewritten h.costBasis
  lastMarkPrice := survives_of_rewritten h.lastMarkPrice
  entryFee := survives_of_rewritten h.entryFee

/-- A portfolio that is restored from what its snapshot is read back as is steady. -/
theorem steady_of_restoreState {pm pm' : PortfolioManager}
    (hok : restoreState (rewrittenPortfolio pm.snapshotState) = .ok pm') (hsame : pm'.Same pm) :
    pm.Steady := by
  simp only [restoreState, bind_eq_ok, requireNonnegative_eq_ok, requirePresent_eq_ok,
    throwIf_eq_ok, pure_eq_ok] at hok
  obtain ⟨cash, ⟨hcash, -⟩, profit, hprofit, equity, ⟨hequity, -⟩, maxEquity, ⟨hmaxEquity, -⟩,
    fees, ⟨hfees, -⟩, positions, hpositions, -, -, -, -, rfl⟩ := hok
  obtain ⟨hfields, hlookup⟩ := hsame
  have hfound := (lookup_of_foldlM_restorePosition hpositions).2
  have htrades := congrArg tradeLog hfields
  have horders := congrArg pendingOrders hfields
  refine ⟨⟨?_, ?_, ?_, ?_, ?_, fun symbol p hp => ?_⟩, fun record hrecord => ?_,
    fun order horder => ?_⟩
  · rw [show cash = pm.cash from congrArg PortfolioManager.cash hfields] at hcash
    exact survives_of_rewritten hcash
  · rw [show profit = pm.unrealizedPnL from congrArg PortfolioManager.unrealizedPnL hfields]
      at hprofit
    exact survives_of_rewritten hprofit
  · rw [show equity = pm.totalEquity from congrArg PortfolioManager.totalEquity hfields]
      at hequity
    exact survives_of_rewritten hequity
  · rw [show maxEquity = pm.maxEquity from congrArg PortfolioManager.maxEquity hfields]
      at hmaxEquity
    exact survives_of_rewritten hmaxEquity
  · rw [show fees = pm.totalFeesPaid from congrArg PortfolioManager.totalFeesPaid hfields] at hfees
    exact survives_of_rewritten hfees
  · have hmem : rewrittenPosition (positionSnapshot symbol p) ∈
        (rewrittenPortfolio pm.snapshotState).positions :=
      List.mem_map_of_mem (mem_snapshotState_positions.mpr
        ⟨⟨symbol, p⟩, AList.mem_lookup_iff.mp hp, rfl⟩)
    obtain ⟨q, hreads, hq⟩ := hfound _ hmem
    have hsame : q = p := Option.some.inj (hq.symm.trans ((hlookup symbol).trans hp))
    rw [hsame] at hreads
    exact survives_of_reads hreads
  · exact rewrittenTrade_eq_iff.mp (map_eq_self_iff.mp htrades record hrecord)
  · exact rewrittenOrder_eq_iff.mp (map_eq_self_iff.mp horders order horder)

/-- What the snapshot of a held portfolio restores is the portfolio. -/
theorem Held.same_of_restoreState {pm pm' : PortfolioManager} (h : pm.Held)
    (hsurvives : pm.Survives) (hok : restoreState pm.snapshotState = .ok pm') : pm'.Same pm := by
  obtain ⟨exact, hexact, currentDrawdown, maxDrawdown, rfl⟩ := h.consistent
  have hexactSurvives : exact.Survives := { hsurvives with }
  simp only [restoreState, bind_eq_ok, requireNonnegative_eq_ok, throwIf_eq_ok,
    pure_eq_ok] at hok
  obtain ⟨_, ⟨hcash, -⟩, _, hunrealized, _, ⟨hequity, -⟩, _, ⟨hmaxEquity, -⟩, _, ⟨hfees, -⟩, _,
    hpositions, -, -, -, -, rfl⟩ := hok
  obtain ⟨-, rfl⟩ := (foldlM_restorePosition_snapshot hexact.valued hexact.recorded
    hexactSurvives).mp hpositions
  simp only [snapshotState, hsurvives.cash.money_eq, hsurvives.unrealizedPnL.money_eq,
    hsurvives.totalEquity.money_eq, hsurvives.maxEquity.money_eq,
    hsurvives.totalFeesPaid.money_eq, requirePresent, Option.some.injEq,
    Except.ok.injEq] at hcash hunrealized hequity hmaxEquity hfees
  subst hcash hunrealized hequity hmaxEquity hfees
  exact ⟨rfl, fun symbol => lookup_restoredPositions _ symbol⟩

end PortfolioManager

/-- The numbers of a list are doubles of 64 bits. -/
def Binary64s (values : List Double) : Prop :=
  values.length < 2 ^ 64 ∧ ∀ value ∈ values, value.IsBinary64

/-- Finite binary64 values are numbers that can be written. -/
theorem Binary64s.numbers {values : List Double} (h : Binary64s values)
    (hfinite : finiteRange values = true) : Numbers values where
  length_lt := h.1
  number := fun value hvalue => ⟨h.2 value hvalue, List.all_eq_true.mp hfinite value hvalue⟩

namespace RiskMonitor

/-- The members of a risk engine have values of their types. -/
structure Representable (r : RiskMonitor) : Prop where
  maxConcurrentPositions : Word64 r.maxConcurrentPositions
  varLimitFraction : r.varLimitFraction.IsBinary64
  varWindow : Word64 r.varWindow
  totalDrawdown : r.totalDrawdown.IsBinary64
  dailyDrawdown : r.dailyDrawdown.IsBinary64
  prevEquity : r.prevEquity.IsBinary64
  returnWindow : Binary64s r.returnWindow
  currentVaR95 : r.currentVaR95.IsBinary64
  returnStdDev : r.returnStdDev.IsBinary64
  assetStates_length : r.assetStates.entries.length < 2 ^ 64
  assetStates : ∀ e ∈ r.assetStates.entries, Text e.1 ∧ Binary64s e.2.returnWindow ∧
    e.2.prevPrice.IsBinary64 ∧ e.2.positionValue.IsBinary64
  covMatrix : Binary64s r.covMatrix
  assetOrder_length : r.assetOrder.length < 2 ^ 64
  assetOrder : ∀ symbol ∈ r.assetOrder, Text symbol
  lastLatencyMs : r.lastLatencyMs < 2 ^ 32
  syncedPositions_length : r.syncedPositions.entries.length < 2 ^ 64
  syncedPositions : ∀ e ∈ r.syncedPositions.entries, Text e.1 ∧ e.2.IsBinary64
  effectiveMaxPositions : Word64 r.effectiveMaxPositions
  effectiveVarLimit : r.effectiveVarLimit.IsBinary64

/-- The snapshot of a reached risk engine that is accepted. -/
theorem Reached.typed {r : RiskMonitor} (h : r.Reached) (hrep : r.Representable)
    (hvalid : validateRisk r.snapshotState = .ok ()) : RiskTyped r.snapshotState := by
  simp only [validateRisk, bind_eq_ok, failIf_eq_ok, forM_eq_ok, checkAsset,
    Bool.or_eq_false_iff, Bool.not_eq_false', decide_eq_false_iff_not] at hvalid
  obtain ⟨_, ⟨⟨⟨⟨⟨⟨⟨⟨hlimit, htotal⟩, hdaily⟩, hprev⟩, hwindow⟩, hvar⟩, hdev⟩, hcov⟩, heffective⟩,
    _, hassets, _, hsynced, -⟩ := hvalid
  exact {
    configuredMaxPositions := hrep.maxConcurrentPositions
    configuredVarLimit := ⟨hrep.varLimitFraction, hlimit⟩
    configuredVarWindow := hrep.varWindow
    totalDrawdown := ⟨hrep.totalDrawdown, htotal⟩
    dailyDrawdown := ⟨hrep.dailyDrawdown, hdaily⟩
    prevEquity := ⟨hrep.prevEquity, hprev⟩
    returnWindow := hrep.returnWindow.numbers hwindow
    currentVaR95 := ⟨hrep.currentVaR95, hvar⟩
    returnStdDev := ⟨hrep.returnStdDev, hdev⟩
    assetStates_length := hrep.assetStates_length
    assetStates := by
      intro e he
      obtain ⟨htext, hreturns, hprice, hvalue⟩ := hrep.assetStates e he
      obtain ⟨⟨⟨hne, hfinite⟩, hprice'⟩, hvalue'⟩ := hassets e he
      exact ⟨htext, hne, h.named e.1 e.2 (AList.mem_lookup_iff.mpr he),
        hreturns.numbers hfinite, ⟨hprice, hprice'⟩, ⟨hvalue, hvalue'⟩⟩
    covarianceMatrix := hrep.covMatrix.numbers hcov
    assetOrder_length := hrep.assetOrder_length
    assetOrder := hrep.assetOrder
    lastLatencyMs := hrep.lastLatencyMs
    syncedPositions_length := hrep.syncedPositions_length
    syncedPositions := by
      intro e he
      obtain ⟨htext, hquantity⟩ := hrep.syncedPositions e he
      obtain ⟨hne, hfinite⟩ := hsynced e he
      exact ⟨htext, hne, ⟨hquantity, hfinite⟩⟩
    effectiveMaxPositions := hrep.effectiveMaxPositions
    effectiveVarLimit := ⟨hrep.effectiveVarLimit, heffective⟩ }

end RiskMonitor

namespace RegimeDetector

/-- The members of the state of a regime detector have values of their types. -/
structure Representable (d : RegimeDetector) : Prop where
  smoothTR : d.state.smoothTR.IsBinary64
  smoothDMPlus : d.state.smoothDMPlus.IsBinary64
  smoothDMMinus : d.state.smoothDMMinus.IsBinary64
  adx : d.state.adx.IsBinary64
  adxObservations : Int32Value d.state.adxObservations
  returnWindow : Binary64s d.state.returnWindow
  prevClose : d.state.prevClose.IsBinary64
  variance : d.state.variance.IsBinary64
  prevHigh : d.state.prevHigh.IsBinary64
  prevLow : d.state.prevLow.IsBinary64

end RegimeDetector

namespace PortfolioAllocator

/-- The performance of all strategies has values of its types. -/
structure Representable (a : PortfolioAllocator) : Prop where
  phiStates_length : a.phiStates.entries.length < 2 ^ 64
  phiStates : ∀ e ∈ a.phiStates.entries,
    Text e.1 ∧ Binary64s e.2.pnlWindow ∧ e.2.phi.IsBinary64

end PortfolioAllocator

/-- The state of a regime detector and the performance of the strategies that are accepted. -/
theorem typed_of_validateExtended {d : RegimeDetector} {a : PortfolioAllocator}
    (hregime : d.Representable) (hphi : a.Representable) (hnamed : a.Named)
    (hvalid : validateExtended d.state a.phiStates = .ok ()) :
    RegimeTyped d.state ∧ PhiTyped a.phiStates := by
  simp only [validateExtended, bind_eq_ok, failIf_eq_ok, forM_eq_ok, Bool.or_eq_false_iff,
    Bool.not_eq_false', decide_eq_false_iff_not] at hvalid
  obtain ⟨_, ⟨⟨⟨⟨⟨⟨⟨⟨hTR, hplus⟩, hminus⟩, hadx⟩, hclose⟩, hvariance⟩, hhigh⟩, hlow⟩, hwindow⟩,
    hstates⟩ := hvalid
  constructor
  · exact {
      smoothTR := ⟨hregime.smoothTR, hTR⟩
      smoothDMPlus := ⟨hregime.smoothDMPlus, hplus⟩
      smoothDMMinus := ⟨hregime.smoothDMMinus, hminus⟩
      adx := ⟨hregime.adx, hadx⟩
      adxObservations := hregime.adxObservations
      returnWindow := hregime.returnWindow.numbers hwindow
      prevClose := ⟨hregime.prevClose, hclose⟩
      variance := ⟨hregime.variance, hvariance⟩
      prevHigh := ⟨hregime.prevHigh, hhigh⟩
      prevLow := ⟨hregime.prevLow, hlow⟩ }
  · refine ⟨hphi.phiStates_length, fun e he => ?_⟩
    obtain ⟨htext, hwindow, hscore⟩ := hphi.phiStates e he
    obtain ⟨⟨hne, hscore'⟩, hwindow'⟩ := hstates e he
    exact ⟨htext, hne, hnamed e.1 e.2 (AList.mem_lookup_iff.mpr he), hwindow.numbers hwindow',
      ⟨hscore, hscore'⟩⟩

end TradeBot
