import TradeBot.Backtest.Candles

/-!
# Checkpoints of backtests that agree

Whether a checkpoint of a backtest is written depends on the shared objects alone. Backtests
that agree write the same ones, and a checkpoint that is loaded into fresh objects leaves
objects that agree with those it was taken from.
-/

namespace TradeBot

open Library Financial StateSerializer

/-- No double is less than itself. -/
theorem Double.lt_irrefl (a : Double) : ¬a < a := by
  cases a with
  | finite a => simp
  | infinite negative => cases negative <;> decide
  | nan => decide

/-- Portfolios that are the same have one snapshot. -/
theorem PortfolioManager.Same.snapshotState {pm pm' : PortfolioManager} (h : pm'.Same pm) :
    pm'.snapshotState = pm.snapshotState := by
  have hpositions : pm'.snapshotState.positions = pm.snapshotState.positions := by
    rw [snapshotState_positions, snapshotState_positions,
      KeyedMap.sortedEntries_eq_of_lookup h.2]
  have hrest : pm'.snapshotState = { pm.snapshotState with
      positions := pm'.snapshotState.positions } := by
    conv_lhs => rw [h.eq]
    rw [h.eq]
    rfl
  rw [hrest, hpositions]

/-- Risk engines that agree have the same sorted snapshot. -/
theorem RiskMonitor.Alike.sortedRisk {r r' : RiskMonitor} (h : r'.Alike r) :
    sortedRisk r'.snapshotState = sortedRisk r.snapshotState := by
  have hassets := KeyedMap.sortedEntries_eq_of_lookup h.assetStates
  have hsynced := KeyedMap.sortedEntries_eq_of_lookup h.syncedPositions
  rw [h.eq]
  unfold StateSerializer.sortedRisk RiskMonitor.snapshotState
  dsimp only
  rw [hassets, hsynced]

/-- What a snapshot restores agrees with the risk engine it was taken from, when that one counts
no errors. -/
theorem RiskMonitor.alike_restoreState {r t : RiskMonitor} (h : r.Configured t)
    (herrors : r.errorTimestamps = []) :
    (t.restoreState (StateSerializer.sortedRisk r.snapshotState)).Alike r where
  eq := by
    obtain ⟨hmax, hlimit, hwindow, hconfig⟩ := h
    rcases t with ⟨⟨⟩⟩
    rcases r with ⟨⟨⟩⟩
    dsimp only at hmax hlimit hwindow hconfig herrors
    subst hmax hlimit hwindow hconfig herrors
    rfl
  syncedPositions := KeyedMap.lookup_insertAll (KeyedMap.sortedEntries_perm _)
  assetStates := KeyedMap.lookup_insertAll (KeyedMap.sortedEntries_perm _)

namespace Components

variable {t c c' : Components}

/-- The components pass the checks that a checkpoint is written under. -/
def Valid (c : Components) : Prop :=
  validate c.portfolio.snapshotState c.risk.snapshotState = .ok () ∧
    validateAttached (extendedOf c.attached) = .ok ()

instance (c : Components) : Decidable c.Valid :=
  inferInstanceAs (Decidable (_ ∧ _))

/-- Components that agree are valid together. -/
theorem Alike.valid_iff (h : c'.Alike c) : c'.Valid ↔ c.Valid := by
  have hrisk : validateRisk c'.risk.snapshotState = .ok () ↔
      validateRisk c.risk.snapshotState = .ok () := by
    rw [← validateRisk_sortedRisk, h.risk.sortedRisk, validateRisk_sortedRisk]
  have hphi : validateExtended c'.regime.state c'.allocator.phiStates = .ok () ↔
      validateExtended c.regime.state c.allocator.phiStates = .ok () := by
    rw [← validateExtended_sorted, h.regime,
      KeyedMap.sortedEntries_eq_of_lookup h.allocator.phiStates, validateExtended_sorted]
  unfold Valid
  refine and_congr ?_ hphi
  simp only [validate, bind_eq_ok, h.portfolio.snapshotState, hrisk]

/-- No errors are counted in a backtest, so that the checks alone decide. -/
theorem saveValues_eq_ok (herrors : c.risk.errorTimestamps = []) {checkpointTs now : ℕ}
    {checkpoint : Checkpoint} :
    c.saveValues checkpointTs now = .ok checkpoint ↔ c.Valid ∧
      checkpoint = ⟨stateOf c.portfolio c.risk c.attached checkpointTs,
        extendedOf c.attached⟩ := by
  have hrate : c.risk.currentErrorRate now = 0 := by
    unfold RiskMonitor.currentErrorRate
    rw [herrors]
    rfl
  simp only [saveValues, StateSerializer.saveValues, Valid, bind_eq_ok, failIf_eq_ok,
    decide_eq_false_iff_not, not_not, pure_eq_ok]
  constructor
  · rintro ⟨_, -, _, hvalid, _, hattached, rfl⟩
    exact ⟨⟨hvalid, hattached⟩, rfl⟩
  · rintro ⟨⟨hvalid, hattached⟩, rfl⟩
    exact ⟨(), hrate, (), hvalid, (), hattached, rfl⟩

/-- **Restoration in a backtest.** A checkpoint within the limits of the readers, of a portfolio
whose amounts come back from their doubles, is loaded into objects as they were constructed, and
leaves objects that agree with the saved ones. -/
theorem Kept.reload (h : Kept t c) {checkpointTs now : ℕ} {checkpoint : Checkpoint}
    (hsave : c.saveValues checkpointTs now = .ok checkpoint) (hreadable : checkpoint.Readable)
    (hsteady : c.portfolio.Steady) :
    ∃ loaded regime allocator, StateSerializer.reload t.risk t.attached checkpoint = some loaded ∧
      loaded.checkpointTs = checkpointTs ∧ loaded.attached = some (regime, allocator) ∧
      Alike ⟨loaded.portfolio, loaded.risk, regime, allocator⟩ c := by
  have hvalid := ((saveValues_eq_ok h.errorTimestamps).mp hsave).1.1
  simp only [validate, bind_eq_ok] at hvalid
  obtain ⟨_, hportfolio, hrisk⟩ := hvalid
  obtain ⟨-, -, portfolio, hrestored⟩ := validatePortfolio_facts hportfolio
  have hlimits := (RiskMonitor.canRestoreSnapshot_eq_ok h.configured.risk
    (validateRisk_varLimit hrisk)).mpr ⟨le_of_eq h.effectiveMaxPositions, by
      rw [h.effectiveVarLimit]
      exact Double.lt_irrefl _⟩
  obtain ⟨-, rfl⟩ := (PortfolioManager.restoreState_snapshotState h.consistent.valued
    h.consistent.recorded hsteady.survives).mp hrestored
  have hread := rewrittenPortfolio_eq hsteady.snapshotState
  have hreload := (@reload_eq_some c.portfolio c.risk c.regime c.allocator t checkpoint
    checkpointTs now hsave ⟨_, _, _, _⟩).mpr ⟨hreadable, hlimits, hread.symm ▸ hportfolio,
      hread.symm ▸ hrestored, rfl⟩
  refine ⟨_, _, _, hreload, rfl, rfl, ?_⟩
  constructor
  case portfolio => exact ⟨rfl, PortfolioManager.lookup_restoredPositions _⟩
  case risk => exact RiskMonitor.alike_restoreState h.configured.risk h.errorTimestamps
  case regime => exact RegimeDetector.restoreState_eq h.configured.regime h.copied
  case allocator =>
    exact (PortfolioAllocator.same_restorePhiStates h.configured.allocator).mpr
      ⟨h.cachedDynamicWeights, h.recomputeCount⟩

end Components

end TradeBot
