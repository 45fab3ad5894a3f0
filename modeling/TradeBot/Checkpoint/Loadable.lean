import TradeBot.Checkpoint.Loading

/-!
# Saved files that can be loaded

A file that was saved is loaded into equally configured objects, and leaves them in the
saved state, exactly when the state is within the limits that only the reading side
enforces.
-/

namespace TradeBot

open Library StateSerializer

namespace RiskMonitor

/-- Two risk engines are equal in every field and count as many recent errors; their maps
may list their entries in another order. -/
structure Same (now : ℕ) (r r' : RiskMonitor) : Prop where
  fields : { r with
    errorTimestamps := r'.errorTimestamps
    syncedPositions := r'.syncedPositions
    assetStates := r'.assetStates } = r'
  syncedPositions : ∀ symbol, r.syncedPositions.lookup symbol = r'.syncedPositions.lookup symbol
  assetStates : ∀ symbol, r.assetStates.lookup symbol = r'.assetStates.lookup symbol
  errorRate : r.currentErrorRate now = r'.currentErrorRate now

/-- A risk engine with the configuration of another one. -/
structure Configured (r t : RiskMonitor) : Prop where
  maxConcurrentPositions : t.maxConcurrentPositions = r.maxConcurrentPositions
  varLimitFraction : t.varLimitFraction = r.varLimitFraction
  varWindow : t.varWindow = r.varWindow
  sysCfg : t.sysCfg = r.sysCfg

/-- A finite double equals itself, also in the comparison of the source. -/
theorem eq_self_of_isFinite {value : Double} (h : value.isFinite = true) :
    value.eq value = true := by
  cases value with
  | finite v => simp [Double.eq]
  | infinite negative => cases h
  | nan => cases h

/-- The limits that `canRestoreSnapshot` enforces. -/
theorem canRestoreSnapshot_eq_ok {r t : RiskMonitor} (h : r.Configured t)
    (hfinite : r.varLimitFraction.isFinite = true) :
    t.canRestoreSnapshot (sortedRisk r.snapshotState) = .ok () ↔
      r.effectiveMaxPositions ≤ r.maxConcurrentPositions ∧
        ¬r.varLimitFraction < r.effectiveVarLimit := by
  obtain ⟨hmax, hlimit, hwindow, -⟩ := h
  have heq := eq_self_of_isFinite hfinite
  simp [canRestoreSnapshot, sortedRisk, snapshotState, hmax, hlimit, hwindow, heq]

/-- What a snapshot restores is the risk engine it was taken from. -/
theorem same_restoreState {r t : RiskMonitor} (h : r.Configured t) {now : ℕ}
    (hrate : r.currentErrorRate now = 0) :
    (t.restoreState (sortedRisk r.snapshotState)).Same now r where
  fields := by
    obtain ⟨hmax, hlimit, hwindow, hconfig⟩ := h
    rcases t with ⟨⟨⟩⟩
    rcases r with ⟨⟨⟩⟩
    dsimp only at hmax hlimit hwindow hconfig
    subst hmax hlimit hwindow hconfig
    rfl
  syncedPositions := KeyedMap.lookup_insertAll (KeyedMap.sortedEntries_perm _)
  assetStates := KeyedMap.lookup_insertAll (KeyedMap.sortedEntries_perm _)
  errorRate := hrate.symm

end RiskMonitor

namespace RegimeDetector

/-- A regime detector with the configuration of another one. -/
structure Configured (d t : RegimeDetector) : Prop where
  adxPeriod : t.adxPeriod = d.adxPeriod
  varWindow : t.varWindow = d.varWindow
  varThreshold : t.varThreshold = d.varThreshold
  adxTrendAbove : t.adxTrendAbove = d.adxTrendAbove
  adxRangeBelow : t.adxRangeBelow = d.adxRangeBelow

/-- A detector of the same configuration is restored as the detector that was saved. -/
theorem restoreState_eq {d t : RegimeDetector} (h : d.Configured t) (hcopied : d.Copied) :
    t.restoreState d.state = d := by
  obtain ⟨hperiod, hwindow, hthreshold, htrend, hrange⟩ := h
  obtain ⟨hregime, hadx, hvariance⟩ := hcopied
  rcases t with ⟨⟩
  rcases d with ⟨⟩
  dsimp only at hperiod hwindow hthreshold htrend hrange hregime hadx hvariance
  subst hperiod hwindow hthreshold htrend hrange hregime hadx hvariance
  rfl

end RegimeDetector

namespace PortfolioAllocator

/-- Two allocators are equal in every field; the performance of the strategies may be listed
in another order. -/
structure Same (a a' : PortfolioAllocator) : Prop where
  fields : { a with phiStates := a'.phiStates } = a'
  phiStates : ∀ strategyId, a.phiStates.lookup strategyId = a'.phiStates.lookup strategyId

/-- An allocator that was built with the configuration of another one. -/
structure Configured (a t : PortfolioAllocator) : Prop where
  longThreshold : t.longThreshold = a.longThreshold
  shortThreshold : t.shortThreshold = a.shortThreshold
  attached : t.attached = a.attached
  weights : t.weights = a.weights
  cachedDynamicWeights : t.cachedDynamicWeights = ∅
  recomputeCount : t.recomputeCount = 0

/-- What a snapshot restores is the allocator it was taken from, unless that one had
recomputed its weights. -/
theorem same_restorePhiStates {a t : PortfolioAllocator} (h : a.Configured t) :
    (t.restorePhiStates (KeyedMap.insertAll ∅ (KeyedMap.sortedEntries a.phiStates))).Same a ↔
      a.cachedDynamicWeights = ∅ ∧ a.recomputeCount = 0 := by
  obtain ⟨hlong, hshort, hattached, hweights, hcached, hcount⟩ := h
  rcases t with ⟨⟩
  rcases a with ⟨⟩
  dsimp only at hlong hshort hattached hweights hcached hcount
  subst hlong hshort hattached hweights hcached hcount
  constructor
  · rintro ⟨hfields, -⟩
    injection hfields with _ _ _ _ _ hcached hcount
    exact ⟨hcached.symm, hcount.symm⟩
  · rintro ⟨hcached, hcount⟩
    dsimp only at hcached hcount
    subst hcached hcount
    exact ⟨rfl, KeyedMap.lookup_insertAll (KeyedMap.sortedEntries_perm _)⟩

end PortfolioAllocator

/-- The components that a checkpoint saves. -/
structure Components where
  portfolio : PortfolioManager
  risk : RiskMonitor
  regime : RegimeDetector
  allocator : PortfolioAllocator

namespace Components

/-- The objects behind the optional pointers. -/
def attached (c : Components) : Attached := some (c.regime, c.allocator)

/-- `saveSnapshot` of all components. -/
def saveSnapshot (c : Components) (checkpointTs now : ℕ) : Except String String :=
  StateSerializer.saveSnapshot c.portfolio c.risk c.attached checkpointTs now

/-- `loadSnapshot` into all components. -/
def loadSnapshot (c : Components) (contents : String) : Except String Loaded :=
  StateSerializer.loadSnapshot c.risk c.attached contents

/-- The states of the components as calls make them. -/
structure Reached (c : Components) : Prop where
  portfolio : c.portfolio.Held
  risk : c.risk.Reached
  regime : c.regime.Reached
  allocator : c.allocator.Reached

/-- The members of all components have values of their types. -/
structure Representable (c : Components) : Prop where
  portfolio : c.portfolio.Representable
  risk : c.risk.Representable
  regime : c.regime.Representable
  allocator : c.allocator.Representable

/-- Components that were built with the configuration of other ones. -/
structure Configured (c t : Components) : Prop where
  risk : c.risk.Configured t.risk
  regime : c.regime.Configured t.regime
  allocator : c.allocator.Configured t.allocator

/-- Loading has left the state of the components, and the time of the checkpoint. -/
def Restored (c : Components) (checkpointTs now : ℕ) (loaded : Loaded) : Prop :=
  loaded.portfolio.Same c.portfolio ∧ loaded.risk.Same now c.risk ∧
    (∃ allocator, loaded.attached = some (c.regime, allocator) ∧ allocator.Same c.allocator) ∧
    loaded.checkpointTs = checkpointTs

/-- What components need so that their saved file can be loaded: amounts that come back from their
doubles, the limits of the readers, that of the payload, those of the risk engine, and no
recomputed weights. -/
structure Loadable (c : Components) : Prop where
  steady : c.portfolio.Steady
  portfolio : PortfolioLimits c.portfolio.snapshotState
  risk : RiskLimits c.risk.snapshotState
  regime : RegimeLimits c.regime.state
  phi : PhiLimits c.allocator.phiStates
  size : 30 + portfolioSize c.portfolio.snapshotState + riskSize c.risk.snapshotState +
    regimeSize c.regime.state + phiSize c.allocator.phiStates ≤ maxPayload
  effectiveMaxPositions : c.risk.effectiveMaxPositions ≤ c.risk.maxConcurrentPositions
  effectiveVarLimit : ¬c.risk.varLimitFraction < c.risk.effectiveVarLimit
  cachedDynamicWeights : c.allocator.cachedDynamicWeights = ∅
  recomputeCount : c.allocator.recomputeCount = 0

end Components

namespace StateSerializer

/-- What loading leaves when the reader accepts the whole payload of saved components. -/
theorem loadPayload_eq_ok {c t : Components} {checkpointTs : ℕ} (hts : Word64 checkpointTs)
    {loaded : Loaded} (hportfolio : PortfolioTyped c.portfolio.snapshotState)
    (hrisk : RiskTyped c.risk.snapshotState) (hregime : RegimeTyped c.regime.state)
    (hphi : PhiTyped c.allocator.phiStates)
    (hvalid : validateRisk c.risk.snapshotState = .ok ())
    (hextended : validateExtended c.regime.state c.allocator.phiStates = .ok ()) :
    loadPayload t.risk t.attached (payloadOf c.portfolio c.risk c.attached checkpointTs) =
        .ok loaded ↔
      ((PortfolioLimits c.portfolio.snapshotState ∧ RiskLimits c.risk.snapshotState) ∧
        RegimeLimits c.regime.state ∧ PhiLimits c.allocator.phiStates) ∧
      t.risk.canRestoreSnapshot (sortedRisk c.risk.snapshotState) = .ok () ∧
      validatePortfolio (rewrittenPortfolio c.portfolio.snapshotState) = .ok () ∧
      PortfolioManager.restoreState (rewrittenPortfolio c.portfolio.snapshotState) =
        .ok loaded.portfolio ∧
      loaded = {
        portfolio := loaded.portfolio
        risk := t.risk.restoreState (sortedRisk c.risk.snapshotState)
        attached := some (t.regime.restoreState c.regime.state,
          t.allocator.restorePhiStates
            (KeyedMap.insertAll ∅ (KeyedMap.sortedEntries c.allocator.phiStates)))
        checkpointTs := checkpointTs } := by
  have hstate := @readsWithin_state (stateOf c.portfolio c.risk c.attached checkpointTs) hts
    hportfolio hrisk
  have hext := @readsWithin_extended ⟨c.regime.state, c.allocator.phiStates⟩ hregime hphi
  have hpayload : payloadOf c.portfolio c.risk c.attached checkpointTs =
      writeState (stateOf c.portfolio c.risk c.attached checkpointTs) ++
        writeExtended ⟨c.regime.state, c.allocator.phiStates⟩ := rfl
  rw [hpayload]
  simp only [loadPayload, orMessage, bind_eq_ok, mapError_eq_ok, failIf_eq_ok, pure_eq_ok]
  constructor
  · rintro ⟨⟨state, rest⟩, hread, hrest⟩
    have hlimits := hstate.limit_of_ok hread
    rw [hstate.1 hlimits] at hread
    cases hread
    obtain ⟨⟨extended, rest⟩, hread, hrest⟩ := hrest
    simp only [readAttached, rewrittenState, stateOf, Components.attached, Option.isSome_some,
      if_true, orMessage, bind_eq_ok, mapError_eq_ok, pure_eq_ok] at hread
    obtain ⟨⟨x, rest'⟩, hread, hx⟩ := hread
    rw [← List.append_nil (writeExtended _)] at hread
    have hlimits' := hext.limit_of_ok hread
    rw [hext.1 hlimits'] at hread
    cases hread
    cases hx
    obtain ⟨_, -, _, -, _, hvalidated, _, hrestore, _, -, portfolio, hportfolio, rfl⟩ := hrest
    simp only [validate, bind_eq_ok] at hvalidated
    obtain ⟨_, hvalidated, -⟩ := hvalidated
    exact ⟨⟨hlimits, hlimits'⟩, hrestore, hvalidated, hportfolio, rfl⟩
  · rintro ⟨⟨hlimits, hlimits'⟩, hrestore, hvalidated, hportfolio, hloaded⟩
    have hread := hext.1 hlimits' []
    rw [List.append_nil] at hread
    refine ⟨_, hstate.1 hlimits _, ⟨some ⟨c.regime.state,
      KeyedMap.insertAll ∅ (KeyedMap.sortedEntries c.allocator.phiStates)⟩, []⟩, ?_, (), rfl, (),
      ?_, (), ?_, (), hrestore, (), ?_, loaded.portfolio, hportfolio, hloaded.symm⟩
    · simp only [readAttached, rewrittenState, stateOf, Components.attached, Option.isSome_some,
        if_true, orMessage, bind_eq_ok, mapError_eq_ok, pure_eq_ok]
      exact ⟨_, hread, rfl⟩
    · rfl
    · simp only [validate, bind_eq_ok]
      exact ⟨(), hvalidated, validateRisk_sortedRisk.mpr hvalid⟩
    · exact validateExtended_sorted.mpr hextended

/-- What an accepted portfolio snapshot has. -/
theorem validatePortfolio_facts {s : PortfolioManager.Snapshot}
    (h : validatePortfolio s = .ok ()) :
    s.currentDrawdown.isFinite = true ∧ s.maxDrawdown.isFinite = true ∧
      ∃ pm, PortfolioManager.restoreState s = .ok pm := by
  simp only [validatePortfolio, checkAccounts, bind_eq_ok, failIf_eq_ok, Bool.or_eq_false_iff,
    Bool.not_eq_false'] at h
  obtain ⟨_, haccounts, _, -, _, -, _, -, _, -, hrestore⟩ := h
  obtain ⟨⟨⟨⟨⟨⟨⟨⟨-, hcurrent⟩, hmax⟩, -⟩, -⟩, -⟩, -⟩, -⟩, -⟩ := haccounts
  refine ⟨hcurrent, hmax, ?_⟩
  unfold checkRestoration at hrestore
  split at hrestore
  · next pm hpm => exact ⟨pm, hpm⟩
  · cases hrestore

/-- What an accepted risk snapshot has. -/
theorem validateRisk_varLimit {s : RiskMonitor.Snapshot} (h : validateRisk s = .ok ()) :
    s.configuredVarLimit.isFinite = true := by
  simp only [validateRisk, bind_eq_ok, failIf_eq_ok, Bool.or_eq_false_iff,
    Bool.not_eq_false'] at h
  obtain ⟨_, ⟨⟨⟨⟨⟨⟨⟨⟨hlimit, -⟩, -⟩, -⟩, -⟩, -⟩, -⟩, -⟩, -⟩, -⟩ := h
  exact hlimit

end StateSerializer

namespace Components

/-- What loading a saved file leaves, and when it succeeds. -/
theorem loadSnapshot_eq_ok {c t : Components} (hreached : c.Reached)
    (hrepresentable : c.Representable) {checkpointTs now : ℕ} (hts : Word64 checkpointTs)
    {contents : String} (hsave : c.saveSnapshot checkpointTs now = .ok contents)
    {loaded : Loaded} :
    t.loadSnapshot contents = .ok loaded ↔
      (payloadOf c.portfolio c.risk c.attached checkpointTs).length ≤ maxPayload ∧
      ((PortfolioLimits c.portfolio.snapshotState ∧ RiskLimits c.risk.snapshotState) ∧
        RegimeLimits c.regime.state ∧ PhiLimits c.allocator.phiStates) ∧
      t.risk.canRestoreSnapshot (sortedRisk c.risk.snapshotState) = .ok () ∧
      validatePortfolio (rewrittenPortfolio c.portfolio.snapshotState) = .ok () ∧
      PortfolioManager.restoreState (rewrittenPortfolio c.portfolio.snapshotState) =
        .ok loaded.portfolio ∧
      loaded = {
        portfolio := loaded.portfolio
        risk := t.risk.restoreState (sortedRisk c.risk.snapshotState)
        attached := some (t.regime.restoreState c.regime.state,
          t.allocator.restorePhiStates
            (KeyedMap.insertAll ∅ (KeyedMap.sortedEntries c.allocator.phiStates)))
        checkpointTs := checkpointTs } := by
  simp only [saveSnapshot, StateSerializer.saveSnapshot, bind_eq_ok, pure_eq_ok] at hsave
  obtain ⟨_, -, _, hvalid, _, hextended, rfl⟩ := hsave
  have hparts := hvalid
  simp only [validate, bind_eq_ok] at hparts
  obtain ⟨_, hportfolioValid, hriskValid⟩ := hparts
  obtain ⟨hcurrent, hmax, -⟩ := validatePortfolio_facts hportfolioValid
  have hportfolio := hrepresentable.portfolio.typed hcurrent hmax
  have hrisk := hreached.risk.typed hrepresentable.risk hriskValid
  obtain ⟨hregime, hphi⟩ := typed_of_validateExtended hrepresentable.regime
    hrepresentable.allocator hreached.allocator.named hextended
  have hload := @loadPayload_eq_ok c t checkpointTs hts loaded hportfolio hrisk hregime hphi
    hriskValid hextended
  rw [← hload]
  simp only [loadSnapshot, StateSerializer.loadSnapshot, bind_eq_ok, openEnvelope_text]
  constructor
  · rintro ⟨payload, ⟨hpayload, rfl⟩, hok⟩
    exact ⟨hpayload, hok⟩
  · rintro ⟨hpayload, hok⟩
    exact ⟨_, ⟨hpayload, rfl⟩, hok⟩

/-- **Saved files.** When components that calls have made are saved, loading the file into
equally configured ones succeeds and restores their state exactly when the amounts of the state
come back from their doubles and the state is within the limits of the reading side. -/
theorem restored_iff {c t : Components} (hreached : c.Reached)
    (hrepresentable : c.Representable) (hconfigured : c.Configured t) {checkpointTs now : ℕ}
    (hts : Word64 checkpointTs) {contents : String}
    (hsave : c.saveSnapshot checkpointTs now = .ok contents) :
    (∃ loaded, t.loadSnapshot contents = .ok loaded ∧ c.Restored checkpointTs now loaded) ↔
      c.Loadable := by
  have hload (loaded : Loaded) :=
    @loadSnapshot_eq_ok c t hreached hrepresentable checkpointTs now hts contents hsave loaded
  simp only [saveSnapshot, StateSerializer.saveSnapshot, validate, bind_eq_ok, failIf_eq_ok,
    decide_eq_false_iff_not, not_not] at hsave
  obtain ⟨_, hrate, _, ⟨_, hportfolioValid, hriskValid⟩, -⟩ := hsave
  obtain ⟨-, -, pm, hpm⟩ := validatePortfolio_facts hportfolioValid
  have hsize := length_payloadOf c.portfolio c.risk c.regime c.allocator checkpointTs
  have hlimits := RiskMonitor.canRestoreSnapshot_eq_ok hconfigured.risk
    (validateRisk_varLimit hriskValid)
  have hallocator := PortfolioAllocator.same_restorePhiStates hconfigured.allocator
  have hdetector := RegimeDetector.restoreState_eq hconfigured.regime hreached.regime.copied
  constructor
  · rintro ⟨loaded, hok, hportfolioSame, -, ⟨allocator, hattached, hsame⟩, -⟩
    obtain ⟨hpayload, ⟨⟨hportfolio, hrisk⟩, hregime, hphi⟩, hrestore, -, hrestored, hloaded⟩ :=
      (hload loaded).mp hok
    have hsteady := PortfolioManager.steady_of_restoreState hrestored hportfolioSame
    rw [hloaded] at hattached
    dsimp only at hattached
    rw [Option.some.injEq, Prod.mk.injEq] at hattached
    obtain ⟨hcached, hcount⟩ := hallocator.mp (hattached.2 ▸ hsame)
    obtain ⟨hpositions, hvar⟩ := hlimits.mp hrestore
    exact ⟨hsteady, hportfolio, hrisk, hregime, hphi, hsize ▸ hpayload, hpositions, hvar, hcached,
      hcount⟩
  · rintro ⟨hsteady, hportfolio, hrisk, hregime, hphi, hpayload, hpositions, hvar, hcached, hcount⟩
    have hread := rewrittenPortfolio_eq hsteady.snapshotState
    refine ⟨_, (hload ⟨pm, _, _, _⟩).mpr ⟨hsize ▸ hpayload, ⟨⟨hportfolio, hrisk⟩, hregime, hphi⟩,
      hlimits.mpr ⟨hpositions, hvar⟩, hread.symm ▸ hportfolioValid, hread.symm ▸ hpm, rfl⟩, ?_, ?_,
      ⟨_, ?_, hallocator.mpr ⟨hcached, hcount⟩⟩, rfl⟩
    · exact hreached.portfolio.same_of_restoreState hsteady.survives hpm
    · exact RiskMonitor.same_restoreState hconfigured.risk hrate
    · dsimp only
      rw [hdetector]

/-- Components that were just built around a risk engine. -/
def around (risk : RiskMonitor) : Components where
  portfolio := .fresh
  risk := risk
  regime := {}
  allocator := { attached := true }

/-- Components around a reached risk engine have a reached one. -/
theorem reached_around {risk : RiskMonitor} (h : risk.Reached) : (around risk).Reached where
  portfolio := ⟨[], 0, 0, rfl⟩
  risk := h
  regime := .created 14 20 (.finite (1 / 10 ^ 4)) (.finite 25) (.finite 20)
  allocator := .created (.finite (3 / 10)) (.finite (3 / 10)) true

/-- A fresh portfolio can be written: it holds nothing and its capital is a surviving value. -/
theorem representable_fresh : (PortfolioManager.fresh).Representable where
  currentDrawdown := number_zero.binary64
  maxDrawdown := number_zero.binary64
  tradeCount := ⟨by decide, by decide⟩
  roundTripCount := ⟨by decide, by decide⟩
  positions_length := Nat.two_pow_pos 64
  positions := fun _ he => by cases he
  tradeLog_length := Nat.two_pow_pos 64
  tradeLog := fun _ ht => by cases ht
  pendingOrders_length := Nat.two_pow_pos 64
  pendingOrders := fun _ ho => by cases ho
  nextOrderId := by decide

/-- A hundred thousand of cash is far below the amounts that a double rounds. -/
theorem steady_fresh : (PortfolioManager.fresh).Steady where
  survives :=
    { cash := Financial.survives_of_le (by decide)
      unrealizedPnL := Financial.survives_zero
      totalEquity := Financial.survives_of_le (by decide)
      maxEquity := Financial.survives_of_le (by decide)
      totalFeesPaid := Financial.survives_zero
      positions := fun _ _ hp => by cases hp }
  tradeLog := fun _ ht => by cases ht
  pendingOrders := fun _ ho => by cases ho

/-- The detector that a backtest starts with can be written. -/
theorem representable_initial : ({} : RegimeDetector).Representable where
  smoothTR := number_zero.binary64
  smoothDMPlus := number_zero.binary64
  smoothDMMinus := number_zero.binary64
  adx := number_zero.binary64
  adxObservations := ⟨by decide, by decide⟩
  returnWindow := ⟨Nat.two_pow_pos 64, fun _ hv => by cases hv⟩
  prevClose := number_zero.binary64
  variance := number_zero.binary64
  prevHigh := number_zero.binary64
  prevLow := number_zero.binary64

/-- Components around a representable risk engine are representable, since the others are new. -/
theorem representable_around {risk : RiskMonitor} (h : risk.Representable) :
    (around risk).Representable where
  portfolio := representable_fresh
  risk := h
  regime := representable_initial
  allocator := ⟨Nat.two_pow_pos 64, fun _ he => by cases he⟩

/-- Components are of their own configuration when the allocator has cached no weights yet. -/
theorem configured_self {c : Components} (hcached : c.allocator.cachedDynamicWeights = ∅)
    (hcount : c.allocator.recomputeCount = 0) : c.Configured c where
  risk := ⟨rfl, rfl, rfl, rfl⟩
  regime := ⟨rfl, rfl, rfl, rfl, rfl⟩
  allocator := ⟨rfl, rfl, rfl, rfl, hcached, hcount⟩

/-- A risk engine without observations, with a cap on positions before and after scaling. -/
def quietEngine (maxConcurrentPositions effectiveMaxPositions : ℕ) (config : Option SystemConfig)
    (volatilityScaled : Bool) : RiskMonitor :=
  { RiskMonitor.create maxConcurrentPositions 0 with
    sysCfg := config
    effectiveMaxPositions := effectiveMaxPositions
    volatilityScaled := volatilityScaled }

/-- An engine that has seen no market can be written as soon as its two limits are words. -/
theorem representable_quietEngine {maxConcurrentPositions effectiveMaxPositions : ℕ}
    {config : Option SystemConfig} {volatilityScaled : Bool}
    (hmax : Word64 maxConcurrentPositions) (heffective : Word64 effectiveMaxPositions) :
    (quietEngine maxConcurrentPositions effectiveMaxPositions config
      volatilityScaled).Representable where
  maxConcurrentPositions := hmax
  varLimitFraction := number_zero.binary64
  varWindow := by norm_num [quietEngine, RiskMonitor.create]
  totalDrawdown := number_zero.binary64
  dailyDrawdown := number_zero.binary64
  prevEquity := number_zero.binary64
  returnWindow := ⟨Nat.two_pow_pos 64, fun _ hv => by cases hv⟩
  currentVaR95 := number_zero.binary64
  returnStdDev := number_zero.binary64
  assetStates_length := Nat.two_pow_pos 64
  assetStates := fun _ he => by cases he
  covMatrix := ⟨Nat.two_pow_pos 64, fun _ hv => by cases hv⟩
  assetOrder_length := Nat.two_pow_pos 64
  assetOrder := fun _ hs => by cases hs
  lastLatencyMs := Nat.two_pow_pos 32
  syncedPositions_length := Nat.two_pow_pos 64
  syncedPositions := fun _ he => by cases he
  effectiveMaxPositions := heffective
  effectiveVarLimit := number_zero.binary64

/-- So the components around it can be saved and loaded. -/
theorem loadable_around_quietEngine {maxConcurrentPositions effectiveMaxPositions : ℕ}
    {config : Option SystemConfig} {volatilityScaled : Bool}
    (hle : effectiveMaxPositions ≤ maxConcurrentPositions) :
    (around (quietEngine maxConcurrentPositions effectiveMaxPositions config
      volatilityScaled)).Loadable where
  steady := steady_fresh
  portfolio := ⟨listLimits_nil _, listLimits_nil _, listLimits_nil _⟩
  risk := ⟨numbersLimits_nil, listLimits_nil _, numbersLimits_nil, listLimits_nil _,
    listLimits_nil _⟩
  regime := numbersLimits_nil
  phi := listLimits_nil _
  size := by
    change 30 + 96 + 129 + 79 + 8 ≤ maxPayload
    decide
  effectiveMaxPositions := hle
  effectiveVarLimit := by
    change ¬Double.finite 0 < Double.finite 0
    rw [Double.finite_lt_finite]
    exact lt_irrefl 0
  cachedDynamicWeights := rfl
  recomputeCount := rfl

/-- Fresh components, saved and loaded into themselves. -/
theorem restored_iff_fresh :
    ∃ contents, (around (quietEngine 2 0 none false)).saveSnapshot 0 0 = .ok contents ∧
      ∃ loaded, (around (quietEngine 2 0 none false)).loadSnapshot contents = .ok loaded ∧
        (around (quietEngine 2 0 none false)).Restored 0 0 loaded := by
  have hsaved : ((around (quietEngine 2 0 none false)).saveSnapshot 0 0).isOk = true := by
    decide +kernel
  cases hsave : (around (quietEngine 2 0 none false)).saveSnapshot 0 0 with
  | error e =>
    rw [hsave] at hsaved
    cases hsaved
  | ok contents =>
    refine ⟨contents, rfl, (restored_iff ?_ ?_ ?_ ?_ hsave).mpr ?_⟩
    · exact reached_around (.created 2 0 252)
    · exact representable_around (representable_quietEngine (by decide) (by decide))
    · exact configured_self rfl rfl
    · decide
    · exact loadable_around_quietEngine (by decide)

/-- The volatility rises to three times its baseline while positions are unlimited: the cap
of one position that is then in effect is saved, and refused on loading. -/
theorem not_restored_unlimited :
    ¬∀ (c t : Components) (checkpointTs now : ℕ) (contents : String), c.Reached →
      c.Representable → c.Configured t → Word64 checkpointTs →
      c.saveSnapshot checkpointTs now = .ok contents →
      ∃ loaded, t.loadSnapshot contents = .ok loaded ∧ c.Restored checkpointTs now loaded := by
  intro h
  let configured := (RiskMonitor.create 0 0).withEngine
    ((RiskMonitor.create 0 0).toRiskEngine.setSystemConfig (some {}))
  have hengine : configured.withEngine (configured.toRiskEngine.apply
      (.updateLiveVolatility (.finite 3) (.finite 1))) = quietEngine 0 1 (some {}) true := by
    have hscaled : RiskEngine.updateLiveVolatility configured.toRiskEngine (.finite 3)
        (.finite 1) = (quietEngine 0 1 (some {}) true).toRiskEngine := by
      have hbaseline : ¬(Double.finite 1 ≤ 0) := by
        rw [Double.zero_eq, Double.finite_le_finite]
        norm_num
      have hratio : (.finite (3 / 2) : Double) < .finite 3 / .finite 1 := by
        change Double.finite (3 / 2) < .finite (3 / 1)
        rw [Double.finite_lt_finite]
        norm_num
      have hlimit : (0 : Double) * .finite (1 / 2) = 0 := by
        change Double.finite (0 * (1 / 2)) = .finite 0
        rw [zero_mul]
      simp only [configured, RiskMonitor.withEngine, RiskMonitor.create,
        RiskEngine.setSystemConfig, RiskEngine.updateLiveVolatility, if_neg hbaseline, hratio,
        and_self, if_true, hlimit]
      rfl
    rw [RiskEngine.apply, hscaled]
    rfl
  have hreached : (quietEngine 0 1 (some {}) true).Reached := by
    rw [← hengine]
    exact .called _ (.configured (some {}) (.created 0 0 252))
  have hrepresentable : (around (quietEngine 0 1 (some {}) true)).Representable :=
    representable_around (representable_quietEngine (by decide) (by decide))
  have hsaved : ((around (quietEngine 0 1 (some {}) true)).saveSnapshot 0 0).isOk = true := by
    decide +kernel
  cases hsave : (around (quietEngine 0 1 (some {}) true)).saveSnapshot 0 0 with
  | error e =>
    rw [hsave] at hsaved
    cases hsaved
  | ok contents =>
    obtain ⟨loaded, hload, -⟩ := h _ _ 0 0 contents (reached_around hreached) hrepresentable
      (configured_self rfl rfl) (by decide) hsave
    obtain ⟨-, -, hrestore, -⟩ := (loadSnapshot_eq_ok (reached_around hreached) hrepresentable
      (by decide) hsave).mp hload
    have hlimits := (RiskMonitor.canRestoreSnapshot_eq_ok ⟨rfl, rfl, rfl, rfl⟩ rfl).mp hrestore
    exact absurd hlimits.1 (by decide)

end Components

end TradeBot
