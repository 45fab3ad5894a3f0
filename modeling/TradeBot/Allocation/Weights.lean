import TradeBot.PortfolioAllocator
import TradeBot.Library.Machine
import TradeBot.Library.Normalisation

/-!
# Cached and plain weights

A decision of the allocator uses the weights that were cached for the regime of the latest
recomputation. They are the plain weights of the decision as long as neither the regime nor
the performance of a strategy has changed since, and as long as they are normalised over the
strategies of the decision.
-/

namespace TradeBot

open Library

namespace Double

/-- Finite numbers add up to their finite sum. -/
@[simp] theorem sum_map_finite (values : List ℚ) :
    Double.sum (values.map .finite) = .finite values.sum := by
  have hfold (values : List ℚ) (start : ℚ) :
      (values.map Double.finite).foldl (· + ·) (.finite start) = .finite (start + values.sum) := by
    induction values generalizing start with
    | nil => simp
    | cons value values ih =>
      change (values.map Double.finite).foldl (· + ·) (.finite (start + value)) = _
      rw [ih, List.sum_cons, add_assoc]
  exact (hfold values 0).trans (by rw [zero_add])

end Double

namespace PortfolioAllocator

/-- The weights of a decision, scaled down to a total of one. -/
def normalisedWeights (weights : List Double) : List Double :=
  let sumAbs := Double.sum (weights.map Double.abs)
  if .finite 1 < sumAbs then weights.map (· / sumAbs) else weights

/-- The normalisation of the source is the one of the library on finite weights. -/
theorem normalisedWeights_finite (weights : List ℚ) :
    normalisedWeights (weights.map .finite) = (normalise weights).map .finite := by
  have hsum : Double.sum ((weights.map Double.finite).map Double.abs) =
      .finite (absSum weights) := by
    rw [List.map_map, absSum, ← Double.sum_map_finite, List.map_map]
    rfl
  unfold normalisedWeights normalise
  dsimp only
  rw [hsum]
  by_cases hlt : 1 < absSum weights
  · rw [if_pos hlt, if_pos ((Double.finite_lt_finite _ _).mpr hlt), List.map_map, List.map_map]
    apply List.map_congr_left
    intro w _
    exact if_neg (lt_trans one_pos hlt).ne'
  · rw [if_neg hlt, if_neg (fun h => hlt ((Double.finite_lt_finite _ _).mp h))]

/-- The weights that `ensemble` uses for the signals of a decision. -/
def ensembleWeights (allocator : PortfolioAllocator) (detected : MarketRegime)
    (signals : List AlphaSignal) : List Double :=
  let weights := signals.map
    (allocator.signalWeight (if allocator.attached then detected else .chaos))
  if allocator.attached then normalisedWeights weights else weights

/-- The decision that weighted signals of a symbol give. -/
def decision (allocator : PortfolioAllocator) (symbol : String) (regime : MarketRegime)
    (weighted : List (Double × AlphaSignal)) : AllocationResult :=
  let conviction := Double.sum (weighted.map fun (weight, signal) => weight * signal.conviction)
  { symbol := symbol
    action :=
      if allocator.longThreshold ≤ conviction then .buy
      else if conviction ≤ allocator.shortThreshold.neg then .sell
      else .none
    totalConviction := conviction
    dominantStrategyId := dominant weighted (.finite (-1)) ""
    regime := regime }

/-- A decision depends on the cache through the weights only. -/
theorem ensemble_cons (allocator : PortfolioAllocator) (detected : MarketRegime)
    (first : AlphaSignal) (signals : List AlphaSignal) :
    allocator.ensemble detected (first :: signals) =
      allocator.decision first.symbol (if allocator.attached then detected else .chaos)
        ((allocator.ensembleWeights detected (first :: signals)).zip (first :: signals)) := by
  unfold ensembleWeights normalisedWeights
  cases hdynamic : allocator.attached with
  | false => simp [ensemble, decision, hdynamic]
  | true => simp [ensemble, decision, hdynamic]

/-- The weights that the formula of the header gives for the signals of a decision. -/
def plainWeights (allocator : PortfolioAllocator) (regime : MarketRegime)
    (signals : List AlphaSignal) : List Double :=
  normalisedWeights (signals.map fun signal => allocator.dynamicWeight signal.strategyId regime)

/-- The sum of the absolute weights that `recomputeWeights` computes. -/
def knownAbsolute (allocator : PortfolioAllocator) (regime : MarketRegime) : Double :=
  Double.sum (allocator.knownStrategies.map fun strategyId =>
    (allocator.dynamicWeight strategyId regime).abs)

/-- The weight that `recomputeWeights` keeps for a strategy that it knows. -/
def cachedWeight (allocator : PortfolioAllocator) (regime : MarketRegime) (strategyId : String) :
    Double :=
  if .finite 1 < allocator.knownAbsolute regime then
    allocator.dynamicWeight strategyId regime / allocator.knownAbsolute regime
  else allocator.dynamicWeight strategyId regime

/-- Caching values for a list of ids sets these and leaves all others. -/
theorem lookup_foldl_insert (value : String → Double) (ids : List String)
    (cache : KeyedMap String Double) (strategyId : String) :
    (ids.foldl (fun cache id => cache.insert id (value id)) cache).lookup strategyId =
      if strategyId ∈ ids then some (value strategyId) else cache.lookup strategyId := by
  induction ids generalizing cache with
  | nil => exact (if_neg List.not_mem_nil).symm
  | cons id ids ih =>
    rw [List.foldl_cons, ih]
    by_cases hmem : strategyId ∈ ids
    · rw [if_pos hmem, if_pos (List.mem_cons_of_mem id hmem)]
    · rw [if_neg hmem]
      by_cases heq : strategyId = id
      · rw [heq, AList.lookup_insert, if_pos List.mem_cons_self]
      · rw [AList.lookup_insert_ne heq, if_neg (by simp [heq, hmem])]

/-- The cache holds a weight for every strategy that was known. -/
theorem lookup_recomputeWeights (allocator : PortfolioAllocator) (regime : MarketRegime)
    (strategyId : String) :
    (allocator.recomputeWeights regime).cachedDynamicWeights.lookup strategyId =
      if strategyId ∈ allocator.knownStrategies then
        some (allocator.cachedWeight regime strategyId)
      else none := by
  have hcache : (allocator.recomputeWeights regime).cachedDynamicWeights =
      allocator.knownStrategies.foldl
        (fun cache id => cache.insert id (allocator.cachedWeight regime id)) ∅ := by
    have hsum : Double.sum ((allocator.knownStrategies.map fun id =>
        (id, allocator.dynamicWeight id regime)).map fun e => e.2.abs) =
          allocator.knownAbsolute regime := by
      rw [List.map_map]
      rfl
    unfold recomputeWeights
    dsimp only
    rw [hsum]
    by_cases hlt : .finite 1 < allocator.knownAbsolute regime
    · simp only [cachedWeight, if_pos hlt, List.map_map, List.foldl_map, Function.comp_def]
    · simp only [cachedWeight, if_neg hlt, List.foldl_map]
  rw [hcache, lookup_foldl_insert]
  rfl

/-- The scores of all strategies are numbers. -/
def FinitePhis (states : KeyedMap String PhiState) : Prop :=
  ∀ strategyId ps, states.lookup strategyId = some ps → ps.phi.isFinite = true

/-- Without any trade all performance values are finite. -/
theorem finitePhis_empty : FinitePhis ∅ := by
  intro strategyId ps hps
  cases hps

/-- A score that is computed lies within its bounds, so that it is a number. -/
theorem isFinite_recomputePhi (pnlWindow : List Double) :
    (recomputePhi pnlWindow).isFinite = true := by
  have hclamped (x : Double) :
      (Double.max (.finite (-1)) (Double.min (.finite 1) x)).isFinite = true := by
    rcases x with value | negative | _
    · unfold Double.max Double.min
      split <;> split <;> rfl
    · cases negative <;> rfl
    · rfl
  unfold recomputePhi
  split
  · rfl
  · exact hclamped _

/-- A closed trade leaves them finite. -/
theorem FinitePhis.onTradeClosed {allocator : PortfolioAllocator}
    (h : FinitePhis allocator.phiStates) (strategyId : String) (realizedPnL : Double) :
    FinitePhis (allocator.onTradeClosed strategyId realizedPnL).phiStates := by
  intro id ps hps
  by_cases hid : id = strategyId
  · change (allocator.phiStates.insert strategyId _).lookup id = some ps at hps
    rw [hid, AList.lookup_insert, Option.some_inj] at hps
    rw [← hps]
    exact isFinite_recomputePhi _
  · change (allocator.phiStates.insert strategyId _).lookup id = some ps at hps
    rw [AList.lookup_insert_ne hid] at hps
    exact h id ps hps

/-- With scores that are numbers, so are the weights. -/
theorem FinitePhis.dynamicWeight {allocator : PortfolioAllocator}
    (h : FinitePhis allocator.phiStates) (regime : MarketRegime) :
    ∃ value : String → ℚ, ∀ strategyId,
      allocator.dynamicWeight strategyId regime = .finite (value strategyId) := by
  suffices hall : ∀ strategyId, ∃ value, allocator.dynamicWeight strategyId regime =
      .finite value by
    choose value hvalue using hall
    exact ⟨value, hvalue⟩
  intro strategyId
  have hphi : ∃ phi, allocator.getPhi strategyId = .finite phi := by
    unfold getPhi
    cases hlookup : allocator.phiStates.lookup strategyId with
    | none => exact ⟨0, rfl⟩
    | some ps =>
      have hfinite := h strategyId ps hlookup
      cases hphi : ps.phi with
      | finite phi => exact ⟨phi, hphi⟩
      | infinite negative =>
        rw [hphi] at hfinite
        cases hfinite
      | nan =>
        rw [hphi] at hfinite
        cases hfinite
  have haffinity : ∃ a, RegimeDetector.affinity strategyId regime = .finite a := by
    unfold RegimeDetector.affinity
    repeat' split
    all_goals exact ⟨_, rfl⟩
  obtain ⟨phi, hphi⟩ := hphi
  obtain ⟨a, ha⟩ := haffinity
  refine ⟨7 / 10 * a + 3 / 10 * phi, ?_⟩
  unfold PortfolioAllocator.dynamicWeight
  rw [hphi, ha]
  rfl

end PortfolioAllocator

/-- An allocator and the regime of the detector that is attached to it. -/
structure Weighing where
  allocator : PortfolioAllocator
  regime : MarketRegime

namespace Weighing

open PortfolioAllocator

/-- The calls on an allocator, and the changes of the detected regime. -/
inductive Input where
  | recomputeWeights (regime : MarketRegime)
  | onTradeClosed (strategyId : String) (realizedPnL : Double)
  | regimeChange (regime : MarketRegime)
  | restorePhiStates (states : KeyedMap String PhiState)
  | ensemble (signals : List AlphaSignal)

/-- The state after a call. -/
def handle (w : Weighing) : Input → Weighing
  | .recomputeWeights regime => { w with allocator := w.allocator.recomputeWeights regime }
  | .onTradeClosed strategyId realizedPnL =>
    { w with allocator := w.allocator.onTradeClosed strategyId realizedPnL }
  | .regimeChange regime => { w with regime := regime }
  | .restorePhiStates states => { w with allocator := w.allocator.restorePhiStates states }
  | .ensemble _ => w

/-- The allocator as a machine. Its output is the decision. -/
def weighing : Machine Weighing Input AllocationResult where
  step w i := (w.handle i, match i with
    | .ensemble signals => w.allocator.ensemble w.regime signals
    | _ => {})

/-- For the strategies of a decision, nothing has changed that their cached weights were
computed from, and they are normalised as their decision normalises them. -/
def Unaltered (filled : PortfolioAllocator) (regime : MarketRegime) (now : Weighing)
    (signals : List AlphaSignal) : Prop :=
  (∀ signal ∈ signals, signal.strategyId ∉ filled.knownStrategies) ∨
    ((∀ signal ∈ signals, signal.strategyId ∈ filled.knownStrategies →
        now.regime = regime ∧
          now.allocator.getPhi signal.strategyId = filled.getPhi signal.strategyId) ∧
      (¬.finite 1 < filled.knownAbsolute regime ∨
        (signals.map (·.strategyId)).Perm filled.knownStrategies))

/-- After a run no weights are cached, or they are still those of the decision. -/
def Current (start : Weighing) (before : List Input) (signals : List AlphaSignal) : Prop :=
  (∀ regime, .recomputeWeights regime ∉ before) ∨
    ∃ first regime rest, before = first ++ .recomputeWeights regime :: rest ∧
      (∀ regime', .recomputeWeights regime' ∉ rest) ∧
      Unaltered (weighing.run start first).allocator regime (weighing.run start before) signals

/-- The scores of the strategies are numbers in a state and in what is restored into it. -/
def Numbers (start : Weighing) (before : List Input) : Prop :=
  FinitePhis start.allocator.phiStates ∧
    ∀ states, .restorePhiStates states ∈ before → FinitePhis states

/-- So they are after every run over numbers. -/
theorem finitePhis_run {start : Weighing} {before : List Input} (h : Numbers start before) :
    FinitePhis (weighing.run start before).allocator.phiStates := by
  induction before generalizing start with
  | nil => exact h.1
  | cons i before ih =>
    refine ih ⟨?_, fun states hmem => h.2 states (List.mem_cons_of_mem i hmem)⟩
    cases i with
    | recomputeWeights regime => exact h.1
    | onTradeClosed strategyId realizedPnL => exact h.1.onTradeClosed strategyId realizedPnL
    | regimeChange regime => exact h.1
    | restorePhiStates states => exact h.2 states List.mem_cons_self
    | ensemble signals => exact h.1

/-- Only a recomputation writes the cache. -/
theorem cache_run {start : Weighing} {inputs : List Input}
    (h : ∀ regime, .recomputeWeights regime ∉ inputs) :
    (weighing.run start inputs).allocator.cachedDynamicWeights =
      start.allocator.cachedDynamicWeights := by
  induction inputs generalizing start with
  | nil => rfl
  | cons i inputs ih =>
    refine (ih fun regime hmem => h regime (List.mem_cons_of_mem i hmem)).trans ?_
    cases i with
    | recomputeWeights regime => exact absurd List.mem_cons_self (h regime)
    | onTradeClosed strategyId realizedPnL => rfl
    | regimeChange regime => rfl
    | restorePhiStates states => rfl
    | ensemble signals => rfl

/-- Attaching a detector is no part of a run. -/
theorem attached_run (start : Weighing) (inputs : List Input) :
    (weighing.run start inputs).allocator.attached = start.allocator.attached := by
  induction inputs generalizing start with
  | nil => rfl
  | cons i inputs ih =>
    refine (ih _).trans ?_
    cases i <;> rfl

/-- The weight of a signal in a decision with the cache of a recomputation. -/
theorem signalWeight_cached {now : Weighing} (hattached : now.allocator.attached = true)
    {filled : PortfolioAllocator} {regime : MarketRegime}
    (hcache : now.allocator.cachedDynamicWeights =
      (filled.recomputeWeights regime).cachedDynamicWeights) (signal : AlphaSignal) :
    now.allocator.signalWeight now.regime signal =
      if signal.strategyId ∈ filled.knownStrategies then
        filled.cachedWeight regime signal.strategyId
      else now.allocator.dynamicWeight signal.strategyId now.regime := by
  unfold signalWeight
  rw [if_pos hattached, hcache, lookup_recomputeWeights]
  split <;> rfl

/-- Weights that were cached for all strategies of a decision were normalised as it does. -/
theorem normalisedWeights_cached {filled : PortfolioAllocator}
    (hfinite : FinitePhis filled.phiStates) (regime : MarketRegime) {ids : List String}
    (hperm : ids.Perm filled.knownStrategies)
    (hlt : .finite 1 < filled.knownAbsolute regime) :
    normalisedWeights (ids.map (filled.cachedWeight regime)) =
      normalisedWeights (ids.map fun id => filled.dynamicWeight id regime) := by
  obtain ⟨value, hvalue⟩ := hfinite.dynamicWeight regime
  have hplain : (ids.map fun id => filled.dynamicWeight id regime) =
      (ids.map value).map .finite := by
    rw [List.map_map]
    exact List.map_congr_left fun id _ => hvalue id
  have hsum : filled.knownAbsolute regime = .finite (absSum (ids.map value)) := by
    rw [absSum_eq_of_perm (hperm.map value), absSum, ← Double.sum_map_finite, List.map_map,
      List.map_map]
    unfold knownAbsolute
    congr 1
    apply List.map_congr_left
    intro id _
    rw [hvalue]
    rfl
  rw [hsum, Double.finite_lt_finite] at hlt
  have hcached : ids.map (filled.cachedWeight regime) =
      (normalise (ids.map value)).map .finite := by
    unfold normalise
    rw [if_pos hlt, List.map_map, List.map_map]
    apply List.map_congr_left
    intro id _
    unfold cachedWeight
    rw [hsum, if_pos ((Double.finite_lt_finite _ _).mpr hlt), hvalue]
    exact if_neg (lt_trans one_pos hlt).ne'
  rw [hcached, hplain, normalisedWeights_finite, normalisedWeights_finite, normalise_normalise]

/-- Cached weights of which nothing has changed are the plain ones. -/
theorem ensembleWeights_unaltered {now : Weighing} (hattached : now.allocator.attached = true)
    {filled : PortfolioAllocator} {regime : MarketRegime}
    (hcache : now.allocator.cachedDynamicWeights =
      (filled.recomputeWeights regime).cachedDynamicWeights)
    (hfinite : FinitePhis filled.phiStates) {signals : List AlphaSignal}
    (h : Unaltered filled regime now signals) :
    now.allocator.ensembleWeights now.regime signals =
      now.allocator.plainWeights now.regime signals := by
  unfold ensembleWeights plainWeights
  simp only [if_pos hattached]
  rcases h with hunknown | ⟨hsame, hnormal⟩
  · congr 1
    apply List.map_congr_left
    intro signal hmem
    rw [signalWeight_cached hattached hcache, if_neg (hunknown signal hmem)]
  · have hlive : ∀ signal ∈ signals, signal.strategyId ∈ filled.knownStrategies →
        filled.dynamicWeight signal.strategyId regime =
          now.allocator.dynamicWeight signal.strategyId now.regime := by
      intro signal hmem hknown
      obtain ⟨hregime, hphi⟩ := hsame signal hmem hknown
      unfold dynamicWeight
      rw [hregime, hphi]
    by_cases hlt : .finite 1 < filled.knownAbsolute regime
    · have hperm := hnormal.resolve_left (not_not_intro hlt)
      have hknown : ∀ signal ∈ signals, signal.strategyId ∈ filled.knownStrategies :=
        fun signal hmem => hperm.mem_iff.mp (List.mem_map_of_mem hmem)
      have hcached : signals.map (now.allocator.signalWeight now.regime) =
          (signals.map (·.strategyId)).map (filled.cachedWeight regime) := by
        rw [List.map_map]
        apply List.map_congr_left
        intro signal hmem
        rw [signalWeight_cached hattached hcache, if_pos (hknown signal hmem)]
        rfl
      rw [hcached, normalisedWeights_cached hfinite regime hperm hlt, List.map_map]
      congr 1
      apply List.map_congr_left
      intro signal hmem
      exact hlive signal hmem (hknown signal hmem)
    · congr 1
      apply List.map_congr_left
      intro signal hmem
      rw [signalWeight_cached hattached hcache]
      split
      · rename_i hknown
        unfold cachedWeight
        rw [if_neg hlt, hlive signal hmem hknown]
      · rfl

/-- Without cached weights a decision computes the plain ones. -/
theorem ensembleWeights_uncached {now : Weighing} (hattached : now.allocator.attached = true)
    (hcache : now.allocator.cachedDynamicWeights = ∅) (signals : List AlphaSignal) :
    now.allocator.ensembleWeights now.regime signals =
      now.allocator.plainWeights now.regime signals := by
  unfold ensembleWeights plainWeights
  simp only [if_pos hattached]
  congr 1
  apply List.map_congr_left
  intro signal _
  unfold signalWeight
  rw [if_pos hattached, hcache]
  rfl

/-- **Weights are not stale.** A decision in dynamic mode after any run uses the weights of
the formula, at the scores and the regime of the decision, as long as no weights have been
cached or what the latest ones were computed from is unchanged for its strategies. -/
theorem weights_plain (start : Weighing) (hdynamic : start.allocator.attached = true)
    (hempty : start.allocator.cachedDynamicWeights = ∅) (before : List Input)
    (hnumbers : Numbers start before) (signals : List AlphaSignal)
    (hcurrent : Current start before signals) :
    (weighing.run start before).allocator.ensembleWeights (weighing.run start before).regime
        signals =
      (weighing.run start before).allocator.plainWeights (weighing.run start before).regime
        signals := by
  have hattached := (attached_run start before).trans hdynamic
  rcases hcurrent with hnone | ⟨first, regime, rest, heq, hrest, hunaltered⟩
  · exact ensembleWeights_uncached hattached ((cache_run hnone).trans hempty) signals
  · have hfirst : FinitePhis (weighing.run start first).allocator.phiStates := by
      refine finitePhis_run ⟨hnumbers.1, fun states hmem => hnumbers.2 states ?_⟩
      rw [heq]
      exact List.mem_append_left _ hmem
    have hcache : (weighing.run start before).allocator.cachedDynamicWeights =
        ((weighing.run start first).allocator.recomputeWeights regime).cachedDynamicWeights := by
      rw [heq, Machine.run_append, Machine.run_cons]
      exact cache_run hrest
    exact ensembleWeights_unaltered hattached hcache hfirst hunaltered

/-- An allocator in dynamic mode without weights and scores, in a trend. -/
def inTrend : Weighing := ⟨{ attached := true }, .trend⟩

/-- A signal of each of the two strategies. -/
def bothSignals : List AlphaSignal :=
  [⟨"A", "SMA_01", .finite 1⟩, ⟨"A", "MR_01", .finite (1 / 2)⟩]

/-- Weights that were recomputed for the regime of the decision are the plain ones. -/
theorem weights_recomputed :
    (weighing.run inTrend [.recomputeWeights .trend]).allocator.ensembleWeights .trend
        bothSignals =
      (weighing.run inTrend [.recomputeWeights .trend]).allocator.plainWeights .trend
        bothSignals :=
  weights_plain inTrend rfl rfl [.recomputeWeights .trend]
    ⟨finitePhis_empty, by simp⟩ bothSignals
    (Or.inr ⟨[], .trend, [], rfl, fun _ => List.not_mem_nil, Or.inr ⟨fun _ _ _ => ⟨rfl, rfl⟩,
      Or.inr (by decide)⟩⟩)

/-- After a change of the regime a decision still uses the weights of the old one. -/
theorem weights_stale :
    ¬∀ (start : Weighing) (before : List Input) (signals : List AlphaSignal),
      start.allocator.attached = true → start.allocator.cachedDynamicWeights = ∅ →
      Numbers start before →
      (weighing.run start before).allocator.ensembleWeights (weighing.run start before).regime
          signals =
        (weighing.run start before).allocator.plainWeights (weighing.run start before).regime
          signals := by
  intro h
  have hweights := h inTrend [.recomputeWeights .trend, .regimeChange .range] bothSignals rfl rfl
    ⟨finitePhis_empty, by simp⟩
  revert hweights
  decide +kernel

end Weighing

end TradeBot
