import TradeBot.Risk.Halting
import TradeBot.Library.RowMajor

/-!
# The value at risk of several assets

Two calls write the value at risk that the gate reads. An observation of an asset price
derives it from the covariances of the recorded returns; an observation of the equity
derives it from the returns of the equity alone, also while assets are observed.
-/

namespace TradeBot

open Library

namespace RiskMonitor

/-- The number of returns that every observed symbol has. -/
def sharedLength (risk : RiskMonitor) : ℕ :=
  ((risk.observedAssets.map risk.assetReturns).map List.length).foldl min (2 ^ 64 - 1)

/-- The most recent returns of a symbol, as many as every observed symbol has. -/
def sharedReturns (risk : RiskMonitor) (symbol : String) : List Double :=
  (risk.assetReturns symbol).drop ((risk.assetReturns symbol).length - risk.sharedLength)

/-- The value of the position in a symbol, relative to an equity. -/
def weight (risk : RiskMonitor) (equity : Double) (symbol : String) : Double :=
  (risk.assetStates.lookup symbol).elim 0 (·.positionValue) / equity

/-- The covariance of the recorded returns of two symbols. -/
def returnCovariance (risk : RiskMonitor) (x y : String) : Double :=
  covariance (.ofNat risk.sharedLength) (risk.sharedReturns x) (risk.sharedReturns y)

section ValueAtRisk

variable (sqrt : Double → Double)

/-- The value at risk at an equity that the recorded returns and position values give,
through the covariances of all observed symbols. -/
def portfolioVaR (risk : RiskMonitor) (equity : Double) : Double :=
  let variance := Double.sum (rowMajor
    (fun x y => risk.weight equity x * risk.returnCovariance x y * risk.weight equity y)
    risk.observedAssets risk.observedAssets)
  z95 * (if 0 < variance then sqrt variance else 0) * equity

/-- The diversified value at risk is computed from the asset states alone. -/
theorem portfolioVaR_congr {first second : RiskMonitor}
    (h : first.assetStates = second.assetStates) (equity : Double) :
    first.portfolioVaR sqrt equity = second.portfolioVaR sqrt equity := by
  have honly (risk : RiskMonitor) : risk.portfolioVaR sqrt equity =
      { create with assetStates := risk.assetStates }.portfolioVaR sqrt equity := rfl
  rw [honly first, honly second, h]

/-- So is the list of the observed assets. -/
theorem observedAssets_congr {first second : RiskMonitor}
    (h : first.assetStates = second.assetStates) :
    first.observedAssets = second.observedAssets := by
  unfold observedAssets
  rw [h]

/-- The matrix that is rebuilt holds the covariances of the observed symbols. -/
theorem rebuildCovMatrix_of_observed {risk : RiskMonitor} (h : risk.observedAssets ≠ []) :
    risk.rebuildCovMatrix = { risk with
      assetOrder := risk.observedAssets
      covMatrix := rowMajor risk.returnCovariance risk.observedAssets risk.observedAssets } := by
  let shared := (risk.observedAssets.map risk.assetReturns).map fun window =>
    window.drop (window.length - risk.sharedLength)
  have hmatrix : (shared.flatMap fun lhs =>
      shared.map fun rhs => covariance (.ofNat risk.sharedLength) lhs rhs) =
        rowMajor risk.returnCovariance risk.observedAssets risk.observedAssets := by
    simp only [shared, rowMajor, List.flatMap_map, List.map_map]
    rfl
  rw [← hmatrix]
  exact if_neg h

/-- The loop over indices computes the value at risk of the recorded returns. -/
theorem currentVaR95_rebuilt {risk : RiskMonitor} (h : risk.observedAssets ≠ [])
    (equity : Double) :
    (risk.rebuildCovMatrix.updateDiversifiedVaR sqrt equity).currentVaR95 =
      risk.portfolioVaR sqrt equity := by
  rw [rebuildCovMatrix_of_observed h]
  unfold updateDiversifiedVaR
  dsimp only
  rw [if_neg (by
    rintro (hcount | hmatrix)
    · exact h (List.length_eq_zero_iff.mp hcount)
    · exact rowMajor_ne_nil _ h h hmatrix)]
  have hterms : rowMajor
      (fun i j => (risk.observedAssets.map (risk.weight equity)).getD i 0
        * (rowMajor risk.returnCovariance risk.observedAssets risk.observedAssets).getD
            (i * risk.observedAssets.length + j) 0
        * (risk.observedAssets.map (risk.weight equity)).getD j 0)
      (List.range risk.observedAssets.length) (List.range risk.observedAssets.length) =
      rowMajor
        (fun x y => risk.weight equity x * risk.returnCovariance x y * risk.weight equity y)
        risk.observedAssets risk.observedAssets := by
    apply rowMajor_range
    intro i j x y hx hy
    simp only [List.getD_eq_getElem?_getD, List.getElem?_map, hx, hy, Option.map_some,
      Option.getD_some, getElem?_rowMajor risk.returnCovariance hx hy]
  unfold portfolioVaR
  rw [← hterms]
  rfl

/-- An observation of the equity derives a value at risk: at least two returns are kept. -/
def DerivesVaR (risk : RiskMonitor) (currentEquity : Double) : Prop :=
  (risk.prevEquityValid ∧ 0 < risk.prevEquity) ∧
    2 ≤ (pushWindow risk.varWindow risk.returnWindow
      ((currentEquity - risk.prevEquity) / risk.prevEquity)).length

/-- The engine with an observation of an asset recorded, before anything is derived from it. -/
def recorded (risk : RiskMonitor) (symbol : String) (closingPrice positionValue : Double) :
    RiskMonitor :=
  { risk with
    multiAssetMode := true
    assetStates := risk.assetStates.insert symbol
      (risk.observe symbol closingPrice positionValue) }

/-- A call keeps the value at risk that of the observed assets: no observation of the equity
derives one beside them, and what is recorded of an asset is evaluated. -/
def KeepsVaR (risk : RiskMonitor) : Input → Prop
  | .pushEquityReturn currentEquity => risk.observedAssets = [] ∨ ¬risk.DerivesVaR currentEquity
  | .pushAssetReturn equity symbol closingPrice positionValue =>
    0 < equity ∨ (risk.recorded symbol closingPrice positionValue).observedAssets = []
  | _ => True

instance (risk : RiskMonitor) (currentEquity : Double) :
    Decidable (risk.DerivesVaR currentEquity) :=
  inferInstanceAs (Decidable (_ ∧ _))

instance (risk : RiskMonitor) : ∀ i, Decidable (risk.KeepsVaR i)
  | .reportApiError _ | .reportLatency _ | .clearLatencyBreach | .updateLiveVolatility _ _
  | .syncPosition _ _ | .integrity _ | .clearHalt => inferInstanceAs (Decidable True)
  | .pushEquityReturn currentEquity =>
    inferInstanceAs (Decidable (risk.observedAssets = [] ∨ ¬risk.DerivesVaR currentEquity))
  | .pushAssetReturn equity symbol closingPrice positionValue =>
    inferInstanceAs (Decidable
      (0 < equity ∨ (risk.recorded symbol closingPrice positionValue).observedAssets = []))

/-- The equity of the latest observation of an asset that was made with positive equity,
after a call. -/
def assetEquity (latest : Option Double) : Input → Option Double
  | .pushAssetReturn equity _ _ _ => if 0 < equity then some equity else latest
  | _ => latest

/-- The equity of the latest observation of an asset that was made with positive equity. -/
def latestAssetEquity (inputs : List Input) : Option Double := inputs.foldl assetEquity none

/-- The value at risk is that of the observed assets at an equity. -/
def VaRAgrees (risk : RiskMonitor) (latest : Option Double) : Prop :=
  risk.observedAssets ≠ [] →
    ∃ equity, latest = some equity ∧ risk.currentVaR95 = risk.portfolioVaR sqrt equity

/-- Agreement is kept where neither the asset states nor the value at risk change. -/
theorem VaRAgrees.of_unchanged {first second : RiskMonitor} {latest : Option Double}
    (h : first.VaRAgrees sqrt latest) (hstates : second.assetStates = first.assetStates)
    (hvar : second.currentVaR95 = first.currentVaR95) : second.VaRAgrees sqrt latest := by
  intro hobserved
  rw [observedAssets_congr hstates] at hobserved
  obtain ⟨equity, hlatest, hfirst⟩ := h hobserved
  exact ⟨equity, hlatest, by rw [hvar, hfirst, portfolioVaR_congr sqrt hstates]⟩

/-- An equity return that derives no value at risk leaves the old one. -/
theorem currentVaR95_pushEquityReturn {risk : RiskMonitor} {equity : Double}
    (h : ¬risk.DerivesVaR equity) :
    (risk.pushEquityReturn sqrt equity).currentVaR95 = risk.currentVaR95 := by
  unfold pushEquityReturn
  dsimp only
  split
  · rename_i hprevious
    rw [if_neg fun hlength => h ⟨hprevious, hlength⟩]
  · rfl

/-- An observation of an asset with positive equity evaluates what is recorded. -/
theorem currentVaR95_pushAssetReturn {risk : RiskMonitor} {equity : Double} {symbol : String}
    {closingPrice positionValue : Double} (hequity : 0 < equity)
    (hobserved : (risk.recorded symbol closingPrice positionValue).observedAssets ≠ []) :
    (risk.pushAssetReturn sqrt equity symbol closingPrice positionValue).currentVaR95 =
      (risk.recorded symbol closingPrice positionValue).portfolioVaR sqrt equity := by
  rw [← currentVaR95_rebuilt sqrt hobserved]
  unfold pushAssetReturn
  dsimp only
  rw [if_pos hequity]
  rfl

/-- A call that keeps the value at risk that of the observed assets, at the equity that the
latest of them read. -/
theorem VaRAgrees.handle {risk : RiskMonitor} {latest : Option Double}
    (h : risk.VaRAgrees sqrt latest) {i : Input} (hkept : risk.KeepsVaR i) :
    (risk.handle sqrt i).VaRAgrees sqrt (assetEquity latest i) := by
  cases i with
  | reportApiError now => exact h.of_unchanged sqrt rfl rfl
  | reportLatency latencyMs => exact h.of_unchanged sqrt rfl rfl
  | clearLatencyBreach => exact h.of_unchanged sqrt rfl rfl
  | updateLiveVolatility liveAtr baselineAtr =>
    exact h.of_unchanged sqrt rfl
      (RiskEngine.currentVaR95_updateLiveVolatility _ liveAtr baselineAtr)
  | syncPosition symbol quantity => exact h.of_unchanged sqrt rfl rfl
  | integrity ok => exact h.of_unchanged sqrt rfl rfl
  | clearHalt => exact h.of_unchanged sqrt rfl rfl
  | pushEquityReturn equity =>
    have hstates := assetStates_pushEquityReturn sqrt risk equity
    rcases hkept with hnone | hunderived
    · intro hobserved
      exact absurd ((observedAssets_congr hstates).trans hnone) hobserved
    · exact h.of_unchanged sqrt hstates (currentVaR95_pushEquityReturn sqrt hunderived)
  | pushAssetReturn equity symbol closingPrice positionValue =>
    have hstates :
        (risk.pushAssetReturn sqrt equity symbol closingPrice positionValue).assetStates =
          (risk.recorded symbol closingPrice positionValue).assetStates :=
      assetStates_pushAssetReturn sqrt risk equity symbol closingPrice positionValue
    intro hobserved
    change (risk.pushAssetReturn sqrt equity symbol closingPrice positionValue).observedAssets
      ≠ [] at hobserved
    rw [observedAssets_congr hstates] at hobserved
    have hequity : 0 < equity := hkept.resolve_right hobserved
    refine ⟨equity, if_pos hequity, ?_⟩
    change (risk.pushAssetReturn sqrt equity symbol closingPrice positionValue).currentVaR95 =
      (risk.pushAssetReturn sqrt equity symbol closingPrice positionValue).portfolioVaR sqrt equity
    rw [currentVaR95_pushAssetReturn sqrt hequity hobserved, portfolioVaR_congr sqrt hstates]

/-- Agreement is kept by a run whose calls keep it. -/
theorem VaRAgrees.run {risk : RiskMonitor} {latest : Option Double}
    (h : risk.VaRAgrees sqrt latest) {inputs : List Input}
    (hkept : (monitoring sqrt).Along (fun r i => r.KeepsVaR i) risk inputs) :
    ((monitoring sqrt).run risk inputs).VaRAgrees sqrt (inputs.foldl assetEquity latest) := by
  induction inputs generalizing risk latest with
  | nil => exact h
  | cons i inputs ih => exact ih (h.handle sqrt hkept.1) hkept.2

/-- **The covariances decide.** As long as no observation of the equity derives a value at
risk beside that of the observed assets, and none of an asset is recorded without positive
equity, the gate reads the value at risk of the recorded returns and position values. -/
theorem covarianceVaR_dominates (risk : RiskMonitor) (hstart : risk.observedAssets = [])
    (inputs : List Input)
    (hkept : (monitoring sqrt).Along (fun r i => r.KeepsVaR i) risk inputs)
    (hobserved : ((monitoring sqrt).run risk inputs).observedAssets ≠ []) :
    ∃ equity, latestAssetEquity inputs = some equity ∧
      ((monitoring sqrt).run risk inputs).currentVaR95 =
        ((monitoring sqrt).run risk inputs).portfolioVaR sqrt equity := by
  have hinitial : risk.VaRAgrees sqrt none := fun hne => absurd hstart hne
  exact hinitial.run sqrt hkept hobserved

end ValueAtRisk

/-- Three prices of one asset, at an equity of one thousand. -/
def threePrices : List Input :=
  [.pushAssetReturn (.finite 1000) "A" (.finite 100) (.finite 500),
    .pushAssetReturn (.finite 1000) "A" (.finite 110) (.finite 500),
    .pushAssetReturn (.finite 1000) "A" (.finite 99) (.finite 500)]

/-- Two returns of an asset give the value at risk of its variance. -/
theorem covarianceVaR_threePrices : ∃ equity, latestAssetEquity threePrices = some equity ∧
    ((monitoring id).run create threePrices).currentVaR95 =
      ((monitoring id).run create threePrices).portfolioVaR id equity :=
  covarianceVaR_dominates id create (by decide) threePrices (by decide +kernel)
    (by decide +kernel)

/-- Three observations of an unchanged equity replace the value at risk of the asset by zero. -/
theorem covarianceVaR_replaced :
    ¬∀ (sqrt : Double → Double) (risk : RiskMonitor) (inputs : List Input),
      risk.observedAssets = [] → ((monitoring sqrt).run risk inputs).observedAssets ≠ [] →
      ∃ equity, latestAssetEquity inputs = some equity ∧
        ((monitoring sqrt).run risk inputs).currentVaR95 =
          ((monitoring sqrt).run risk inputs).portfolioVaR sqrt equity := by
  intro h
  obtain ⟨equity, hequity, hagrees⟩ := h id create
    (threePrices ++ List.replicate 3 (.pushEquityReturn (.finite 1000))) (by decide)
    (by decide +kernel)
  have hvalue : latestAssetEquity (threePrices ++
      List.replicate 3 (.pushEquityReturn (.finite 1000))) = some (.finite 1000) := by
    decide +kernel
  rw [hvalue, Option.some_inj] at hequity
  subst hequity
  revert hagrees
  decide +kernel

end RiskMonitor

end TradeBot
