import TradeBot.RiskMonitor

/-!
# What the calls on the risk engine leave alone

Observations of equity and of assets write return windows and what is derived from them;
volatility scaling writes the effective limits.
-/

namespace TradeBot

open Library

namespace RiskEngine

/-- Volatility scaling writes the effective limits. -/
theorem updateLiveVolatility_eq (risk : RiskEngine) (liveAtr baselineAtr : Double) :
    ∃ maxPositions varLimit scaled, risk.updateLiveVolatility liveAtr baselineAtr = { risk with
      effectiveMaxPositions := maxPositions
      effectiveVarLimit := varLimit
      volatilityScaled := scaled } := by
  unfold updateLiveVolatility
  split
  · exact ⟨_, _, _, rfl⟩
  · dsimp only
    split
    · exact ⟨_, _, _, rfl⟩
    · split
      · exact ⟨_, _, _, rfl⟩
      · split
        · exact ⟨_, _, _, rfl⟩
        · exact ⟨_, _, _, rfl⟩

/-- What API errors have done to a risk engine. -/
def breaker (risk : RiskEngine) : List ℕ × Bool := (risk.errorTimestamps, risk.halted)

/-- An untouched circuit breaker has its old error timestamps. -/
theorem errorTimestamps_of_breaker {risk next : RiskEngine} (h : next.breaker = risk.breaker) :
    next.errorTimestamps = risk.errorTimestamps := congrArg Prod.fst h

/-- And is halted or not as before. -/
theorem halted_of_breaker {risk next : RiskEngine} (h : next.breaker = risk.breaker) :
    next.halted = risk.halted := congrArg Prod.snd h

/-- Volatility scaling does not touch the circuit breaker. -/
theorem breaker_updateLiveVolatility (risk : RiskEngine) (liveAtr baselineAtr : Double) :
    (risk.updateLiveVolatility liveAtr baselineAtr).breaker = risk.breaker := by
  obtain ⟨_, _, _, h⟩ := risk.updateLiveVolatility_eq liveAtr baselineAtr
  rw [h]
  rfl

/-- Nor the value at risk. -/
theorem currentVaR95_updateLiveVolatility (risk : RiskEngine) (liveAtr baselineAtr : Double) :
    (risk.updateLiveVolatility liveAtr baselineAtr).currentVaR95 = risk.currentVaR95 := by
  obtain ⟨_, _, _, h⟩ := risk.updateLiveVolatility_eq liveAtr baselineAtr
  rw [h]

end RiskEngine

namespace RiskMonitor

variable (sqrt : Double → Double)

/-- A pushed equity return does not touch the circuit breaker. -/
theorem breaker_pushEquityReturn (risk : RiskMonitor) (equity : Double) :
    (risk.pushEquityReturn sqrt equity).breaker = risk.breaker := by
  unfold pushEquityReturn
  dsimp only
  split
  · split <;> rfl
  · rfl

/-- Nor does a rebuilt covariance matrix. -/
theorem breaker_rebuildCovMatrix (risk : RiskMonitor) :
    risk.rebuildCovMatrix.breaker = risk.breaker := by
  unfold rebuildCovMatrix
  dsimp only
  split <;> rfl

/-- Nor the diversified value at risk. -/
theorem breaker_updateDiversifiedVaR (risk : RiskMonitor) (equity : Double) :
    (risk.updateDiversifiedVaR sqrt equity).breaker = risk.breaker := by
  unfold updateDiversifiedVaR
  dsimp only
  split <;> rfl

/-- An observation of an asset is no API error. -/
theorem breaker_pushAssetReturn (risk : RiskMonitor) (equity : Double) (symbol : String)
    (closingPrice positionValue : Double) :
    (risk.pushAssetReturn sqrt equity symbol closingPrice positionValue).breaker =
      risk.breaker := by
  unfold pushAssetReturn
  dsimp only
  split
  · rw [breaker_updateDiversifiedVaR, breaker_rebuildCovMatrix]
  · rw [breaker_rebuildCovMatrix]

/-- A pushed equity return leaves the states of the assets. -/
theorem assetStates_pushEquityReturn (risk : RiskMonitor) (equity : Double) :
    (risk.pushEquityReturn sqrt equity).assetStates = risk.assetStates := by
  unfold pushEquityReturn
  dsimp only
  split
  · split <;> rfl
  · rfl

/-- A rebuilt covariance matrix is made from them and leaves them. -/
theorem assetStates_rebuildCovMatrix (risk : RiskMonitor) :
    risk.rebuildCovMatrix.assetStates = risk.assetStates := by
  unfold rebuildCovMatrix
  dsimp only
  split <;> rfl

/-- The diversified value at risk reads them only. -/
theorem assetStates_updateDiversifiedVaR (risk : RiskMonitor) (equity : Double) :
    (risk.updateDiversifiedVaR sqrt equity).assetStates = risk.assetStates := by
  unfold updateDiversifiedVaR
  dsimp only
  split <;> rfl

/-- An observation of an asset records it. -/
theorem assetStates_pushAssetReturn (risk : RiskMonitor) (equity : Double) (symbol : String)
    (closingPrice positionValue : Double) :
    (risk.pushAssetReturn sqrt equity symbol closingPrice positionValue).assetStates =
      risk.assetStates.insert symbol (risk.observe symbol closingPrice positionValue) := by
  unfold pushAssetReturn
  dsimp only
  split
  · rw [assetStates_updateDiversifiedVaR, assetStates_rebuildCovMatrix]
  · rw [assetStates_rebuildCovMatrix]

end RiskMonitor

end TradeBot
