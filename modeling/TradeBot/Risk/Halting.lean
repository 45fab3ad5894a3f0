import TradeBot.Risk.Frames
import TradeBot.Library.Machine

/-!
# The halt of the error-rate breaker

Error reports and notifications about the integrity of market data write one flag. A halt
that the breaker has set stays until the operator clears it, as long as no notification
reports that integrity is restored.
-/

namespace TradeBot

open Library

namespace RiskMonitor

/-- The calls on the risk engine of a running system, with the clock reading or the equity
that they read. `main` passes the integrity of market data on. -/
inductive Input where
  | reportApiError (now : ℕ)
  | reportLatency (latencyMs : ℕ)
  | clearLatencyBreach
  | updateLiveVolatility (liveAtr baselineAtr : Double)
  | pushEquityReturn (currentEquity : Double)
  | pushAssetReturn (equity : Double) (symbol : String) (closingPrice positionValue : Double)
  | syncPosition (symbol : String) (quantity : Double)
  | integrity (ok : Bool)
  | clearHalt
  deriving DecidableEq

section Calls

variable (sqrt : Double → Double)

/-- The risk engine after a call. -/
def handle (risk : RiskMonitor) : Input → RiskMonitor
  | .reportApiError now => risk.withEngine (risk.reportApiError now)
  | .reportLatency latencyMs => risk.withEngine (risk.reportLatency latencyMs)
  | .clearLatencyBreach => risk.withEngine risk.clearLatencyBreach
  | .updateLiveVolatility liveAtr baselineAtr =>
    risk.withEngine (risk.updateLiveVolatility liveAtr baselineAtr)
  | .pushEquityReturn currentEquity => risk.pushEquityReturn sqrt currentEquity
  | .pushAssetReturn equity symbol closingPrice positionValue =>
    risk.pushAssetReturn sqrt equity symbol closingPrice positionValue
  | .syncPosition symbol quantity => risk.withEngine (risk.syncPosition symbol quantity)
  | .integrity ok => risk.withEngine (risk.setHaltTrading !ok)
  | .clearHalt => risk.withEngine risk.clearHalt

/-- The risk engine as a machine. -/
def monitoring : Machine RiskMonitor Input Unit where
  step risk i := (risk.handle sqrt i, ())

/-- A report of an error at a clock reading trips the breaker. -/
def TripsBreaker (risk : RiskMonitor) (now : ℕ) : Prop :=
  (risk.sysCfg.map (·.errorRateThresh)).getD 5 <
    (RiskEngine.recentErrors (risk.errorTimestamps ++ [now]) now).length % 2 ^ 32

instance (risk : RiskMonitor) (now : ℕ) : Decidable (risk.TripsBreaker now) :=
  inferInstanceAs (Decidable (_ < _))

/-- Only the operator and a notification of restored integrity end a halt. -/
theorem halted_handle {risk : RiskMonitor} (h : risk.halted = true) {i : Input}
    (hclear : i ≠ .clearHalt) (hrestored : i ≠ .integrity true) :
    (risk.handle sqrt i).halted = true := by
  cases i with
  | reportApiError now =>
    change (risk.halted || _) = true
    rw [h, Bool.true_or]
  | reportLatency latencyMs => exact h
  | clearLatencyBreach => exact h
  | updateLiveVolatility liveAtr baselineAtr =>
    change (RiskEngine.updateLiveVolatility _ liveAtr baselineAtr).halted = true
    rw [RiskEngine.halted_of_breaker (RiskEngine.breaker_updateLiveVolatility _ _ _)]
    exact h
  | pushEquityReturn equity =>
    change (risk.pushEquityReturn sqrt equity).halted = true
    rw [RiskEngine.halted_of_breaker (breaker_pushEquityReturn sqrt risk equity)]
    exact h
  | pushAssetReturn equity symbol closingPrice positionValue =>
    change (risk.pushAssetReturn sqrt equity symbol closingPrice positionValue).halted = true
    rw [RiskEngine.halted_of_breaker (breaker_pushAssetReturn sqrt risk _ _ _ _)]
    exact h
  | syncPosition symbol quantity => exact h
  | integrity ok =>
    cases ok with
    | false => rfl
    | true => exact absurd rfl hrestored
  | clearHalt => exact absurd rfl hclear

/-- A report that trips the breaker halts trading. -/
theorem halted_of_tripsBreaker {risk : RiskMonitor} {now : ℕ} (h : risk.TripsBreaker now) :
    (risk.handle sqrt (.reportApiError now)).halted = true := by
  change (risk.halted || decide _) = true
  rw [Bool.or_eq_true, decide_eq_true_iff]
  exact Or.inr h

/-- A halted engine stays halted until it is cleared or its integrity is restored. -/
theorem halted_run {risk : RiskMonitor} (h : risk.halted = true) {inputs : List Input}
    (hclear : .clearHalt ∉ inputs) (hrestored : .integrity true ∉ inputs) :
    ((monitoring sqrt).run risk inputs).halted = true := by
  have hkept : (monitoring sqrt).Along
      (fun _ i => i ≠ .clearHalt ∧ i ≠ .integrity true) risk inputs :=
    Machine.along_of_forall (fun i hi => ⟨fun heq => hclear (heq ▸ hi),
      fun heq => hrestored (heq ▸ hi)⟩) risk
  exact Machine.invariant_run_of_along (I := fun r => r.halted = true)
    (fun r i hr hi => halted_handle sqrt hr hi.1 hi.2) h hkept

/-- **The halt is latched.** After a report that tripped the breaker nothing can be traded
until the halt is cleared, as long as no notification reports that integrity is restored. -/
theorem halted_until_cleared (risk : RiskMonitor) (before after : List Input) (now : ℕ)
    (htrips : ((monitoring sqrt).run risk before).TripsBreaker now)
    (hclear : .clearHalt ∉ after) (hrestored : .integrity true ∉ after)
    (portfolio : PortfolioManager) :
    ((monitoring sqrt).run risk (before ++ .reportApiError now :: after)).canTrade portfolio =
      false := by
  rw [Machine.run_append, Machine.run_cons]
  have hhalted := halted_run sqrt (halted_of_tripsBreaker sqrt htrips) hclear hrestored
  unfold RiskEngine.canTrade
  exact if_pos hhalted

end Calls

/-- The sixth error of a minute trips the breaker, and an unrelated call follows. -/
theorem halted_after_sixErrors :
    ((monitoring id).run create
      (List.replicate 5 (.reportApiError 0) ++ .reportApiError 0 :: [.reportLatency 1])).canTrade
        .fresh = false :=
  halted_until_cleared id create (List.replicate 5 (.reportApiError 0)) [.reportLatency 1] 0
    (by decide) (by decide) (by decide) .fresh

/-- Restored integrity of market data lifts the halt of the error-rate breaker. -/
theorem not_halted_restored :
    ¬∀ (sqrt : Double → Double) (risk : RiskMonitor) (before after : List Input) (now : ℕ)
      (portfolio : PortfolioManager), ((monitoring sqrt).run risk before).TripsBreaker now →
      .clearHalt ∉ after →
      ((monitoring sqrt).run risk (before ++ .reportApiError now :: after)).canTrade portfolio =
        false := by
  intro h
  have htraded := h id create (List.replicate 5 (.reportApiError 0)) [.integrity true] 0 .fresh
    (by decide) (by decide)
  revert htraded
  decide +kernel

end RiskMonitor

end TradeBot
