import TradeBot.Library.SlidingWindow
import TradeBot.Risk.Halting

/-!
# The errors that the breaker counts

An error report evicts old errors from the front of the queue, and the reader of the error rate
skips them without evicting. With a clock that never goes back both count the errors since the
operator last cleared the halt that are at most 60 seconds old.
-/

namespace TradeBot

open Library

namespace RiskMonitor

/-- An error is more than 60 seconds old. -/
def expired (now t : ℕ) : Bool := decide (t + 60 * 10 ^ 9 < now)

/-- An older error expires first, and an expired one stays expired. -/
theorem expiry : Expiry expired where
  older hle h := by
    rw [expired, decide_eq_true_iff] at h ⊢
    omega
  later hle h := by
    rw [expired, decide_eq_true_iff] at h ⊢
    omega

/-- The reading at which an error is reported. -/
def Input.errorReading : Input → Option ℕ
  | .reportApiError now => some now
  | _ => none

/-- The readings at which errors were reported. -/
def errorReadings (inputs : List Input) : List ℕ := inputs.filterMap Input.errorReading

/-- The errors since the last `clearHalt`, with one more call. -/
def noted (errors : List ℕ) : Input → List ℕ
  | .reportApiError now => errors ++ [now]
  | .clearHalt => []
  | _ => errors

/-- The errors that were reported since the last `clearHalt`. -/
def errorsSinceClear (inputs : List Input) : List ℕ := inputs.foldl noted []

/-- Of the errors since the last `clearHalt`, those that are at most 60 seconds old. -/
def errorWindow (inputs : List Input) (now : ℕ) : List ℕ :=
  (errorsSinceClear inputs).filter fun t => decide (now ≤ t + 60 * 10 ^ 9)

/-- Two spellings of the same window. -/
theorem filter_expired (errors : List ℕ) (now : ℕ) :
    (errors.filter fun t => !expired now t) =
      errors.filter fun t => decide (now ≤ t + 60 * 10 ^ 9) := by
  apply List.filter_congr
  intro t _
  rw [expired, ← decide_not, decide_eq_decide, not_lt]

/-- A reported error is one more reading of the clock. -/
theorem errorReadings_concat (inputs : List Input) (now : ℕ) :
    errorReadings (inputs ++ [.reportApiError now]) = errorReadings inputs ++ [now] := by
  rw [errorReadings, List.filterMap_append]
  rfl

/-- And one more error since the last clearing. -/
theorem errorsSinceClear_concat (inputs : List Input) (now : ℕ) :
    errorsSinceClear (inputs ++ [.reportApiError now]) = errorsSinceClear inputs ++ [now] := by
  rw [errorsSinceClear, List.foldl_append]
  rfl

/-- Errors since the last `clearHalt` are errors. -/
theorem errorsSinceClear_sublist (inputs : List Input) :
    (errorsSinceClear inputs).Sublist (errorReadings inputs) := by
  induction inputs using List.reverseRecOn with
  | nil => exact List.Sublist.refl _
  | append_singleton inputs input ih =>
    rw [errorsSinceClear, errorReadings, List.foldl_append, List.filterMap_append]
    cases input with
    | reportApiError now => exact ih.append (List.Sublist.refl [now])
    | clearHalt => exact List.nil_sublist _
    | _ => exact ih.trans (List.sublist_append_left _ _)

section Calls

variable (sqrt : Double → Double)

/-- One call takes the queue along with the errors since the last `clearHalt`. -/
theorem holdsWindow_handle {risk : RiskMonitor} {errors : List ℕ}
    (h : HoldsWindow expired errors risk.errorTimestamps) (input : Input) :
    HoldsWindow expired (noted errors input) (risk.handle sqrt input).errorTimestamps := by
  cases input with
  | reportApiError now => exact h.admit
  | clearHalt => exact holdsWindow_nil
  | reportLatency latencyMs => exact h
  | clearLatencyBreach => exact h
  | updateLiveVolatility liveAtr baselineAtr =>
    change HoldsWindow expired errors
      (RiskEngine.updateLiveVolatility _ liveAtr baselineAtr).errorTimestamps
    rw [RiskEngine.errorTimestamps_of_breaker (RiskEngine.breaker_updateLiveVolatility _ _ _)]
    exact h
  | pushEquityReturn equity =>
    change HoldsWindow expired errors (risk.pushEquityReturn sqrt equity).errorTimestamps
    rw [RiskEngine.errorTimestamps_of_breaker (breaker_pushEquityReturn sqrt risk equity)]
    exact h
  | pushAssetReturn equity symbol closingPrice positionValue =>
    change HoldsWindow expired errors
      (risk.pushAssetReturn sqrt equity symbol closingPrice positionValue).errorTimestamps
    rw [RiskEngine.errorTimestamps_of_breaker (breaker_pushAssetReturn sqrt risk _ _ _ _)]
    exact h
  | syncPosition symbol quantity => exact h
  | integrity ok => exact h

/-- After every run the queue holds the errors since the last `clearHalt`, up to expired ones. -/
theorem holdsWindow_run {risk : RiskMonitor} (hstart : risk.errorTimestamps = [])
    (inputs : List Input) : HoldsWindow expired (errorsSinceClear inputs)
      ((monitoring sqrt).run risk inputs).errorTimestamps := by
  induction inputs using List.reverseRecOn with
  | nil =>
    rw [Machine.run_nil, hstart]
    exact holdsWindow_nil
  | append_singleton inputs input ih =>
    rw [errorsSinceClear, List.foldl_append, Machine.run_append]
    exact holdsWindow_handle sqrt ih input

/-- A window has fewer errors than a word can count. -/
theorem length_errorWindow_lt {inputs : List Input} {now : ℕ}
    (hnow : ∀ t ∈ errorReadings inputs, t ≤ now)
    (hfew : ((errorReadings inputs).filter fun t =>
      decide (t ≤ now ∧ now ≤ t + 60 * 10 ^ 9)).length < 2 ^ 32) :
    (errorWindow inputs now).length < 2 ^ 32 := by
  refine lt_of_le_of_lt (((errorsSinceClear_sublist inputs).filter _).length_le.trans ?_) hfew
  apply le_of_eq
  congr 1
  apply List.filter_congr
  intro t ht
  rw [decide_eq_decide]
  exact (and_iff_right (hnow t ht)).symm

/-- **The error window.** With a clock that never goes back and fewer errors in any 60 seconds than
a word can count, every report leaves exactly the errors since the last `clearHalt` that are at
most 60 seconds old and halts trading exactly when they exceed the threshold; and at any later
time the error rate is the number of such errors that are still at most 60 seconds old. -/
theorem error_window {risk : RiskMonitor} (hstart : risk.errorTimestamps = [])
    {inputs : List Input} (hclock : (errorReadings inputs).Pairwise (· ≤ ·))
    (hfew : ∀ now, ((errorReadings inputs).filter fun t =>
      decide (t ≤ now ∧ now ≤ t + 60 * 10 ^ 9)).length < 2 ^ 32) :
    (∀ before now after, inputs = before ++ .reportApiError now :: after →
      let earlier := (monitoring sqrt).run risk before
      let reported := (monitoring sqrt).next earlier (.reportApiError now)
      let window := errorWindow (before ++ [.reportApiError now]) now
      reported.errorTimestamps = window ∧
        (reported.halted = true ↔ earlier.halted = true ∨
          (earlier.sysCfg.map (·.errorRateThresh)).getD 5 < window.length)) ∧
    ∀ now, (∀ t ∈ errorReadings inputs, t ≤ now) →
      ((monitoring sqrt).run risk inputs).currentErrorRate now =
        (errorWindow inputs now).length := by
  constructor
  · rintro before now after rfl earlier reported window
    have hsplit : errorReadings (before ++ .reportApiError now :: after) =
        errorReadings (before ++ [.reportApiError now]) ++ errorReadings after := by
      rw [List.append_cons, errorReadings, List.filterMap_append]
      rfl
    rw [hsplit] at hclock hfew
    have hsorted := (List.pairwise_append.mp hclock).1
    rw [errorReadings_concat] at hsorted
    have hnow : ∀ t ∈ errorReadings (before ++ [.reportApiError now]), t ≤ now := by
      rw [errorReadings_concat]
      intro t ht
      rcases List.mem_append.mp ht with hearlier | hlast
      · exact (List.pairwise_append.mp hsorted).2.2 t hearlier now (List.mem_singleton_self now)
      · exact (List.mem_singleton.mp hlast).le
    have hlt : window.length < 2 ^ 32 := by
      apply length_errorWindow_lt hnow
      refine lt_of_le_of_lt ?_ (hfew now)
      rw [List.filter_append, List.length_append]
      exact Nat.le_add_right _ _
    have hwindow : RiskEngine.recentErrors (earlier.errorTimestamps ++ [now]) now = window := by
      have hadded : (errorsSinceClear before ++ [now]).Pairwise (· ≤ ·) :=
        hsorted.sublist ((errorsSinceClear_sublist before).append (List.Sublist.refl [now]))
      have hadmitted := (holdsWindow_run sqrt hstart before).admitted_eq expiry hadded
      rw [filter_expired, ← errorsSinceClear_concat] at hadmitted
      exact hadmitted
    refine ⟨hwindow, ?_⟩
    change (earlier.halted ||
      decide (_ < (RiskEngine.recentErrors _ now).length % 2 ^ 32)) = true ↔ _
    rw [hwindow, Nat.mod_eq_of_lt hlt, Bool.or_eq_true, decide_eq_true_iff]
  · intro now hnow
    have hholds := holdsWindow_run sqrt hstart inputs
    have hlater : ∀ t ∈ errorsSinceClear inputs, t ≤ now :=
      fun t ht => hnow t ((errorsSinceClear_sublist inputs).subset ht)
    have hlt := length_errorWindow_lt hnow (hfew now)
    rw [errorWindow, ← filter_expired, hholds.filter_eq expiry hlater, filter_expired] at hlt ⊢
    exact Nat.mod_eq_of_lt hlt

end Calls

/-- Errors at one, thirty and ninety-one seconds: the last report evicts the first two, and a
minute after it no other error is counted. -/
theorem error_window_three :
    let second : ℕ := 10 ^ 9
    let inputs : List Input := [.reportApiError second, .reportApiError (30 * second),
      .reportApiError (91 * second)]
    ((monitoring id).run .create inputs).errorTimestamps = [91 * second] ∧
      ((monitoring id).run .create inputs).currentErrorRate (151 * second) = 1 := by
  intro second inputs
  have hfew (now : ℕ) : ((errorReadings inputs).filter fun t =>
      decide (t ≤ now ∧ now ≤ t + 60 * 10 ^ 9)).length < 2 ^ 32 :=
    lt_of_le_of_lt (List.length_filter_le _ _) (by decide)
  obtain ⟨hreports, hrate⟩ := @error_window id .create rfl inputs (by decide) hfew
  obtain ⟨hqueue, -⟩ := hreports [.reportApiError second, .reportApiError (30 * second)]
    (91 * second) [] rfl
  exact ⟨hqueue.trans (by decide), (hrate (151 * second) (by decide)).trans (by decide)⟩

end RiskMonitor

end TradeBot
