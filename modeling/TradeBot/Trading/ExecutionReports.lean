import TradeBot.Risk.Frames
import TradeBot.Trading.PaperSteps

/-!
# API errors that engines report

Every engine is told of every execution, and reports an API error where it cannot book it; so
it does for each execution of another engine's order. The reports of one execution are listed
here as the engines make them, and everything else that a call or a callback does leaves the
circuit breaker of the risk engine alone.
-/

namespace TradeBot

open Library

/-- The order that a call hands to the adapter. -/
def System.Progress.submitted {α : Type} : System.Progress α → Option NormalizedOrder
  | .submitting order => some order
  | .returned _ => none

namespace System

variable {n : ℕ} (s : System n)

/-- The engine trades the symbol of the order. -/
def OwnsOrder (i : Fin n) (localOrderId : ℕ) : Prop :=
  ∃ record ∈ s.gateway.orderLifecycle localOrderId,
    record.request.canonicalSymbol = (s.engines i).symbol

instance (i : Fin n) (localOrderId : ℕ) : Decidable (s.OwnsOrder i localOrderId) :=
  inferInstanceAs (Decidable (∃ record ∈ _, _))

/-- Whether `onBrokerExecution` of an engine reports an API error. -/
def reportsExecution (i : Fin n) (execution : ExecutionEvent) : Bool :=
  (s.engines i).bound &&
    match (s.engines i).decideBooking s.portfolio
      (s.gateway.orderLifecycle execution.localOrderId) execution with
    | none => true
    | some booking =>
      match s.portfolio.call booking.call with
      | .error _ => true
      | .ok _ => false

/-- The engines that report an execution, as they are told of it one after the other. -/
def reporters (execution : ExecutionEvent) : System n → List (Fin n) → List (Fin n)
  | _, [] => []
  | s, i :: observers =>
    let later := reporters execution (s.onBrokerExecution i execution) observers
    if s.reportsExecution i execution then i :: later else later

/-- An execution that cannot be booked is reported as an API error. -/
theorem onBrokerExecution_of_reports {i : Fin n} {execution : ExecutionEvent}
    (h : s.reportsExecution i execution = true) :
    s.onBrokerExecution i execution = s.reportApiError := by
  revert h
  unfold reportsExecution onBrokerExecution
  dsimp only
  cases (s.engines i).bound with
  | false => exact fun h => (nomatch h)
  | true =>
    cases (s.engines i).decideBooking s.portfolio
        (s.gateway.orderLifecycle execution.localOrderId) execution with
    | none => exact fun _ => rfl
    | some booking =>
      dsimp only
      cases s.portfolio.call booking.call with
      | error e => exact fun _ => rfl
      | ok portfolio => exact fun h => (nomatch h)

/-- An engine reports every execution of another engine's order. -/
theorem reportsExecution_other {i : Fin n} {execution : ExecutionEvent}
    (hbound : (s.engines i).bound = true) (h : ¬s.OwnsOrder i execution.localOrderId) :
    s.reportsExecution i execution = true := by
  have hnone : (s.engines i).decideBooking s.portfolio
      (s.gateway.orderLifecycle execution.localOrderId) execution = none := by
    rw [Option.eq_none_iff_forall_ne_some]
    intro booking hbooking
    obtain ⟨record, hrecord, hbooked⟩ := ExecutionEngine.decideBooking_eq_some.mp hbooking
    exact h ⟨record, hrecord, hbooked.symbol_eq⟩
  rw [reportsExecution, hbound, hnone]
  rfl

variable {s} in
/-- Telling another engine first changes nothing about whose order it is. -/
theorem ownsOrder_onBrokerExecution (i j : Fin n) (execution : ExecutionEvent) (localOrderId : ℕ) :
    (s.onBrokerExecution i execution).OwnsOrder j localOrderId ↔ s.OwnsOrder j localOrderId := by
  unfold OwnsOrder
  rw [s.onBrokerExecution_gateway, (s.onBrokerExecution_wiring i execution j).1]

/-- An observer whose order it is not is among the reporters. -/
theorem mem_reporters_other {i : Fin n} {execution : ExecutionEvent} {observers : List (Fin n)}
    (hi : i ∈ observers) (hbound : (s.engines i).bound = true)
    (h : ¬s.OwnsOrder i execution.localOrderId) : i ∈ reporters execution s observers := by
  induction observers generalizing s with
  | nil => cases hi
  | cons j observers ih =>
    unfold reporters
    dsimp only
    rcases List.mem_cons.mp hi with rfl | hi
    · rw [if_pos (s.reportsExecution_other hbound h)]
      exact List.mem_cons_self
    · have hlater := ih (s.onBrokerExecution j execution) hi
        ((s.onBrokerExecution_wiring j execution i).2.trans hbound)
        (mt (ownsOrder_onBrokerExecution j i execution _).mp h)
      split
      · exact List.mem_cons_of_mem j hlater
      · exact hlater

/-! ### The breaker -/

/-- A recorded latency does not touch the circuit breaker. -/
theorem breaker_recordLatency (i : Fin n) (elapsed : ℚ) :
    (s.recordLatency i elapsed).risk.breaker = s.risk.breaker := by
  unfold recordLatency
  dsimp only
  split <;> rfl

/-- A recorded trade does not touch the risk engine. -/
theorem risk_recordTrade (i : Fin n) (entry : TradeLogEntry) :
    (s.recordTrade i entry).risk = s.risk := by
  unfold recordTrade
  split <;> rfl

/-- Nor does a recorded slippage. -/
theorem risk_recordSlippage (i : Fin n) (timestamp : ℕ) (symbol : String)
    (expectedPrice actualPrice quantity : Double) :
    (s.recordSlippage i timestamp symbol expectedPrice actualPrice quantity).risk = s.risk := by
  unfold recordSlippage
  split <;> rfl

/-- An execution that an engine does not report leaves the breaker alone. -/
theorem breaker_onBrokerExecution {i : Fin n} {execution : ExecutionEvent}
    (h : s.reportsExecution i execution = false) :
    (s.onBrokerExecution i execution).risk.breaker = s.risk.breaker := by
  revert h
  unfold reportsExecution onBrokerExecution
  dsimp only
  cases (s.engines i).bound with
  | false => exact fun _ => rfl
  | true =>
    cases (s.engines i).decideBooking s.portfolio
        (s.gateway.orderLifecycle execution.localOrderId) execution with
    | none => exact fun h => (nomatch h)
    | some booking =>
      dsimp only
      cases s.portfolio.call booking.call with
      | error e => exact fun h => (nomatch h)
      | ok portfolio =>
        intro _
        dsimp only
        rw [if_neg (by decide)]
        unfold settleBooking
        dsimp only
        generalize hrecorded : System.recordSlippage _ i _ _ _ _ _ = recorded
        have hrisk : recorded.risk = s.risk := by
          rw [← hrecorded, risk_recordSlippage, risk_recordTrade]
        change (recorded.risk.syncPosition _ _).breaker = s.risk.breaker
        rw [hrisk]
        rfl

/-- A dispatch leaves the risk engine alone unless the gateway refuses a permitted order. -/
theorem risk_handToGateway {i : Fin n} {order : NormalizedOrder} {finalRisk : RiskDecision}
    (h : finalRisk.allowed = true → s.gateway.takes order finalRisk = true) :
    (s.handToGateway i order finalRisk).1.risk = s.risk := by
  unfold handToGateway
  cases hallowed : finalRisk.allowed with
  | true => rw [BrokerGateway.beginDispatch_of_takes (h hallowed)]
  | false =>
    unfold BrokerGateway.beginDispatch
    rw [hallowed]
    rfl

/-- An accepted submission leaves the risk engine alone. -/
theorem risk_finishDispatch (i : Fin n) (order : NormalizedOrder) :
    (s.finishDispatch i order true).1.risk = s.risk := rfl

end System

end TradeBot
