import TradeBot.Trading.Bookings
import TradeBot.Trading.LocalFills

/-!
# The trades that calls record

A sale writes one record of the trade log and is counted, a purchase is only counted. Many
calls of the engines, above all those that only hand an order over, touch no record at all.
-/

namespace TradeBot

open Library Financial

namespace PortfolioManager

variable {pm pm' : PortfolioManager} {symbol strategyId : String}

/-- A purchase writes no record of the trade log. -/
theorem addToLong_tradeLog {netPrice quantity fee capitalToCommit : Double}
    (h : pm.addToLong symbol netPrice quantity fee capitalToCommit strategyId = .ok pm') :
    pm'.tradeLog = pm.tradeLog := by
  unfold addToLong at h
  split at h
  · obtain ⟨p, hopened⟩ := openLong_opened h
    exact hopened.tradeLog
  · next current hcurrent =>
    simp only [addToPosition, bind_eq_ok, throwIf_eq_ok, requirePositive_eq_ok,
      requireNonnegative_eq_ok, requireValue_eq_ok, requireCounterCapacity_eq_ok, pure_eq_ok] at h
    obtain ⟨-, -, p, -, amount, -, addedFee, -, cost, -, debit, -, -, -, -, -, -, -,
      nextQuantity, -, nextCost, -, nextEntryFee, -, average, -, nextCash, -, nextFees, -,
      valuation, -, -, -, rfl⟩ := h
    rfl

/-- A sale of a part or all of a position writes one record. -/
theorem closePosition_tradeLog {netPrice : Double} {timestamp : ℕ} {fee explicitQuantity : Double}
    (hopen : pm.hasPosition symbol = true)
    (h : pm.closePosition symbol netPrice timestamp fee strategyId explicitQuantity = .ok pm') :
    ∃ record, pm'.tradeLog = pm.tradeLog ++ [record] ∧ record.symbol = symbol ∧
      pm'.tradeCount = pm.tradeCount + 1 := by
  obtain ⟨prior, hprior⟩ := ExecutionEngine.lookup_of_hasPosition hopen
  unfold closePosition at h
  rw [hprior] at h
  simp only [reduceOpenPosition, bind_eq_ok, throwIf_eq_ok, requirePositive_eq_ok,
    requireNonnegative_eq_ok, requireValue_eq_ok, requireCounterCapacity_eq_ok, pure_eq_ok] at h
  obtain ⟨-, -, p, -, exitFee, -, closed, -, proceeds, -, netProceeds, -, cost, -, entryFee, -,
    gross, -, afterExitFee, -, realized, -, tradeFees, -, remaining, -, next, -, nextCash, -,
    nextFees, -, valuation, -, -, -, -, -, rfl⟩ := h
  exact ⟨_, rfl, rfl, rfl⟩

end PortfolioManager

namespace ExecutionEngine

variable {engine : ExecutionEngine} {portfolio portfolio' : PortfolioManager}
  {fillPrice : Price} {fillFee : Money} {incremental : Quantity} {timestampNs : ℕ}
  {strategyId : String} {call : PortfolioCall}

/-- The call that books a purchase writes no record of the trade log. -/
theorem bookingCall_bought_tradeLog
    (hcall : engine.bookingCall portfolio true fillPrice fillFee incremental timestampNs
      strategyId = some call) (h : portfolio.call call = .ok portfolio') :
    portfolio'.tradeLog = portfolio.tradeLog := by
  simp only [bookingCall, if_true, Option.bind_eq_some_iff, Option.map_eq_some_iff] at hcall
  obtain ⟨cost, -, debit, -, hcall⟩ := hcall
  split at hcall
  · cases hcall
    exact PortfolioManager.addToLong_tradeLog h
  · cases hcall
    obtain ⟨p, hopened⟩ := PortfolioManager.openLong_opened h
    exact hopened.tradeLog

/-- The call that books a sale writes one record, of the engine's symbol. -/
theorem bookingCall_sold_tradeLog
    (hcall : engine.bookingCall portfolio false fillPrice fillFee incremental timestampNs
      strategyId = some call) (h : portfolio.call call = .ok portfolio') :
    ∃ record, portfolio'.tradeLog = portfolio.tradeLog ++ [record] ∧
      record.symbol = engine.symbol ∧ portfolio'.tradeCount = portfolio.tradeCount + 1 := by
  simp only [bookingCall, Bool.false_eq_true, if_false, Option.bind_eq_some_iff] at hcall
  obtain ⟨held, hheld, hcall⟩ := hcall
  split at hcall
  · cases hcall
  · next hguard =>
    cases hcall
    refine PortfolioManager.closePosition_tradeLog ?_ h
    by_contra hnone
    -- without a position the held quantity is zero, which the engine refuses
    rw [Bool.not_eq_true] at hnone
    rw [PortfolioManager.getPositionQuantity, lookup_of_not_hasPosition hnone] at hheld
    rw [quantity, normalized, normalize_zero, Option.map_some, Option.some.injEq] at hheld
    rw [← hheld] at hguard
    exact absurd (by rfl) hguard

end ExecutionEngine

namespace System

variable {n : ℕ} {s t u : System n}

/-- A step that changes neither the portfolio nor any record. -/
structure SameRecords (s t : System n) : Prop where
  portfolio : t.portfolio = s.portfolio
  analytics : t.analytics = s.analytics
  recording : ∀ i, (t.engines i).recordsAnalytics = (s.engines i).recordsAnalytics

/-- A system has the same records as itself. -/
theorem SameRecords.refl (s : System n) : s.SameRecords s := ⟨rfl, rfl, fun _ => rfl⟩

/-- Having the same records is transitive. -/
theorem SameRecords.trans (h : s.SameRecords t) (h' : t.SameRecords u) : s.SameRecords u :=
  ⟨h'.portfolio.trans h.portfolio, h'.analytics.trans h.analytics,
    fun i => (h'.recording i).trans (h.recording i)⟩

/-- Replacing an engine by one that records as before leaves the records. -/
theorem sameRecords_setEngine (s : System n) (i : Fin n) {engine : ExecutionEngine}
    (h : engine.recordsAnalytics = (s.engines i).recordsAnalytics) :
    s.SameRecords (s.setEngine i engine) := by
  refine ⟨rfl, rfl, fun j => ?_⟩
  by_cases hj : j = i
  · subst hj
    change (Function.update s.engines j engine j).recordsAnalytics = _
    rw [Function.update_self, h]
  · change (Function.update s.engines i engine j).recordsAnalytics = _
    rw [Function.update_of_ne hj]

/-- Blocking a signal leaves the records. -/
theorem sameRecords_block (s : System n) (i : Fin n) : s.SameRecords (s.block i) :=
  sameRecords_setEngine s i rfl

/-- A change of the gateway leaves the records. -/
theorem sameRecords_withGateway (s : System n) (gateway : BrokerGateway) :
    s.SameRecords { s with gateway := gateway } := ⟨rfl, rfl, fun _ => rfl⟩

/-- A change of the risk engine leaves the records. -/
theorem sameRecords_withRisk (s : System n) (risk : RiskEngine) :
    s.SameRecords { s with risk := risk } := ⟨rfl, rfl, fun _ => rfl⟩

/-- Reporting an API error leaves the records. -/
theorem sameRecords_reportApiError (s : System n) : s.SameRecords s.reportApiError :=
  ⟨rfl, rfl, fun _ => rfl⟩

/-- Recording a latency leaves the records. -/
theorem sameRecords_recordLatency (s : System n) (i : Fin n) (elapsed : ℚ) :
    s.SameRecords (s.recordLatency i elapsed) := by
  refine SameRecords.trans (sameRecords_setEngine s i ?_) (sameRecords_withRisk _ _)
  rfl

/-- Handing an order to the gateway leaves the records. -/
theorem sameRecords_handToGateway (s : System n) (i : Fin n) (order : NormalizedOrder)
    (finalRisk : RiskDecision) : s.SameRecords (s.handToGateway i order finalRisk).1 := by
  unfold handToGateway
  split
  · exact s.sameRecords_withGateway _
  · next gateway result _ =>
    refine (s.sameRecords_withGateway gateway).trans ?_
    dsimp only
    split
    · exact (sameRecords_reportApiError _).trans (sameRecords_block _ i)
    · exact .refl _

/-- The begin of a dispatch leaves the records: nothing is filled yet. -/
theorem sameRecords_beginDispatch (s : System n) (i : Fin n) (isBuy : Bool) (units : Quantity)
    (requestedPrice : Price) (timestamp : ℕ) (strategyId : String) (routeLatencyMs : ℚ) :
    s.SameRecords (s.beginDispatch i isBuy units requestedPrice timestamp strategyId
      routeLatencyMs).1 := by
  have hcounted := @sameRecords_setEngine _ s i { s.engines i with
    nextLocalOrderId := (s.engines i).nextLocalOrderId + 1 } rfl
  unfold beginDispatch
  split
  · exact s.sameRecords_block i
  · dsimp only
    split
    · exact hcounted.trans (sameRecords_block _ i)
    · refine SameRecords.trans ?_ (sameRecords_handToGateway _ i _ _)
      refine SameRecords.trans ?_ (sameRecords_recordLatency _ i routeLatencyMs)
      split
      · exact hcounted
      · exact hcounted.trans (sameRecords_block _ i)

/-- An `execute` call of a bound engine books nothing before the adapter answers. -/
theorem sameRecords_beginExecute {i : Fin n} (hbound : (s.engines i).bound = true)
    (args : ExecuteArgs) : s.SameRecords (s.beginExecute i args).1 := by
  unfold beginExecute
  dsimp only
  generalize hcounted : (if args.signal = .none then s else s.setEngine i { s.engines i with
    signalCount := (s.engines i).signalCount + 1 }) = counted
  have hsame : s.SameRecords counted := by
    rw [← hcounted]
    split
    · exact .refl s
    · exact s.sameRecords_setEngine i rfl
  cases (s.engines i).decideExecute s.portfolio s.risk s.gateway.isConnected args.signal
      args.marketPrice args.atr with
  | ignore => exact hsame
  | block => exact hsame.trans (sameRecords_block _ i)
  | enter marketPrice plan =>
    dsimp only
    rw [if_pos hbound]
    exact hsame.trans (sameRecords_beginDispatch _ i _ _ _ _ _ _)
  | exit marketPrice plan =>
    dsimp only
    rw [if_pos hbound]
    exact hsame.trans (sameRecords_beginDispatch _ i _ _ _ _ _ _)

/-- The return of a dispatch leaves the records. -/
theorem sameRecords_finishDispatch (s : System n) (i : Fin n) (order : NormalizedOrder)
    (submitted : Bool) : s.SameRecords (s.finishDispatch i order submitted).1 := by
  unfold finishDispatch
  dsimp only
  refine (s.sameRecords_withGateway (s.gateway.finishDispatch order submitted).1).trans ?_
  split
  · split
    · exact (sameRecords_reportApiError _).trans (sameRecords_block _ i)
    · exact .refl _
  · exact sameRecords_setEngine _ i rfl

/-- Cancelling a trigger leaves the records. -/
theorem sameRecords_cancelTrigger (s : System n) (i : Fin n) (orderId : ℕ) :
    s.SameRecords (s.cancelTrigger i orderId) := by
  unfold cancelTrigger
  split
  · exact .refl s
  · exact s.sameRecords_setEngine i rfl

/-- Calls of the trigger manager leave the records. -/
theorem sameRecords_updateTriggers (s : System n) (i : Fin n)
    (update : TriggerOrderManager → TriggerOrderManager × ℕ) :
    s.SameRecords (s.updateTriggers i update).1 := by
  unfold updateTriggers
  split
  · exact .refl s
  · exact s.sameRecords_setEngine i rfl

/-- Nobody books an execution of an unknown order. -/
theorem sameRecords_notifyExecution {execution : ExecutionEvent}
    (hnone : s.gateway.orderLifecycle execution.localOrderId = none) :
    s.SameRecords (s.notifyExecution execution) := by
  unfold notifyExecution
  induction s.executionObservers generalizing s with
  | nil => exact .refl s
  | cons i observers ih =>
    have hgateway := s.onBrokerExecution_gateway i execution
    have hfirst : s.SameRecords (s.onBrokerExecution i execution) := by
      rcases s.onBrokerExecution_cases i execution with
        ⟨-, h⟩ | ⟨h, -⟩ | ⟨record, _, _, hrecord, -⟩
      · rw [h]
        exact .refl s
      · rw [h]
        exact s.sameRecords_reportApiError
      · rw [hnone] at hrecord
        cases hrecord
    exact hfirst.trans (ih (by rwa [hgateway]))

end System

end TradeBot
