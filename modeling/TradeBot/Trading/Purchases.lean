import TradeBot.Trading.LoopDesk
import TradeBot.Trading.PaperSteps
import TradeBot.Trading.Steps
import TradeBot.Trading.TradeRecords

/-!
# When a purchase is filled

Whether an engine fills a purchase itself or the paper adapter fills it, the risk engine was
asked about the portfolio of that moment. A sale that goes through the adapter never buys.
-/

namespace TradeBot

open Library

namespace PortfolioManager

variable {pm pm' : PortfolioManager}

/-- A trade that is recorded and counted leaves the number of entries. -/
theorem entryCount_of_record {record : TradeRecord} (hlog : pm'.tradeLog = pm.tradeLog ++ [record])
    (hcount : pm'.tradeCount = pm.tradeCount + 1) : pm'.entryCount = pm.entryCount := by
  unfold entryCount
  rw [hlog, hcount, List.length_append, List.length_singleton]
  omega

end PortfolioManager

namespace System

variable {n : ℕ} {s t : System n} {i : Fin n}

/-- A fill of the engine itself that buys: the risk engine has allowed it, and there was no
position. -/
theorem Booked.bought_of_entry {symbol strategyId : String} {result : Except StdException Bool}
    (h : s.Booked t i symbol strategyId result)
    (hentry : s.portfolio.entryCount < t.portfolio.entryCount) :
    s.risk.canTrade s.portfolio = true ∧ s.portfolio.hasPosition symbol = false ∧
      result = .ok true := by
  cases h with
  | unfilled _ hportfolio _ =>
    rw [hportfolio] at hentry
    exact absurd hentry (lt_irrefl _)
  | bought hallowed hopened _ _ => exact ⟨hallowed, decide_eq_false hopened.closed, rfl⟩
  | sold hclosed _ _ _ _ =>
    rw [PortfolioManager.entryCount_of_record hclosed.tradeLog hclosed.tradeCount] at hentry
    exact absurd hentry (lt_irrefl _)

/-- A resting order that buys had a plan, and the risk engine has allowed it. -/
theorem processFill_entry {fill : OrderFillResult}
    (hentry : s.portfolio.entryCount < (s.processFill i fill).1.portfolio.entryCount) :
    ∃ plan, (s.engines i).decidePending s.portfolio s.risk fill = .enter plan := by
  obtain ⟨-, hbooked⟩ := s.processFill_booked i fill
  obtain ⟨-, hnone, hresult⟩ := hbooked.bought_of_entry hentry
  unfold processFill at hresult
  cases hdecision : (s.engines i).decidePending s.portfolio s.risk fill with
  | skip =>
    rw [hdecision] at hresult
    cases hresult
  | block =>
    rw [hdecision] at hresult
    cases hresult
  | enter plan => exact ⟨plan, rfl⟩
  | exit plan =>
    obtain ⟨-, hheld, -⟩ := ExecutionEngine.decidePending_eq_exit hdecision
    rw [hnone] at hheld
    cases hheld

end System

/-- The order of an identifier, if there is one, is to sell. -/
def OrderLifecycleStore.SellsOnly (store : OrderLifecycleStore) (localOrderId : ℕ) : Prop :=
  ∀ record, store.find localOrderId = some record → record.request.side = .sell

/-- A store that keeps its orders keeps the direction of each. -/
theorem OrderLifecycleStore.SellsOnly.of_keeps {store next : OrderLifecycleStore}
    {localOrderId : ℕ} (h : store.SellsOnly localOrderId) (hkeeps : store.Keeps next) :
    next.SellsOnly localOrderId := by
  intro last hfind
  obtain ⟨record, hrecord, hkept⟩ := hkeeps.of_find hfind
  rw [hkept.request_eq]
  exact h record hrecord

/-- An execution does not change the direction of an order. -/
theorem OrderLifecycleStore.SellsOnly.execution {store : OrderLifecycleStore} {localOrderId : ℕ}
    (h : store.SellsOnly localOrderId) (execution : ExecutionEvent) :
    (store.applyExecution execution).1.SellsOnly localOrderId := by
  rcases happly : store.applyExecution execution with ⟨next, result⟩
  rcases handleEvent_cases happly with ⟨rfl, -⟩ | ⟨record, last, hfind, -, -, hdecision, rfl, -⟩
  · exact h
  · obtain ⟨-, -, -, -, rfl⟩ := decideExecution_eq_ok.mp hdecision
    intro found hfound
    rw [find_commit] at hfound
    split at hfound
    · next heq =>
      cases hfound
      exact h record (heq ▸ hfind)
    · exact h found hfound

namespace System

variable {n : ℕ} {s : System n}

/-- Settling a booking writes records of it only. -/
theorem portfolio_settleBooking (s : System n) (i : Fin n) (execution : ExecutionEvent)
    (booking : Booking) : (s.settleBooking i execution booking).portfolio = s.portfolio := by
  unfold settleBooking
  refine (portfolio_recordSlippage _ i _ _ _ _ _).trans ?_
  exact (sameDesk_recordTrade s i _).portfolio_eq

/-- The executions of an order to sell buy nothing. -/
theorem entryCount_notifyExecution {execution : ExecutionEvent}
    (hsells : s.gateway.lifecycle.SellsOnly execution.localOrderId) :
    (s.notifyExecution execution).portfolio.entryCount = s.portfolio.entryCount := by
  unfold notifyExecution
  induction s.executionObservers generalizing s with
  | nil => rfl
  | cons i observers ih =>
    have hgateway := s.onBrokerExecution_gateway i execution
    have hfirst : (s.onBrokerExecution i execution).portfolio.entryCount =
        s.portfolio.entryCount := by
      rcases s.onBrokerExecution_cases i execution with
        ⟨-, h⟩ | ⟨h, -⟩ | ⟨record, booking, portfolio, hrecord, hbooked, hcall, h⟩
      · rw [h]
      · rw [h]
        rfl
      · have hsell : booking.isBuy = false := by
          rw [hbooked.isBuy_eq, hsells record hrecord]
          rfl
        have hbooking := hbooked.call_eq
        rw [hsell] at hbooking
        obtain ⟨trade, hlog, -, hcount⟩ :=
          ExecutionEngine.bookingCall_sold_tradeLog hbooking hcall
        rw [h, portfolio_settleBooking]
        exact PortfolioManager.entryCount_of_record hlog hcount
    refine Eq.trans (ih ?_) hfirst
    rwa [hgateway]

/-- A report buys nothing when its execution is of an order to sell. -/
theorem entryCount_deliver {localOrderId : ℕ}
    (hsells : s.gateway.lifecycle.SellsOnly localOrderId) {event : BrokerEvent}
    (hevent : ∀ execution, event = .execution execution → execution.localOrderId = localOrderId) :
    (s.deliver event).portfolio.entryCount = s.portfolio.entryCount ∧
      (s.deliver event).gateway.lifecycle.SellsOnly localOrderId := by
  cases event with
  | acknowledgement acknowledgement =>
    have hafter := hsells.of_keeps (s.gateway.handleAcknowledgement_keeps acknowledgement)
    unfold deliver
    dsimp only
    split <;> exact ⟨rfl, hafter⟩
  | execution execution =>
    obtain rfl := hevent execution rfl
    have hafter : (s.gateway.handleExecution execution).1.lifecycle.SellsOnly
        execution.localOrderId := by
      rcases s.gateway.handleExecution_cases execution with ⟨-, hstore, -⟩ | ⟨-, happlied⟩
      · rwa [hstore]
      · have hexecuted := hsells.execution execution
        rwa [happlied] at hexecuted
    unfold deliver
    dsimp only
    split
    · refine ⟨entryCount_notifyExecution hafter, ?_⟩
      rw [(notifyExecution_wiring _ execution).1]
      exact hafter
    · exact ⟨rfl, hafter⟩
  | cancelResult result => exact ⟨rfl, hsells.of_keeps (s.gateway.handleCancel_keeps result)⟩
  | health health => exact ⟨rfl, hsells⟩

/-- Delivering the executions of an order to sell buys nothing. -/
theorem entryCount_foldl_deliver {localOrderId : ℕ} {events : List BrokerEvent}
    (hsells : s.gateway.lifecycle.SellsOnly localOrderId)
    (hevents : ∀ execution, .execution execution ∈ events →
      execution.localOrderId = localOrderId) :
    (events.foldl deliver s).portfolio.entryCount = s.portfolio.entryCount := by
  induction events generalizing s with
  | nil => rfl
  | cons event events ih =>
    obtain ⟨hcount, hafter⟩ := entryCount_deliver hsells
      fun execution heq => hevents execution (heq ▸ List.mem_cons_self)
    exact (ih hafter fun execution hmem => hevents execution (List.mem_cons_of_mem _ hmem)).trans
      hcount

end System

namespace DeterministicBrokerAdapter

variable {adapter next : DeterministicBrokerAdapter} {order : NormalizedOrder}

/-- An adapter reports executions of the submitted order only. -/
theorem execution_of_submit {events : List BrokerEvent}
    (h : adapter.submit order = (next, some events)) {execution : ExecutionEvent}
    (hmem : .execution execution ∈ events) :
    execution.localOrderId = order.request.localOrderId := by
  have hhealthy {health : List BrokerEvent} (hall : ∀ event ∈ health, event.isHealth = true) :
      .execution execution ∉ health := fun hmem => by cases hall _ hmem
  cases hconnected : adapter.connected with
  | false =>
    unfold submit at h
    rw [hconnected] at h
    cases h
  | true =>
    by_cases haccepts : adapter.Accepts order
    · obtain ⟨_, health, slippedPrice, fillFee, hsubmit, hhealth, -, -⟩ :=
        submit_of_accepts hconnected haccepts
      rw [h] at hsubmit
      cases hsubmit
      rcases List.mem_append.mp hmem with hmem | hmem
      · exact absurd hmem (hhealthy hhealth)
      · rcases List.mem_pair.mp hmem with heq | heq
        · cases heq
        · cases heq
          rfl
    · obtain ⟨_, health, failure, reason, hsubmit, hhealth, -, -⟩ :=
        submit_of_not_accepts hconnected haccepts
      rw [h] at hsubmit
      cases hsubmit
      rcases List.mem_append.mp hmem with hmem | hmem
      · exact absurd hmem (hhealthy hhealth)
      · cases List.mem_singleton.mp hmem

end DeterministicBrokerAdapter

/-- A newly recorded order to sell is one. -/
theorem BrokerGateway.sellsOnly_recordOrder {store : OrderLifecycleStore} {order : NormalizedOrder}
    (hcreate : (store.create (lifecycleRequest order)).2 = true)
    (hside : order.request.side = .sell) :
    (recordOrder store order).SellsOnly order.request.localOrderId := by
  obtain ⟨-, -, -, hkeeps⟩ := recordOrder_cases hcreate
  refine OrderLifecycleStore.SellsOnly.of_keeps (fun record hrecord => ?_) hkeeps
  rw [OrderLifecycleStore.find_commit, if_pos rfl] at hrecord
  cases hrecord
  exact hside

/-- An allowed final risk decision on a purchase is that of the risk engine. -/
theorem ExecutionEngine.canTrade_of_finalRisk {portfolio : PortfolioManager} {risk : RiskEngine}
    (h : (finalRisk portfolio risk true).allowed = true) : risk.canTrade portfolio = true := by
  unfold finalRisk at h
  cases hallowed : risk.canTrade portfolio with
  | true => rfl
  | false =>
    rw [hallowed] at h
    cases h

namespace PaperSystem

variable {n : ℕ} {s : PaperSystem n} {i : Fin n} {args : ExecuteArgs}

/-- **A purchase of an `execute` call.** The engine had a plan for it, and the risk engine has
allowed it on the portfolio that the call found. -/
theorem execute_entry
    (hentry : s.system.portfolio.entryCount < (s.execute i args).1.system.portfolio.entryCount) :
    s.system.risk.canTrade s.system.portfolio = true ∧ ∃ marketPrice plan,
      (s.system.engines i).decideExecute s.system.portfolio s.system.risk
        s.system.gateway.isConnected args.signal args.marketPrice args.atr =
          .enter marketPrice plan := by
  cases hbound : (s.system.engines i).bound with
  | false =>
    obtain ⟨t, result, hbegin, -, hbooked⟩ := System.beginExecute_booked hbound args
    have hexecute : s.execute i args = ({ s with system := t }, result) := by
      simp only [execute, hbegin]
    rw [hexecute] at hentry
    obtain ⟨hallowed, hnone, rfl⟩ := hbooked.bought_of_entry hentry
    refine ⟨hallowed, ?_⟩
    have hfilled := congrArg Prod.snd hbegin
    unfold System.beginExecute at hfilled
    dsimp only at hfilled
    cases hdecision : (s.system.engines i).decideExecute s.system.portfolio s.system.risk
        s.system.gateway.isConnected args.signal args.marketPrice args.atr with
    | ignore =>
      rw [hdecision] at hfilled
      cases hfilled
    | block =>
      rw [hdecision] at hfilled
      cases hfilled
    | enter marketPrice plan => exact ⟨marketPrice, plan, rfl⟩
    | exit marketPrice plan =>
      obtain ⟨-, -, -, -, hheld, -⟩ := ExecutionEngine.decideExecute_eq_exit hdecision
      rw [hnone] at hheld
      cases hheld
  | true =>
    have hhanded := System.beginExecute_handed hbound args
    have hsame := System.sameRecords_beginExecute hbound args
    unfold execute at hentry
    rcases hbegin : s.system.beginExecute i args with ⟨t, returned | order⟩
    · rw [hbegin] at hsame hentry
      rw [show ({ s with system := t } : PaperSystem n).system.portfolio = s.system.portfolio from
        hsame.portfolio] at hentry
      exact absurd hentry (lt_irrefl _)
    · rw [hbegin] at hsame hhanded hentry
      obtain ⟨-, -, hprogress, hrecorded⟩ := hhanded
      have horder : s.system.handedOrder i args = some order := by
        cases horder : s.system.handedOrder i args with
        | none =>
          rw [horder] at hprogress
          cases hprogress
        | some other =>
          rw [horder] at hprogress
          cases hprogress
          rfl
      have hstore := hrecorded order horder
      unfold System.handedOrder at horder
      cases hdecision : (s.system.engines i).decideExecute s.system.portfolio s.system.risk
          s.system.gateway.isConnected args.signal args.marketPrice args.atr with
      | ignore =>
        rw [hdecision] at horder
        cases horder
      | block =>
        rw [hdecision] at horder
        cases horder
      | enter marketPrice plan =>
        rw [hdecision] at horder
        obtain ⟨-, htakes⟩ := System.takenOrder_request horder
        refine ⟨?_, marketPrice, plan, rfl⟩
        simp only [BrokerGateway.takes, Bool.and_eq_true] at htakes
        exact ExecutionEngine.canTrade_of_finalRisk htakes.1.1.1
      | exit marketPrice plan =>
        rw [hdecision] at horder
        obtain ⟨hrequest, htakes⟩ := System.takenOrder_request horder
        simp only [BrokerGateway.takes, Bool.and_eq_true] at htakes
        have hsells : t.gateway.lifecycle.SellsOnly order.request.localOrderId := by
          rw [hstore]
          refine BrokerGateway.sellsOnly_recordOrder htakes.1.2 ?_
          rw [hrequest]
          rfl
        have hevents : ∀ execution, .execution execution ∈ (s.adapter.submit order).2.getD [] →
            execution.localOrderId = order.request.localOrderId := by
          intro execution hmem
          rcases hsubmit : s.adapter.submit order with ⟨next, events | events⟩
          · rw [hsubmit] at hmem
            cases hmem
          · rw [hsubmit] at hmem
            exact DeterministicBrokerAdapter.execution_of_submit hsubmit hmem
        let reported : System n :=
          ((s.adapter.submit order).2.getD []).foldl System.deliver { t with
            gateway := { t.gateway with adapterConnected := (s.adapter.submit order).1.connected } }
        have hreported : reported.portfolio.entryCount = t.portfolio.entryCount :=
          System.entryCount_foldl_deliver hsells hevents
        have hfinished := reported.sameRecords_finishDispatch i order
          (s.adapter.submit order).2.isSome
        have hentry : s.system.portfolio.entryCount <
            (reported.finishDispatch i order
              (s.adapter.submit order).2.isSome).1.portfolio.entryCount := hentry
        rw [hfinished.portfolio, hreported, hsame.portfolio] at hentry
        exact absurd hentry (lt_irrefl _)

end PaperSystem

end TradeBot
