import TradeBot.Trading.LiveTriggers
import TradeBot.Trading.PaperSteps

/-!
# Protective orders and their exits

A protective order leaves its manager when its exit's `execute` call returns true. Over the
paper adapter that only says that the exit was handed over: a rejected exit takes its
protective order away too. The order stays exactly while the adapter accepts its exits.
-/

namespace TradeBot

open Library

namespace System

variable {n : ℕ} {s t : System n}

/-- The live protective orders of an engine. -/
def liveTriggers (s : System n) (i : Fin n) : List ℕ :=
  match (s.engines i).triggerOrders with
  | none => []
  | some manager => manager.liveOrders

/-- Equal protective orders are equally live. -/
theorem KeepsTriggers.liveTriggers_eq (h : s.KeepsTriggers t) (i : Fin n) :
    t.liveTriggers i = s.liveTriggers i := by
  unfold liveTriggers
  rw [h i]

/-- Canceling touches one engine's orders, and takes at most the given one away. -/
theorem liveTriggers_cancelTrigger (s : System n) (i : Fin n) (orderId : ℕ) :
    ((s.cancelTrigger i orderId).liveTriggers i).Perm ((s.liveTriggers i).erase orderId) ∧
      ∀ j, j ≠ i → (s.cancelTrigger i orderId).liveTriggers j = s.liveTriggers j := by
  unfold cancelTrigger
  cases hmanager : (s.engines i).triggerOrders with
  | none =>
    refine ⟨?_, fun j _ => rfl⟩
    simp only [liveTriggers, hmanager, List.erase_nil]
    exact .refl _
  | some manager =>
    refine ⟨?_, fun j hj => ?_⟩
    · simp only [liveTriggers, setEngine, Function.update_self, hmanager]
      exact manager.cancel_perm orderId
    · simp only [liveTriggers, setEngine, Function.update_of_ne hj]

/-- The events of a quote are of live orders. -/
theorem triggeredEvents_sublist (s : System n) (i : Fin n) (bbo : BestQuote) (timestamp : ℕ) :
    ((s.triggeredEvents i bbo timestamp).map TriggerFillEvent.orderId).Sublist
      (s.liveTriggers i) := by
  unfold triggeredEvents liveTriggers
  cases (s.engines i).triggerOrders with
  | none => exact .refl _
  | some manager =>
    dsimp only
    split
    · exact List.nil_sublist _
    · exact manager.evaluate_sublist _ bbo timestamp

end System

/-- The keys that engines make avoid the internal prefixes. -/
theorem avoidsInternal_execution (localOrderId : ℕ) :
    AvoidsInternal ("execution-" ++ toString localOrderId) := by
  intro stem hstem hbegins
  have hdistinct : ∀ stem ∈ internalPrefixes,
      ¬(BeginsWith stem "execution-" ∨ BeginsWith "execution-" stem) := by decide
  exact hdistinct stem hstem (hbegins.comparable (beginsWith_append _ (toString localOrderId)))

/-- The store after a dispatch that the gateway takes. -/
theorem BrokerGateway.placed_of_takes {gateway : BrokerGateway} {order : NormalizedOrder}
    {decision : RiskDecision} (h : gateway.takes order decision = true)
    (hsequence : order.request.sequence < 2 ^ 64) :
    gateway.lifecycle.Placed (recordOrder gateway.lifecycle order) order [.submit, .risk]
      (OrderLifecycleRecord.Dispatched order .submitted 2) := by
  simp only [takes, Bool.and_eq_true] at h
  obtain ⟨⟨-, hcreate⟩, hmarks⟩ := h
  have hcreated : gateway.lifecycle.create (lifecycleRequest order) =
      ((gateway.lifecycle.create (lifecycleRequest order)).1, true) := by
    rw [← hcreate]
  refine OrderLifecycleStore.placed_of_marks
    (OrderLifecycleStore.placed_create hcreated hsequence) ?_
  rw [recordOrder, ← hmarks]

namespace BrokerGateway

/-- Starting a cancel leaves what the gateway knows of the connection. -/
theorem beginCancel_adapter (gateway : BrokerGateway) (request : CancelRequest) :
    (gateway.beginCancel request).1.adapterConnected = gateway.adapterConnected := by
  unfold beginCancel
  split
  · rfl
  · split <;> rfl

/-- So does finishing it, whatever the adapter answered. -/
theorem finishCancel_adapter (gateway : BrokerGateway) (request : CancelRequest)
    (canceled : Bool) :
    (gateway.finishCancel request canceled).1.adapterConnected = gateway.adapterConnected := by
  unfold finishCancel
  split <;> rfl

end BrokerGateway

namespace PaperBroker

/-- The gateway sees the connection of its adapter. -/
def Synced (broker : PaperBroker) : Prop :=
  broker.gateway.adapterConnected = broker.adapter.connected

/-- When an adapter has moved, the gateway sees its new connection. -/
theorem synced_report (broker : PaperBroker) (adapter : DeterministicBrokerAdapter)
    (events : List BrokerEvent) : (broker.report adapter events).Synced :=
  BrokerGateway.foldl_handle_adapter _ events

/-- No call of the gateway but a dispatch, which engines make, loses the connection. -/
theorem Synced.next {broker : PaperBroker} (h : broker.Synced) (input : Input)
    (hinput : ∀ order decision, input ≠ .dispatchOrder order decision) :
    (paper.next broker input).Synced := by
  cases input with
  | connect =>
    change broker.connect.Synced
    unfold connect
    split
    · exact h
    · exact broker.synced_report _ _
  | disconnect => exact broker.synced_report _ _
  | dispatchOrder order decision => exact absurd rfl (hinput order decision)
  | requestCancel request =>
    change (broker.requestCancel request).1.Synced
    have hbegun := broker.gateway.beginCancel_adapter request
    unfold requestCancel
    rcases hbegin : broker.gateway.beginCancel request with ⟨gateway, asked⟩
    rw [hbegin] at hbegun
    cases asked with
    | false => exact hbegun.trans h
    | true =>
      exact (BrokerGateway.finishCancel_adapter _ request _).trans
        (synced_report { broker with gateway := gateway } _ _)
  | setPaperSimulationCosts feeRate slippageBps =>
    change broker.gateway.adapterConnected =
      (broker.adapter.setSimulationCosts feeRate slippageBps).1.connected
    unfold DeterministicBrokerAdapter.setSimulationCosts
    split <;> exact h
  | _ => exact h

end PaperBroker

namespace PaperSystem

variable {n : ℕ} {s : PaperSystem n} {i : Fin n} {args : ExecuteArgs}

/-- The gateway sees the connection of its adapter. -/
def Synced (s : PaperSystem n) : Prop := s.broker.Synced

/-- A call of an engine without a gateway fills its signal itself or does nothing. -/
theorem execute_unbound (hunbound : (s.system.engines i).bound = false) (args : ExecuteArgs) :
    ∃ t, (s.execute i args).1 = { s with system := t } ∧ s.system.Local t ∧
      (s.system.beginExecute i args).2 = .returned (s.execute i args).2 ∧
      s.system.Booked t i (s.system.engines i).symbol args.strategyId (s.execute i args).2 := by
  obtain ⟨t, result, hbegin, hlocal, hbooked⟩ := System.beginExecute_booked hunbound args
  simp only [execute, hbegin]
  exact ⟨t, rfl, hlocal, trivial, hbooked⟩

/-- A call of a bound engine that hands nothing over returns false. -/
theorem execute_of_none (hbound : (s.system.engines i).bound = true)
    (h : s.system.handedOrder i args = none) :
    (s.execute i args).2 = .ok false ∧
      s.system.KeepsTriggers (s.execute i args).1.system ∧
      (s.Synced → (s.execute i args).1.Synced) := by
  have hhanded := System.beginExecute_handed hbound args
  rw [h] at hhanded
  rcases hbegin : s.system.beginExecute i args with ⟨t, progress⟩
  rw [hbegin] at hhanded
  obtain ⟨hconnected, htriggers, hprogress, -⟩ := hhanded
  obtain rfl : progress = .returned (.ok false) := hprogress
  simp only [execute, hbegin]
  exact ⟨trivial, htriggers, fun hsynced => hconnected.trans hsynced⟩

/-- A call of a bound engine that hands an order over returns true, whatever the adapter
answers. The order stands afterwards exactly when the adapter accepts it or the key of its
acknowledgement was used before. -/
theorem execute_of_some (hbound : (s.system.engines i).bound = true) (hsynced : s.Synced)
    {order : NormalizedOrder} (h : s.system.handedOrder i args = some order) :
    (s.execute i args).2 = .ok true ∧
      s.system.KeepsTriggers (s.execute i args).1.system ∧ (s.execute i args).1.Synced ∧
      (PaperBroker.Stands (s.execute i args).1.system.gateway.lifecycle
          (s.system.engines i).nextLocalOrderId ↔
        s.adapter.Accepts order ∨
          EventKind.acknowledgement.key order.request.localOrderId ∈
            s.system.gateway.lifecycle.appliedEventKeys) := by
  obtain ⟨hid, hsequence, hkey, decision, htakes⟩ := System.handedOrder_request h
  have hplaced := BrokerGateway.placed_of_takes htakes (by rw [hsequence]; decide)
  have havoids : AvoidsInternal order.request.idempotencyKey := by
    rw [hkey]
    exact avoidsInternal_execution _
  have hconnected : s.adapter.connected = true := by
    rw [← show s.system.gateway.adapterConnected = s.adapter.connected from hsynced]
    simp only [BrokerGateway.takes, Bool.and_eq_true] at htakes
    exact BrokerGateway.adapterConnected_of_isConnected htakes.1.1.2
  have hhanded := System.beginExecute_handed hbound args
  rw [h] at hhanded
  rcases hbegin : s.system.beginExecute i args with ⟨t, progress⟩
  rw [hbegin] at hhanded
  obtain ⟨-, htriggers, hprogress, hrecorded⟩ := hhanded
  obtain rfl : progress = .submitting order := hprogress
  rw [← hrecorded order rfl] at hplaced
  obtain ⟨next, events, hsubmit, hnext, hstands⟩ :=
    @PaperBroker.report_stands ⟨t.gateway, s.adapter⟩ order _ hconnected havoids hplaced
  have hsubmit : s.adapter.submit order = (next, some events) := hsubmit
  let reported : PaperSystem n := report { s with system := t } next events
  let dispatched : System n := reported.system.setEngine i
    { reported.system.engines i with lastBrokerOrderId := order.request.localOrderId }
  have hexecute : s.execute i args = ({ reported with system := dispatched }, .ok true) := by
    simp only [execute, hbegin, hsubmit]
    rfl
  obtain ⟨hgateway, hreported⟩ := System.foldl_deliver_frame
    { t with gateway := { t.gateway with adapterConnected := next.connected } } events
  rw [hexecute]
  refine ⟨rfl, ?_, ?_, ?_⟩
  · refine htriggers.trans (hreported.trans ?_)
    exact System.keepsTriggers_setEngine _ i rfl
  · exact (congrArg BrokerGateway.adapterConnected hgateway).trans
      (BrokerGateway.foldl_handle_adapter _ events)
  · rw [← hid, ← hstands]
    exact iff_of_eq (congrArg (fun gateway : BrokerGateway => PaperBroker.Stands gateway.lifecycle
      order.request.localOrderId) hgateway)

/-- No `execute` call touches a protective order or loses the connection. -/
theorem execute_frame (hsynced : s.Synced) (i : Fin n) (args : ExecuteArgs) :
    s.system.KeepsTriggers (s.execute i args).1.system ∧ (s.execute i args).1.Synced := by
  cases hbound : (s.system.engines i).bound with
  | false =>
    obtain ⟨t, hexecute, hlocal, -, -⟩ := execute_unbound hbound args
    rw [hexecute]
    exact ⟨hlocal.keepsTriggers,
      (congrArg BrokerGateway.adapterConnected hlocal.gateway).trans hsynced⟩
  | true =>
    cases horder : s.system.handedOrder i args with
    | none =>
      obtain ⟨-, htriggers, hkept⟩ := execute_of_none hbound horder
      exact ⟨htriggers, hkept hsynced⟩
    | some order =>
      obtain ⟨-, htriggers, hkept, -⟩ := execute_of_some hbound hsynced horder
      exact ⟨htriggers, hkept⟩

end PaperSystem

namespace System

variable {n : ℕ}

/-- A call that fills its signal itself buys what is not held or sells what is. -/
theorem hasPosition_of_filled (s : System n) {i : Fin n} {args : ExecuteArgs}
    (h : (s.beginExecute i args).2 = .returned (.ok true)) :
    s.portfolio.hasPosition (s.engines i).symbol = decide (args.signal = .sell) := by
  unfold beginExecute at h
  dsimp only at h
  cases hdecision : (s.engines i).decideExecute s.portfolio s.risk s.gateway.isConnected
      args.signal args.marketPrice args.atr with
  | ignore =>
    rw [hdecision] at h
    cases h
  | block =>
    rw [hdecision] at h
    cases h
  | enter marketPrice plan =>
    obtain ⟨hsignal, -, -, -, hheld, -⟩ := ExecutionEngine.decideExecute_eq_enter hdecision
    rw [hheld, hsignal]
    rfl
  | exit marketPrice plan =>
    obtain ⟨hsignal, -, -, -, hheld, -⟩ := ExecutionEngine.decideExecute_eq_exit hdecision
    rw [hheld, hsignal]
    rfl

/-- Protective orders are the engine's own: the gateway does not see an update of them. -/
theorem gateway_updateTriggers (s : System n) (i : Fin n)
    (update : TriggerOrderManager → TriggerOrderManager × ℕ) :
    (s.updateTriggers i update).1.gateway = s.gateway := by
  unfold updateTriggers
  split <;> rfl

/-- Nor does it see that one of them is cancelled. -/
theorem gateway_cancelTrigger (s : System n) (i : Fin n) (orderId : ℕ) :
    (s.cancelTrigger i orderId).gateway = s.gateway := by
  unfold cancelTrigger
  split <;> rfl

/-- Cancelling a protective order books nothing. -/
theorem portfolio_cancelTrigger (s : System n) (i : Fin n) (orderId : ℕ) :
    (s.cancelTrigger i orderId).portfolio = s.portfolio := by
  unfold cancelTrigger
  split <;> rfl

/-- The resting fills of an engine are its own business: they touch neither the gateway nor any
protective order. -/
theorem local_processFills (i : Fin n) (s : System n) (fills : List OrderFillResult)
    (filledCount : ℕ) : s.Local (processFills i s fills filledCount).1 := by
  induction fills generalizing s filledCount with
  | nil => exact .refl s
  | cons fill fills ih =>
    obtain ⟨hlocal, -⟩ := s.processFill_booked i fill
    rw [processFills_cons]
    rcases hfill : s.processFill i fill with ⟨t, result⟩
    rw [hfill] at hlocal
    rcases result with e | filled
    · exact hlocal
    · cases filled with
      | false => exact hlocal.trans (ih t filledCount)
      | true => exact hlocal.trans (ih t (filledCount + 1))

end System

namespace PaperDesk

variable {n : ℕ} {d : PaperDesk n}

/-- The gateway sees the connection, and what a running call still has to execute is live. -/
structure Sane (d : PaperDesk n) : Prop where
  synced : d.state.Synced
  live : ∀ i events, d.running = some (i, events) →
    (events.map TriggerFillEvent.orderId).Subperm (d.state.system.liveTriggers i)

/-- A system whose gateway sees the connection is sane between two `processTriggerOrders` calls. -/
theorem sane_idle {s : PaperSystem n} (h : s.Synced) : Sane ⟨s, none⟩ :=
  ⟨h, fun _ _ hrunning => by cases hrunning⟩

/-- A call keeps the connection, and starts no loop but over live orders. -/
theorem sane_call {s : PaperSystem n} (h : s.Synced) (input : Input n) : Sane (call s input) := by
  cases input with
  | bindBrokerGateway i =>
    refine sane_idle (Eq.trans (b := s.system.gateway.adapterConnected) rfl (Eq.trans h ?_))
    change s.adapter.connected = (s.adapter.setSimulationCosts _ _).1.connected
    unfold DeterministicBrokerAdapter.setSimulationCosts
    split <;> rfl
  | execute i args => exact sane_idle (PaperSystem.execute_frame h i args).2
  | processTriggerOrders i bbo timestamp =>
    refine ⟨h, fun j events hrunning => ?_⟩
    cases hrunning
    exact (s.system.triggeredEvents_sublist i bbo timestamp).subperm
  | executeTriggered atr routeLatencyMs => exact sane_idle h
  | processPendingOrders i candle =>
    have hlocal := System.local_processFills i (s.system.triggered candle).1
      (s.system.triggered candle).2 0
    exact sane_idle ((congrArg BrokerGateway.adapterConnected hlocal.gateway).trans h)
  | placeStopLossTrigger i stopPrice quantity strategyId =>
    exact sane_idle ((congrArg BrokerGateway.adapterConnected
      (s.system.gateway_updateTriggers i _)).trans h)
  | placeOcoTrigger i stopPrice takeProfitPrice quantity strategyId =>
    exact sane_idle ((congrArg BrokerGateway.adapterConnected
      (s.system.gateway_updateTriggers i _)).trans h)
  | placePendingOrder order => exact sane_idle h
  | updatePnL symbol currentPrice =>
    refine sane_idle (Eq.trans ?_ h)
    change (s.system.markPrice symbol currentPrice).gateway.adapterConnected = _
    unfold System.markPrice
    split <;> rfl
  | setSystemConfig config => exact sane_idle h
  | risk input => exact sane_idle h
  | broker input =>
    cases input with
    | dispatchOrder order decision => exact sane_idle h
    | _ => exact sane_idle (PaperBroker.Synced.next h _ fun _ _ hinput => by cases hinput)

/-- A turn of a running call keeps what is left of it live. -/
theorem sane_triggerTurn {s : PaperSystem n} (h : s.Synced) (i : Fin n)
    (event : TriggerFillEvent) (events : List TriggerFillEvent)
    (hlive : ((event :: events).map TriggerFillEvent.orderId).Subperm (s.system.liveTriggers i))
    (atr : Option Double) (routeLatencyMs : ℚ) :
    Sane (triggerTurn s i event events atr routeLatencyMs) := by
  obtain ⟨htriggers, hsynced⟩ :=
    PaperSystem.execute_frame h i (System.triggerArgs event atr routeLatencyMs)
  unfold triggerTurn
  generalize s.execute i (System.triggerArgs event atr routeLatencyMs) = outcome at *
  obtain ⟨t, e | filled⟩ := outcome
  · exact sane_idle hsynced
  · have hafter : ((event :: events).map TriggerFillEvent.orderId).Subperm
        (t.system.liveTriggers i) := by
      rw [htriggers.liveTriggers_eq i]
      exact hlive
    cases filled with
    | false =>
      refine ⟨hsynced, fun j rest hrunning => ?_⟩
      cases hrunning
      exact (List.sublist_cons_self _ _).subperm.trans hafter
    | true =>
      refine ⟨(congrArg BrokerGateway.adapterConnected
        (t.system.gateway_cancelTrigger i event.orderId)).trans hsynced, fun j rest hrunning => ?_⟩
      cases hrunning
      have hrest := hafter.erase event.orderId
      rw [List.map_cons, List.erase_cons_head] at hrest
      exact hrest.trans (t.system.liveTriggers_cancelTrigger i event.orderId).1.symm.subperm

/-- Every input keeps the desk sane. -/
theorem Sane.next (h : d.Sane) (input : Input n) : (desk.next d input).Sane := by
  obtain ⟨s, running⟩ := d
  have hidle : Sane ⟨s, none⟩ := sane_idle h.synced
  cases running with
  | none =>
    have hcall : desk.next ⟨s, none⟩ input = call s input := by cases input <;> rfl
    rw [hcall]
    exact sane_call h.synced input
  | some call =>
    obtain ⟨i, events⟩ := call
    cases input with
    | executeTriggered atr routeLatencyMs =>
      cases events with
      | nil => exact hidle
      | cons event events =>
        exact sane_triggerTurn h.synced i event events (h.live i _ rfl) atr routeLatencyMs
    | _ => exact h

/-- The turn that an input takes in a running `processTriggerOrders` call: the engine, the
emitted event and the `execute` call for it. -/
def turn (d : PaperDesk n) : Input n → Option (Fin n × TriggerFillEvent × ExecuteArgs)
  | .executeTriggered atr routeLatencyMs =>
    match d.running with
    | some (i, event :: _) => some (i, event, System.triggerArgs event atr routeLatencyMs)
    | _ => none
  | _ => none

/-- An engine without a gateway has filled an exit itself, in the direction of its event. -/
def FilledLocally (s t : System n) (i : Fin n) (event : TriggerFillEvent) (strategyId : String) :
    Prop :=
  (s.engines i).bound = false ∧
    if event.isBuy then ∃ p, s.portfolio.Opened t.portfolio (s.engines i).symbol strategyId p
    else ∃ p record, s.portfolio.Closed t.portfolio (s.engines i).symbol strategyId p record

/-- The broker has the exit that a bound engine has sent, and not as rejected. -/
def AcceptedByBroker (s t : System n) (i : Fin n) : Prop :=
  (s.engines i).bound = true ∧
    ∃ record, t.gateway.orderLifecycle (s.engines i).nextLocalOrderId = some record ∧
      record.state ≠ .rejected

/-- A turn takes away no protective order but the one of its event, and that one only if its
exit was filled locally or accepted by the broker. -/
def RetainsUntilAccepted (d : PaperDesk n) (input : Input n) : Prop :=
  ∀ i event args, d.turn input = some (i, event, args) → ∀ j orderId,
    ((desk.next d input).state.system.liveTriggers j).count orderId <
        (d.state.system.liveTriggers j).count orderId →
      j = i ∧ orderId = event.orderId ∧
        (FilledLocally d.state.system (desk.next d input).state.system i event
            args.strategyId ∨
          AcceptedByBroker d.state.system (desk.next d input).state.system i)

/-- An exit that a turn hands to the adapter is accepted there: no injected error or drop hits
it and the arithmetic represents its fill. A rejection is also harmless where the key of its
acknowledgement was used before, since the store then ignores it. -/
def ExitAcceptable (d : PaperDesk n) (input : Input n) : Prop :=
  ∀ i event args, d.turn input = some (i, event, args) →
    (d.state.system.engines i).bound = true → ∀ order,
      d.state.system.handedOrder i args = some order →
        d.state.adapter.Accepts order ∨
          EventKind.acknowledgement.key order.request.localOrderId ∈
            d.state.system.gateway.lifecycle.appliedEventKeys

/-- A turn takes the first event that is left in the running call, and executes it. -/
theorem turn_eq_some {input : Input n} {i : Fin n} {event : TriggerFillEvent}
    {args : ExecuteArgs} (h : d.turn input = some (i, event, args)) :
    ∃ events atr routeLatencyMs, d.running = some (i, event :: events) ∧
      args = System.triggerArgs event atr routeLatencyMs ∧
      desk.next d input = triggerTurn d.state i event events atr routeLatencyMs := by
  obtain ⟨s, running⟩ := d
  cases input with
  | executeTriggered atr routeLatencyMs =>
    rcases running with _ | ⟨j, _ | ⟨first, rest⟩⟩
    · cases h
    · cases h
    · cases h
      exact ⟨rest, atr, routeLatencyMs, rfl, rfl, rfl⟩
  | _ => cases h

/-- A turn whose `execute` call does not return true leaves every protective order live. -/
theorem state_triggerTurn {s : PaperSystem n} {i : Fin n} {event : TriggerFillEvent}
    {events : List TriggerFillEvent} {atr : Option Double} {routeLatencyMs : ℚ}
    (h : (s.execute i (System.triggerArgs event atr routeLatencyMs)).2 ≠ .ok true) :
    (triggerTurn s i event events atr routeLatencyMs).state =
      (s.execute i (System.triggerArgs event atr routeLatencyMs)).1 := by
  unfold triggerTurn
  generalize s.execute i (System.triggerArgs event atr routeLatencyMs) = outcome at *
  obtain ⟨t, e | filled⟩ := outcome
  · rfl
  · cases filled with
    | false => rfl
    | true => exact absurd rfl h

/-- A turn whose `execute` call returns true cancels the protective order of its event. -/
theorem state_triggerTurn_filled {s : PaperSystem n} {i : Fin n} {event : TriggerFillEvent}
    {events : List TriggerFillEvent} {atr : Option Double} {routeLatencyMs : ℚ}
    (h : (s.execute i (System.triggerArgs event atr routeLatencyMs)).2 = .ok true) :
    (triggerTurn s i event events atr routeLatencyMs).state.system =
      (s.execute i (System.triggerArgs event atr routeLatencyMs)).1.system.cancelTrigger i
        event.orderId := by
  unfold triggerTurn
  generalize s.execute i (System.triggerArgs event atr routeLatencyMs) = outcome at *
  obtain ⟨t, result⟩ := outcome
  obtain rfl : result = .ok true := h
  rfl

/-- After a cancel, the only protective order that can be missing is the canceled one. -/
theorem count_cancelTrigger {s t : System n} (htriggers : s.KeepsTriggers t) (i : Fin n)
    (canceled : ℕ) :
    (∀ j orderId, ((t.cancelTrigger i canceled).liveTriggers j).count orderId <
        (s.liveTriggers j).count orderId → j = i ∧ orderId = canceled) ∧
      (canceled ∈ s.liveTriggers i →
        ((t.cancelTrigger i canceled).liveTriggers i).count canceled <
          (s.liveTriggers i).count canceled) := by
  obtain ⟨hperm, hothers⟩ := t.liveTriggers_cancelTrigger i canceled
  rw [htriggers.liveTriggers_eq i] at hperm
  refine ⟨fun j orderId hless => ?_, fun hmem => ?_⟩
  · by_cases hj : j = i
    · refine ⟨hj, ?_⟩
      by_contra hne
      rw [hj, hperm.count_eq, List.count_erase_of_ne hne] at hless
      exact lt_irrefl _ hless
    · rw [hothers j hj, htriggers.liveTriggers_eq j] at hless
      exact absurd hless (lt_irrefl _)
  · rw [hperm.count_eq, List.count_erase_self]
    have hpos := List.count_pos_iff.mpr hmem
    omega

/-- What a turn has to satisfy, in terms of the `execute` call it makes. -/
theorem retains_iff_of_turn {input : Input n} {i : Fin n} {event : TriggerFillEvent}
    {args : ExecuteArgs} (h : d.turn input = some (i, event, args)) :
    d.RetainsUntilAccepted input ↔ ∀ j orderId,
      ((desk.next d input).state.system.liveTriggers j).count orderId <
        (d.state.system.liveTriggers j).count orderId →
      j = i ∧ orderId = event.orderId ∧
        (FilledLocally d.state.system (desk.next d input).state.system i event
            args.strategyId ∨
          AcceptedByBroker d.state.system (desk.next d input).state.system i) := by
  unfold RetainsUntilAccepted
  rw [h]
  refine ⟨fun hall => hall i event args rfl, fun hall j other args' hsome => ?_⟩
  cases hsome
  exact hall

/-- At a turn the condition is one about the order that this turn hands over, if it hands over one
at all. -/
theorem acceptable_iff_of_turn {input : Input n} {i : Fin n} {event : TriggerFillEvent}
    {args : ExecuteArgs} (h : d.turn input = some (i, event, args)) :
    d.ExitAcceptable input ↔ ((d.state.system.engines i).bound = true → ∀ order,
      d.state.system.handedOrder i args = some order →
        d.state.adapter.Accepts order ∨
          EventKind.acknowledgement.key order.request.localOrderId ∈
            d.state.system.gateway.lifecycle.appliedEventKeys) := by
  unfold ExitAcceptable
  rw [h]
  refine ⟨fun hall => hall i event args rfl, fun hall j other args' hsome => ?_⟩
  cases hsome
  exact hall

/-- An exit that an engine has filled itself went the way its protective order says. -/
theorem filledLocally_of_booked {s t : System n} {i : Fin n} {event : TriggerFillEvent}
    {args : ExecuteArgs} (hunbound : (s.engines i).bound = false)
    (hsignal : args.signal = if event.isBuy then .buy else .sell)
    (hfilled : (s.beginExecute i args).2 = .returned (.ok true))
    (h : s.Booked t i (s.engines i).symbol args.strategyId (.ok true)) :
    FilledLocally s t i event args.strategyId := by
  refine ⟨hunbound, ?_⟩
  have hheld := s.hasPosition_of_filled hfilled
  cases hside : event.isBuy with
  | true =>
    rw [hsignal, hside, if_pos rfl] at hheld
    rw [if_pos rfl]
    cases h with
    | unfilled hresult _ _ => exact absurd rfl hresult
    | bought _ hopened _ _ => exact ⟨_, hopened⟩
    | sold hclosed _ _ _ _ =>
      have hopen := AList.lookup_isSome.mp (Option.isSome_of_eq_some hclosed.lookup)
      rw [PortfolioManager.hasPosition, decide_eq_true hopen] at hheld
      cases hheld
  | false =>
    rw [hsignal, hside, if_neg Bool.false_ne_true] at hheld
    rw [if_neg Bool.false_ne_true]
    cases h with
    | unfilled hresult _ _ => exact absurd rfl hresult
    | bought _ hopened _ _ =>
      rw [PortfolioManager.hasPosition, decide_eq_false hopened.closed] at hheld
      cases hheld
    | sold hclosed _ _ _ _ => exact ⟨_, _, hclosed⟩

/-- A turn keeps protective orders live exactly as long as the adapter accepts the exits. -/
theorem Sane.retains_iff (h : d.Sane) (input : Input n) :
    d.RetainsUntilAccepted input ↔ d.ExitAcceptable input := by
  cases hturn : d.turn input with
  | none =>
    refine iff_of_true (fun i event args hsome => ?_) (fun i event args hsome => ?_) <;>
    · rw [hturn] at hsome
      cases hsome
  | some call =>
    obtain ⟨i, event, args⟩ := call
    obtain ⟨events, atr, routeLatencyMs, hrunning, rfl, hnext⟩ := turn_eq_some hturn
    rw [retains_iff_of_turn hturn, acceptable_iff_of_turn hturn, hnext]
    have hlive : event.orderId ∈ d.state.system.liveTriggers i :=
      (h.live i _ hrunning).subset List.mem_cons_self
    obtain ⟨htriggers, -⟩ :=
      PaperSystem.execute_frame h.synced i (System.triggerArgs event atr routeLatencyMs)
    obtain ⟨honly, hmissing⟩ := count_cancelTrigger htriggers i event.orderId
    cases hbound : (d.state.system.engines i).bound with
    | false =>
      refine iff_of_true (fun j orderId hless => ?_) (fun hbound => absurd hbound (by decide))
      obtain ⟨t, hexecute, -, hresult, hbooked⟩ :=
        PaperSystem.execute_unbound hbound (System.triggerArgs event atr routeLatencyMs)
      by_cases hfilled :
          (d.state.execute i (System.triggerArgs event atr routeLatencyMs)).2 = .ok true
      · rw [state_triggerTurn_filled hfilled] at hless ⊢
        obtain ⟨hj, hid⟩ := honly j orderId hless
        refine ⟨hj, hid, .inl ?_⟩
        rw [hfilled] at hresult hbooked
        rw [hexecute]
        have hlocal := filledLocally_of_booked hbound rfl hresult hbooked
        unfold FilledLocally at hlocal ⊢
        rwa [System.portfolio_cancelTrigger]
      · rw [state_triggerTurn hfilled, htriggers.liveTriggers_eq j] at hless
        exact absurd hless (lt_irrefl _)
    | true =>
      cases horder : d.state.system.handedOrder i
          (System.triggerArgs event atr routeLatencyMs) with
      | none =>
        obtain ⟨hresult, -, -⟩ := PaperSystem.execute_of_none hbound horder
        refine iff_of_true (fun j orderId hless => ?_) (fun _ _ hsome => by cases hsome)
        rw [state_triggerTurn (by rw [hresult]; simp), htriggers.liveTriggers_eq j] at hless
        exact absurd hless (lt_irrefl _)
      | some order =>
        obtain ⟨hresult, -, -, hstands⟩ :=
          PaperSystem.execute_of_some hbound h.synced horder
        rw [state_triggerTurn_filled hresult]
        have haccepted : AcceptedByBroker d.state.system
            ((d.state.execute i
              (System.triggerArgs event atr routeLatencyMs)).1.system.cancelTrigger
                i event.orderId) i ↔ d.state.adapter.Accepts order ∨
                EventKind.acknowledgement.key order.request.localOrderId ∈
                  d.state.system.gateway.lifecycle.appliedEventKeys := by
          rw [← hstands, AcceptedByBroker, BrokerGateway.orderLifecycle,
            System.gateway_cancelTrigger, and_iff_right hbound]
          rfl
        constructor
        · intro hall _ other hother
          cases hother
          obtain ⟨-, -, hlocal | hbroker⟩ := hall i event.orderId (hmissing hlive)
          · exact absurd (hbound.symm.trans hlocal.1) (by decide)
          · exact haccepted.mp hbroker
        · intro hall j orderId hless
          obtain ⟨hj, hid⟩ := honly j orderId hless
          exact ⟨hj, hid, .inr (haccepted.mpr (hall rfl order rfl))⟩

/-- A desk on a newly made PAPER gateway is sane, and stays it. -/
theorem sane_run (system : System n) (config : SystemConfig) (inputs : List (Input n)) :
    (desk.run ⟨.create system config, none⟩ inputs).Sane := by
  have hstart : Sane ⟨PaperSystem.create system config, none⟩ := sane_idle rfl
  exact Machine.invariant_run (fun d input h => h.next input) hstart inputs

/-- **Protective orders are retained exactly while their exits are accepted.** In every desk
that is reached, a turn of `processTriggerOrders` keeps every protective order whose exit was
neither filled locally nor accepted by the broker if and only if the adapter accepts the exit,
should the turn hand one over. -/
theorem retainsUntilAccepted_iff (system : System n) (config : SystemConfig)
    (inputs : List (Input n)) (input : Input n) :
    (desk.run ⟨.create system config, none⟩ inputs).RetainsUntilAccepted input ↔
      (desk.run ⟨.create system config, none⟩ inputs).ExitAcceptable input :=
  (sane_run system config inputs).retains_iff input

/-- One engine of `main` with room for one protective order. -/
def guarded : System 1 where
  portfolio := .fresh
  risk := {}
  gateway := { config := {}, adapter := .deterministic }
  engines := fun _ => { ExecutionEngine.main "A" with triggerOrders := some (.ofCapacity 1) }
  executionObservers := []
  reportsRejections := false
  analytics := {}
  clock := id

/-- A position is opened and protected, and the adapter is going to reject its exit. -/
def rejectedExit : List (Input 1) := [
  .broker .connect,
  .bindBrokerGateway 0,
  .execute 0 {
    signal := .buy
    marketPrice := .finite 100
    timestamp := 60
    strategyId := "trend" },
  .placeStopLossTrigger 0 (.finite 90) 0 "trend",
  .broker (.injectNextOrderError "no margin"),
  .processTriggerOrders 0 {
    valid := true
    bidPrice := .finite 80
    bidSize := .finite 1
    askPrice := .finite 81
    askSize := .finite 1 } 120]

/-- The exit is rejected, its protective order is gone and the position is still open. -/
theorem not_retains_rejectedExit :
    ¬∀ (n : ℕ) (system : System n) (config : SystemConfig) (inputs : List (Input n))
      (input : Input n),
      (desk.run ⟨.create system config, none⟩ inputs).RetainsUntilAccepted input := by
  intro h
  let d := desk.run ⟨.create guarded { mode := .paper }, none⟩ rejectedExit
  let input : Input 1 := .executeTriggered none 0
  have hturn : (d.turn input).isSome = true := by decide +kernel
  obtain ⟨⟨i, event, args⟩, hturn⟩ := Option.isSome_iff_exists.mp hturn
  obtain rfl : i = 0 := Subsingleton.elim i 0
  have hless : ((desk.next d input).state.system.liveTriggers 0).count 1 <
      (d.state.system.liveTriggers 0).count 1 := by decide +kernel
  have hbound : (d.state.system.engines 0).bound = true := by decide +kernel
  obtain ⟨-, -, hlocal | ⟨-, record, hrecord, hstate⟩⟩ :=
    h 1 guarded { mode := .paper } rejectedExit input 0 event args hturn 0 1 hless
  · exact absurd (hbound.symm.trans hlocal.1) (by decide)
  · have hrejected : ((desk.next d input).state.system.gateway.orderLifecycle
        (d.state.system.engines 0).nextLocalOrderId).map OrderLifecycleRecord.state =
          some .rejected := by decide +kernel
    change (desk.next d input).state.system.gateway.orderLifecycle _ = some record at hrecord
    rw [hrecord] at hrejected
    exact hstate (Option.some.inj hrejected)

end PaperDesk

end TradeBot
