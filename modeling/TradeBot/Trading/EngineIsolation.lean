import TradeBot.Trading.FillAgreement
import TradeBot.Trading.OfferedOrders

/-!
# Isolation of the engines of one gateway

Several engines share a gateway, its order store and the risk engine. An engine disturbs
another one in two ways: it takes the number that the other is about to give an order, and its
fills make the other report API errors, for every engine is told of every execution. Where
neither happens, calls and confirmed broker events never halt trading.
-/

namespace TradeBot

open Library

/-- The key of a broker event. -/
def BrokerEvent.eventKey : BrokerEvent → String
  | .acknowledgement event => event.eventKey
  | .execution event => event.eventKey
  | .cancelResult event => event.eventKey
  | .health event => event.eventKey

namespace OrderLifecycleStore

variable {store : OrderLifecycleStore}

/-- The store knows the keys that engines and the gateway make only with their orders. -/
structure KeysRecorded (store : OrderLifecycleStore) : Prop where
  marks : store.MarksRecorded
  orders : store.Records executionKey

/-- In an empty store no key needs an order. -/
theorem keysRecorded_empty : empty.KeysRecorded :=
  ⟨marksRecorded_empty, records_empty executionKey⟩

/-- An event under a key that is neither the gateway's nor an engine's keeps the keys recorded. -/
theorem KeysRecorded.handleEvent (h : store.KeysRecorded) {eventKey : String}
    (hgateway : ¬BeginsWith "gateway-" eventKey) (hengine : ¬BeginsWith "execution-" eventKey)
    (localOrderId : ℕ) (decision : OrderLifecycleRecord → Except Refusal OrderLifecycleRecord) :
    (store.handleEvent localOrderId eventKey decision).1.KeysRecorded :=
  ⟨h.marks.handleEvent (marksOnly_of_avoids hgateway) decision,
    h.orders.handleEvent (onlyKeyOf_of_avoids executionKey_beginsWith hengine) decision⟩

/-- Keys of the gateway are no keys of engines. -/
private theorem avoids_execution {eventKey : String} (h : BeginsWith "gateway-" eventKey) :
    ¬BeginsWith "execution-" eventKey := by
  intro hengine
  rcases h.comparable hengine with h | h
  · exact absurd h (by decide)
  · exact absurd h (by decide)

/-- Keys of engines are no keys of the gateway. -/
private theorem avoids_gateway (localOrderId : ℕ) :
    ¬BeginsWith "gateway-" (executionKey localOrderId) := fun h =>
  avoids_execution h (executionKey_beginsWith localOrderId)

/-- A failed dispatch is marked under a key of its own. -/
theorem KeysRecorded.markFailed (h : store.KeysRecorded) (localOrderId : ℕ)
    (failure : FailureCategory) (reason : String) (timestampNs sequence : ℕ) :
    (store.markUnknown localOrderId ("gateway-dispatch-failed-" ++ toString localOrderId) failure
      reason timestampNs sequence).1.KeysRecorded := by
  have hstem : BeginsWith "gateway-dispatch-failed-"
      ("gateway-dispatch-failed-" ++ toString localOrderId) := beginsWith_append _ _
  have hgateway : BeginsWith "gateway-" ("gateway-dispatch-failed-" ++ toString localOrderId) := by
    refine BeginsWith.append ?_ _
    decide
  constructor
  · apply h.marks.markUnknown
    exact marksOnly_of_beginsWith hstem (by decide) (by decide)
  · apply h.orders.markUnknown
    exact onlyKeyOf_of_avoids executionKey_beginsWith (avoids_execution hgateway)

/-- An order of an engine is recorded under its key. -/
theorem KeysRecorded.recordOrder (h : store.KeysRecorded) {order : NormalizedOrder}
    (hkey : order.request.idempotencyKey = executionKey order.request.localOrderId)
    (hcreate : (store.create (BrokerGateway.lifecycleRequest order)).2 = true) :
    (BrokerGateway.recordOrder store order).KeysRecorded := by
  constructor
  · apply h.marks.recordOrder ?_ hcreate
    rw [hkey]
    exact avoids_gateway _
  · refine h.orders.recordOrder ?_ (fun kind hkind => ?_) hcreate
    · rw [hkey]
      exact onlyKeyOf_self executionKey_injective _
    · exact onlyKeyOf_of_avoids executionKey_beginsWith
        (avoids_execution (beginsWith_gateway hkind _))

end OrderLifecycleStore

namespace BrokerGateway

/-- A broker event goes through the store at most once, under its own key. -/
theorem handle_lifecycle (gateway : BrokerGateway) (event : BrokerEvent) :
    (gateway.handle event).lifecycle = gateway.lifecycle ∨ ∃ localOrderId decision,
      (gateway.handle event).lifecycle =
        (gateway.lifecycle.handleEvent localOrderId event.eventKey decision).1 := by
  cases event with
  | acknowledgement acknowledgement =>
    unfold handle handleAcknowledgement
    dsimp only
    split
    · next store heq =>
      refine Or.inr ⟨acknowledgement.localOrderId,
        OrderLifecycleStore.decideAcknowledgement acknowledgement, ?_⟩
      exact (congrArg Prod.fst heq).symm
    · exact Or.inl rfl
  | execution execution =>
    unfold handle handleExecution
    dsimp only
    split
    · next store heq =>
      refine Or.inr ⟨execution.localOrderId, OrderLifecycleStore.decideExecution execution, ?_⟩
      exact (congrArg Prod.fst heq).symm
    · exact Or.inl rfl
    · exact Or.inl rfl
  | cancelResult result =>
    unfold handle handleCancel
    dsimp only
    split
    · next store heq =>
      refine Or.inr ⟨result.localOrderId, OrderLifecycleStore.decideCancelResult result, ?_⟩
      exact (congrArg Prod.fst heq).symm
    · exact Or.inl rfl
  | health health => exact Or.inl rfl

end BrokerGateway

namespace Session

variable {n : ℕ} {s : Session n}

/-- An `execute` call, its return, or a broker event that comes with a key of its own. -/
def Input.IsTrading : Input n → Prop
  | .execute _ _ | .submitReturned _ => True
  | .deliver event =>
    ¬BeginsWith "gateway-" event.eventKey ∧ ¬BeginsWith "execution-" event.eventKey
  | _ => False

instance (input : Input n) : Decidable input.IsTrading := by
  unfold Input.IsTrading
  split <;> infer_instance

/-- The system whose observers are told of an execution, with the execution. -/
def notified (s : Session n) : Input n → Option (System n × ExecutionEvent)
  | .deliver (.execution execution) =>
    match s.system.gateway.handleExecution execution with
    | (gateway, true) => some ({ s.system with gateway := gateway }, execution)
    | (_, false) => none
  | _ => none

/-- Every order that the step's call offers is handed to the adapter. -/
def NoneRefused (s : Session n) (input : Input n) : Prop :=
  ∀ call ∈ s.executeCall input, ∀ order ∈ s.system.offeredOrder call.1 call.2,
    (s.system.beginExecute call.1 call.2).2.submitted = some order

/-- No engine but the order's own reports an execution as an API error. -/
def ReportsOwn (s : Session n) (input : Input n) : Prop :=
  ∀ told ∈ s.notified input,
    ∀ i ∈ System.reporters told.2 told.1 told.1.executionObservers,
      told.1.OwnsOrder i told.2.localOrderId

/-- The step disturbs no engine on account of another one. -/
def Isolated (s : Session n) (input : Input n) : Prop := s.NoneRefused input ∧ s.ReportsOwn input

/-- No other engine has an order in the store under the number of an offered order. -/
def NumbersFree (s : Session n) (input : Input n) : Prop :=
  ∀ call ∈ s.executeCall input, ∀ order ∈ s.system.offeredOrder call.1 call.2,
    ∀ record ∈ s.system.gateway.lifecycle.find order.request.localOrderId,
      record.request.canonicalSymbol = (s.system.engines call.1).symbol

/-- There is no engine but the order's own where an execution is applied. -/
def HeardByOwner (s : Session n) (input : Input n) : Prop :=
  ∀ told ∈ s.notified input, ∀ i, told.1.OwnsOrder i told.2.localOrderId

/-- The step gives no engine cause to disturb another one. -/
def Apart (s : Session n) (input : Input n) : Prop := s.NumbersFree input ∧ s.HeardByOwner input

instance (input : Input n) : Decidable (s.NoneRefused input) :=
  inferInstanceAs (Decidable (∀ call ∈ _, ∀ order ∈ _, _ = _))

instance (input : Input n) : Decidable (s.ReportsOwn input) :=
  inferInstanceAs (Decidable (∀ told ∈ _, ∀ _ ∈ _, _))

instance (input : Input n) : Decidable (s.NumbersFree input) :=
  inferInstanceAs (Decidable (∀ call ∈ _, ∀ order ∈ _, ∀ record ∈ _, _ = _))

instance (input : Input n) : Decidable (s.HeardByOwner input) :=
  inferInstanceAs (Decidable (∀ told ∈ _, ∀ _, _))

instance (input : Input n) : Decidable (s.Isolated input) :=
  inferInstanceAs (Decidable (_ ∧ _))

instance (input : Input n) : Decidable (s.Apart input) := inferInstanceAs (Decidable (_ ∧ _))

/-- What holds along calls and broker events: the books are sound, the numbers of each engine's
orders are below its next one, and the store knows their keys only with the orders. -/
structure Orderly (s : Session n) : Prop where
  sound : s.system.books.Sound
  numbered : s.system.books.Numbered
  keys : s.system.gateway.lifecycle.KeysRecorded

/-- A fresh session is orderly. -/
theorem orderly_of_fresh (h : s.system.Fresh) : s.Orderly := by
  refine ⟨h.sound, fun i id record hfind => ?_, ?_⟩
  · change s.system.gateway.lifecycle.find id = some record at hfind
    rw [h.lifecycle_eq] at hfind
    cases hfind
  · rw [h.lifecycle_eq]
    exact OrderLifecycleStore.keysRecorded_empty

/-- The return of an accepted submission leaves the risk engine alone. -/
theorem risk_stepSubmitReturned (system : System n) (i : Fin n) (order : NormalizedOrder)
    (loop : Option (TriggerFillEvent × TriggerLoop)) :
    (stepSubmitReturned system i order loop true).1.system.risk = system.risk := by
  have hdispatched : (system.finishDispatch i order true).1.risk = system.risk :=
    system.risk_finishDispatch i order
  unfold stepSubmitReturned
  dsimp only
  split
  · exact hdispatched
  · exact hdispatched
  · change (System.cancelTrigger _ i _).risk = _
    unfold System.cancelTrigger
    split <;> exact hdispatched
  · exact hdispatched

/-- The store after a call, its return, or a broker event. -/
theorem keysRecorded_next (h : s.Orderly) {input : Input n} (hinput : input.IsTrading) :
    (session.next s input).system.gateway.lifecycle.KeysRecorded := by
  obtain ⟨system, control⟩ := s
  have hstore {t : System n} {b : Books n} (hbooks : t.books = b)
      (hkeys : b.lifecycle.KeysRecorded) : t.gateway.lifecycle.KeysRecorded := by
    rw [← hbooks] at hkeys
    exact hkeys
  cases input with
  | execute i args =>
    cases control with
    | idle =>
      rw [next_execute]
      rcases system.beginExecute_books (h.sound.wired.bound i) args with
        hbooks | hbooks | ⟨isBuy, order, horder, hbooks⟩
      · exact hstore hbooks h.keys
      · exact hstore hbooks h.keys
      · have hrecorded := system.executeOrder_recorded horder
        refine hstore hbooks (h.keys.recordOrder ?_ hrecorded.created)
        exact system.executeOrder_key horder
    | _ => exact h.keys
  | submitReturned accepted =>
    cases control with
    | submitting i order loop =>
      refine hstore ((books_stepSubmitReturned system i order loop accepted).trans
        (system.finishDispatch_books i order accepted)) ?_
      change (system.gateway.finishDispatch order accepted).1.lifecycle.KeysRecorded
      unfold BrokerGateway.finishDispatch
      split
      · exact h.keys
      · exact h.keys.markFailed _ _ _ _ _
    | _ => exact h.keys
  | deliver event =>
    change (system.deliver event).gateway.lifecycle.KeysRecorded
    rw [(system.deliver_frame event).1]
    rcases system.gateway.handle_lifecycle event with hsame | ⟨localOrderId, decision, hevent⟩
    · rw [hsame]
      exact h.keys
    · rw [hevent]
      exact h.keys.handleEvent hinput.1 hinput.2 localOrderId decision
  | _ => cases hinput

/-- Trading keeps it orderly. -/
theorem orderly_next (h : s.Orderly) {input : Input n} (hinput : input.IsTrading) :
    (session.next s input).Orderly :=
  ⟨sound_next h.sound input, numbered_next h.numbered h.sound.wired input,
    keysRecorded_next h hinput⟩

/-- Offered orders reach the adapter exactly when their numbers are free of other engines. -/
theorem noneRefused_iff (h : s.Orderly) (input : Input n) :
    s.NoneRefused input ↔ s.NumbersFree input := by
  have hsubmitted (call : Fin n × ExecuteArgs) {order : NormalizedOrder}
      (horder : s.system.offeredOrder call.1 call.2 = some order) :
      (s.system.beginExecute call.1 call.2).2.submitted = some order ↔
        s.system.gateway.lifecycle.find order.request.localOrderId = none :=
    System.submitted_iff (h.sound.wired.bound call.1) h.keys.marks h.keys.orders horder
  constructor
  · intro hnone call hcall order horder record hrecord
    rw [(hsubmitted call horder).mp (hnone call hcall order horder)] at hrecord
    cases hrecord
  · intro hfree call hcall order horder
    rw [hsubmitted call horder, Option.eq_none_iff_forall_ne_some]
    intro record hrecord
    -- an order of the engine itself would have a lower number
    have hlt := h.numbered call.1 _ record hrecord (hfree call hcall order horder record hrecord)
    change _ < (s.system.engines call.1).nextLocalOrderId at hlt
    rw [System.offeredOrder_request horder] at hlt
    exact lt_irrefl _ hlt

/-- Observers are told of an execution exactly when the store applies it. -/
theorem notified_eq_some {input : Input n} {told : System n × ExecutionEvent}
    (h : told ∈ s.notified input) :
    ∃ gateway, told.1 = { s.system with gateway := gateway } ∧
      s.appliedExecution input = some (told.2, gateway.lifecycle) := by
  cases input with
  | deliver event =>
    cases event with
    | execution execution =>
      rcases hhandle : s.system.gateway.handleExecution execution with ⟨gateway, called⟩
      have hcases := s.system.gateway.handleExecution_cases execution
      simp only [notified, hhandle] at h
      rw [hhandle] at hcases
      rcases hcases with ⟨hcalled, -, -⟩ | ⟨hcalled, happlied⟩
      · cases hcalled
        cases h
      · cases hcalled
        cases h
        refine ⟨gateway, rfl, ?_⟩
        simp only [appliedExecution, happlied]
    | _ => cases h
  | _ => cases h

/-- Only its own engine reports an execution exactly when there is no other one. -/
theorem reportsOwn_iff (hwired : s.system.books.Wired) (input : Input n) :
    s.ReportsOwn input ↔ s.HeardByOwner input := by
  constructor
  · intro hreports told htold i
    obtain ⟨gateway, hsystem, -⟩ := notified_eq_some htold
    have hbound : (told.1.engines i).bound = true := by
      rw [hsystem]
      exact hwired.bound i
    have hobserves : i ∈ told.1.executionObservers := by
      rw [hsystem]
      exact hwired.observes i
    by_contra hother
    exact hother (hreports told htold i (told.1.mem_reporters_other hobserves hbound hother))
  · intro hheard told htold i _
    exact hheard told htold i

/-- From an orderly session an input is isolated exactly when it keeps the engines apart. -/
theorem isolated_iff (h : s.Orderly) (input : Input n) : s.Isolated input ↔ s.Apart input :=
  and_congr (noneRefused_iff h input) (reportsOwn_iff h.sound.wired input)

/-- The broker confirms: the adapter takes the order, the acknowledgement accepts it. -/
def Input.Confirms : Input n → Prop
  | .submitReturned accepted => accepted = true
  | .deliver (.acknowledgement acknowledgement) => acknowledgement.accepted = true
  | _ => True

instance (input : Input n) : Decidable input.Confirms := by
  unfold Input.Confirms
  split <;> infer_instance

/-- An execution that the store applies brings a new fill. -/
def FillsNew (s : Session n) (input : Input n) : Prop :=
  ∀ applied ∈ s.appliedExecution input,
    ∀ record ∈ s.system.gateway.lifecycle.find applied.1.localOrderId,
      applied.1.cumulativeFilledQuantity.toRat ≠ record.filledQuantity.toRat

instance (input : Input n) : Decidable (s.FillsNew input) :=
  inferInstanceAs (Decidable (∀ applied ∈ _, ∀ record ∈ _, _ ≠ _))

/-- A new fill that is told to its own engine only, and that it can book, is no API error. -/
private theorem breaker_notified (h : s.system.books.Sound) {input : Input n}
    (hheard : s.HeardByOwner input) (hnew : s.FillsNew input) (hbookable : s.FillsBookable input)
    {told : System n × ExecutionEvent} (htold : told ∈ s.notified input) :
    (told.1.notifyExecution told.2).risk.breaker = s.system.risk.breaker := by
  have howner := hheard told htold
  obtain ⟨t, execution⟩ := told
  obtain ⟨gateway, rfl, hexecution⟩ := notified_eq_some htold
  obtain ⟨record, next, happlied⟩ := appliedTo h hexecution
  have hwired := h.wired
  have hnext : gateway.orderLifecycle execution.localOrderId = some next := happlied.next_eq
  have hsymbol (i : Fin n) : record.request.canonicalSymbol = (s.system.engines i).symbol := by
    obtain ⟨found, hfound, hsymbol⟩ := howner i
    obtain rfl : next = found := Option.some.inj (hnext.symm.trans hfound)
    rw [← happlied.executed.request_eq]
    exact hsymbol
  unfold System.notifyExecution
  change (s.system.executionObservers.foldl _ { s.system with gateway := gateway }).risk.breaker = _
  -- with one engine at most there is one observer at most
  have hnodup : s.system.executionObservers.Nodup := hwired.observers_nodup
  rcases hobservers : s.system.executionObservers with _ | ⟨i, rest⟩
  · rfl
  have hrest : rest = [] := by
    rw [hobservers] at hnodup
    rw [List.eq_nil_iff_forall_not_mem]
    intro j hj
    have hij : j = i := hwired.symbol_injective ((hsymbol j).symm.trans (hsymbol i))
    subst hij
    exact (List.nodup_cons.mp hnodup).1 hj
  rw [hrest, List.foldl_cons, List.foldl_nil]
  refine System.breaker_onBrokerExecution { s.system with gateway := gateway } ?_
  obtain ⟨hsame, -⟩ | ⟨moved, hcan, -⟩ :=
    hbookable _ _ hexecution i record happlied.find_eq (hsymbol i)
  · exact absurd hsame (hnew _ hexecution record happlied.find_eq)
  obtain ⟨booking, portfolio, hbooked, hcall, -⟩ :=
    exists_booked happlied.executed (hsymbol i) hcan
  have hbooking : (s.system.engines i).decideBooking s.system.portfolio
      (gateway.orderLifecycle execution.localOrderId) execution = some booking :=
    ExecutionEngine.decideBooking_eq_some.mpr ⟨next, hnext, hbooked⟩
  simp only [System.reportsExecution, hbooking, hcall, Bool.and_false]

/-- **A confirmed step of engines that stay apart is no API error.** -/
theorem breaker_next (h : s.Orderly) {input : Input n}
    (hinput : input.IsTrading) (hapart : s.Apart input) (hconfirms : input.Confirms)
    (hnew : s.FillsNew input) (hbookable : s.FillsBookable input) :
    (session.next s input).system.risk.breaker = s.system.risk.breaker := by
  have hnone := (noneRefused_iff h input).mpr hapart.1
  have hbound := h.sound.wired.bound
  obtain ⟨system, control⟩ := s
  cases input with
  | execute i args =>
    cases control with
    | idle =>
      rw [next_execute]
      refine System.breaker_beginExecute (hbound i) fun order horder => ?_
      rw [← System.submitted_beginExecute (hbound i)]
      exact hnone (i, args) rfl order horder
    | _ => rfl
  | submitReturned accepted =>
    cases control with
    | submitting i order loop =>
      cases hconfirms
      exact congrArg RiskEngine.breaker (risk_stepSubmitReturned system i order loop)
    | _ => rfl
  | deliver event =>
    cases event with
    | acknowledgement acknowledgement =>
      change (system.deliver _).risk.breaker = _
      unfold System.deliver
      dsimp only
      rw [show acknowledgement.accepted = true from hconfirms, if_neg (by simp)]
    | execution execution =>
      have hbreaker {told : System n × ExecutionEvent} (htold : told ∈
          notified ⟨system, control⟩ (.deliver (.execution execution))) :=
        breaker_notified h.sound hapart.2 hnew hbookable htold
      rcases hhandle : system.gateway.handleExecution execution with ⟨gateway, called⟩
      change (system.deliver _).risk.breaker = _
      simp only [System.deliver, hhandle]
      cases called with
      | false => rfl
      | true =>
        have htold : ({ system with gateway := gateway }, execution) ∈
            notified ⟨system, control⟩ (.deliver (.execution execution)) := by
          simp only [notified, hhandle, Option.mem_def]
        rw [if_pos rfl]
        exact hbreaker htold
    | cancelResult result => rfl
    | health health => rfl
  | _ => cases hinput

/-- The session of `main` in PAPER mode at its start, with one engine for each symbol. -/
def mainOf (symbols : Fin n → String) : Session n := ⟨System.mainPaper symbols, .idle⟩

/-- The step does not leave trading halted. -/
def StaysOpen (s : Session n) (input : Input n) : Prop :=
  (session.next s input).system.risk.halted = false

instance (input : Input n) : Decidable (s.StaysOpen input) := inferInstanceAs (Decidable (_ = _))

/-- Engines that stay apart are not halted by confirmed events. -/
private theorem staysOpen_along {symbols : Fin n → String} (hsymbols : Function.Injective symbols)
    {inputs : List (Input n)} (hinputs : ∀ input ∈ inputs, input.IsTrading)
    (hapart : session.Along Apart (mainOf symbols) inputs)
    (hconfirms : ∀ input ∈ inputs, input.Confirms)
    (hnew : session.Along FillsNew (mainOf symbols) inputs)
    (hbookable : session.Along FillsBookable (mainOf symbols) inputs) :
    session.Along StaysOpen (mainOf symbols) inputs := by
  have hfresh := System.mainPaper_fresh hsymbols
  have hsteps := (Machine.along_of_forall (M := session)
    (fun input hmem => And.intro (hinputs input hmem) (hconfirms input hmem))
    (mainOf symbols)).and (hapart.and (hnew.and hbookable))
  refine Machine.along_of_invariant (I := fun s : Session n =>
    s.Orderly ∧ s.system.risk.breaker = ([], false)) ?_ ?_
    ⟨orderly_of_fresh hfresh, rfl⟩ hsteps
  · rintro s input ⟨horderly, hbreaker⟩ ⟨⟨hinput, hconfirm⟩, hstep, hfill, hbook⟩
    refine ⟨orderly_next horderly hinput, ?_⟩
    exact (breaker_next horderly hinput hstep hconfirm hfill hbook).trans hbreaker
  · rintro s input ⟨horderly, hbreaker⟩ ⟨⟨hinput, hconfirm⟩, hstep, hfill, hbook⟩
    have hnext := breaker_next horderly hinput hstep hconfirm hfill hbook
    rw [hbreaker] at hnext
    exact congrArg Prod.snd hnext

/-- **Isolation of engines.** Over any calls and broker events, no engine is disturbed on account
of another one exactly when no offered order has the number of another engine's order and
executions are applied only where there is no engine but the order's own. Then calls that the
adapter takes, acceptances, and new fills that can be booked never halt trading. -/
theorem engines_isolated_iff {symbols : Fin n → String} (hsymbols : Function.Injective symbols)
    {inputs : List (Input n)} (hinputs : ∀ input ∈ inputs, input.IsTrading) :
    (session.Along Isolated (mainOf symbols) inputs ↔
        session.Along Apart (mainOf symbols) inputs) ∧
      (session.Along Apart (mainOf symbols) inputs → (∀ input ∈ inputs, input.Confirms) →
        session.Along FillsNew (mainOf symbols) inputs →
        session.Along FillsBookable (mainOf symbols) inputs →
        session.Along StaysOpen (mainOf symbols) inputs) := by
  refine ⟨?_, fun hapart hconfirms hnew hbookable =>
    staysOpen_along hsymbols hinputs hapart hconfirms hnew hbookable⟩
  have hfresh := System.mainPaper_fresh hsymbols
  have htrading := Machine.along_of_forall (M := session) hinputs (mainOf symbols)
  have hboth := Machine.along_iff_of_invariant (M := session) (I := Orderly)
    (P := fun s input => s.Isolated input ∧ input.IsTrading)
    (Q := fun s input => s.Apart input ∧ input.IsTrading)
    (fun _ _ h hstep => orderly_next h hstep.2)
    (fun _ input h => and_congr_left fun _ => isolated_iff h input)
    (orderly_of_fresh (s := mainOf symbols) hfresh) inputs
  constructor
  · intro hisolated
    exact (hboth.mp (hisolated.and htrading)).mono fun _ _ h => h.1
  · intro hapart
    exact (hboth.mpr (hapart.and htrading)).mono fun _ _ h => h.1

/-- A session of `main` with two engines. -/
def mainTwo : Session 2 := mainOf fun i => if i = 0 then "BTCUSDT" else "ETHUSDT"

/-- A purchase of an engine that the adapter takes. -/
def takenBuy (i : Fin 2) : List (Input 2) :=
  [.execute i { signal := .buy, marketPrice := .finite 100, timestamp := 1 },
    .submitReturned true]

/-- The acceptance of the first order. -/
def acceptance : Input 2 :=
  .deliver (.acknowledgement {
    localOrderId := 1, externalOrderId := "broker-1", accepted := true,
    timestampNs := 2, sequence := 4, eventKey := "accepted-1" })

/-- A part of the fill of the first order, ten units after the parts before it. -/
def tenFilled (part : ℕ) : Input 2 :=
  .deliver (.execution {
    localOrderId := 1, externalOrderId := "broker-1"
    cumulativeFilledQuantity := ⟨.ofNat (part * 10 ^ 9), 8⟩
    remainingQuantity := ⟨.ofNat (49925087406 - part * 10 ^ 9), 8⟩
    fillPrice := ⟨100, 0⟩, timestampNs := 2 + part, sequence := 4 + part
    eventKey := "part-" ++ toString part })

/-- The first order of the first engine, accepted and filled in part six times. -/
def sixFills : List (Input 2) :=
  takenBuy 0 ++ acceptance :: (List.range 6).map fun part => tenFilled (part + 1)

/-- The second engine's first order is refused, for it has the number of the first one's; and a
fill of the first engine is an error to the second, which halts trading at the sixth. -/
theorem engines_disturbed :
    ¬session.Along Isolated mainTwo (takenBuy 0 ++ takenBuy 1) ∧
      ¬session.Along Isolated mainTwo (takenBuy 0 ++ [acceptance, tenFilled 1]) ∧
      (∀ input ∈ sixFills, input.IsTrading ∧ input.Confirms) ∧
      session.Along FillsNew mainTwo sixFills ∧ session.Along BooksIncrement mainTwo sixFills ∧
      (session.run mainTwo sixFills).system.risk.halted = true := by
  decide +kernel

/-- Two orders of the first of two engines, and a fill of the only engine. -/
theorem engines_isolated_iff_apart :
    session.Along Isolated mainTwo (takenBuy 0 ++ acceptance :: takenBuy 0) ∧
      session.Along Isolated mainBtc (acceptedBuy ++ [partialFill ⟨101, 0⟩]) ∧
      session.Along StaysOpen mainBtc (acceptedBuy ++ [partialFill ⟨101, 0⟩]) := by
  have htwo : Function.Injective fun i : Fin 2 => if i = 0 then "BTCUSDT" else "ETHUSDT" := by
    decide
  have hone : Function.Injective fun _ : Fin 1 => "BTCUSDT" :=
    Function.injective_of_subsingleton _
  have hfresh : mainBtc.system.Fresh := System.mainPaper_fresh hone
  have hbookable := (Machine.along_iff_of_invariant
    (I := fun s : Session 1 => s.system.books.Sound)
    (fun _ input h _ => sound_next h input) (fun _ input h => booksIncrement_iff h input)
    hfresh.sound (acceptedBuy ++ [partialFill ⟨101, 0⟩])).mp (by decide +kernel)
  have hinputs : ∀ input ∈ acceptedBuy ++ [partialFill ⟨101, 0⟩], input.IsTrading := by
    decide +kernel
  obtain ⟨hiff, hopen⟩ := engines_isolated_iff hone hinputs
  have hapart : session.Along Apart mainBtc (acceptedBuy ++ [partialFill ⟨101, 0⟩]) := by
    decide +kernel
  refine ⟨?_, hiff.mpr hapart, hopen hapart (by decide +kernel) (by decide +kernel) hbookable⟩
  exact (engines_isolated_iff htwo (by decide +kernel)).1.mpr (by decide +kernel)

end Session

end TradeBot
