import TradeBot.Allocation.Sales
import Mathlib.Data.List.DropRight

/-!
# Which strategy a sale is reported under

The allocator hears of a sale under the id that the sale was given under, and a resting order
is given under none. So a strategy's window holds the profits of the positions that it opened
as long as every sale carries the id under which its position was opened.
-/

namespace TradeBot

open Library

/-- A window keeps the last entries. -/
theorem pushWindow_rtake (limit : ℕ) (values : List Double) (value : Double) :
    pushWindow limit (values.rtake limit) value = (values ++ [value]).rtake limit := by
  unfold pushWindow List.rtake
  rw [List.length_append, List.length_append, List.length_drop, List.length_singleton]
  split
  · next hfull =>
    have hlimit : limit ≤ values.length := by omega
    have hdrop : values.length + 1 - limit ≤ values.length + 1 := by omega
    cases limit with
    | zero => simp
    | succ limit =>
      rw [List.drop_append_of_le_length (by omega)]
      rw [List.tail_append_of_ne_nil (by
        rw [ne_eq, List.drop_eq_nil_iff]
        omega), List.tail_drop]
      congr 2
      omega
  · next hroom =>
    have hshort : values.length < limit := by omega
    rw [show values.length - limit = 0 by omega, show values.length + 1 - limit = 0 by omega]
    rfl

namespace PortfolioAllocator

/-- The window of a strategy. -/
def pnlWindow (allocator : PortfolioAllocator) (strategyId : String) : List Double :=
  (allocator.phiStates.lookup strategyId).elim [] PhiState.pnlWindow

/-- A report moves the window of its strategy. -/
theorem pnlWindow_onTradeClosed (allocator : PortfolioAllocator) (strategyId other : String)
    (realizedPnL : Double) :
    (allocator.onTradeClosed strategyId realizedPnL).pnlWindow other =
      if other = strategyId then pushWindow phiWindow (allocator.pnlWindow strategyId) realizedPnL
      else allocator.pnlWindow other := by
  unfold onTradeClosed pnlWindow
  by_cases heq : other = strategyId
  · rw [if_pos heq, heq, AList.lookup_insert]
    cases allocator.phiStates.lookup strategyId <;> rfl
  · rw [if_neg heq, AList.lookup_insert_ne heq]

/-- An allocator hears of the recorded sales, in order. -/
theorem foldl_onTrade (trades : List TradeLogEntry) (allocator : PortfolioAllocator) :
    trades.foldl onTrade allocator = (AnalyticsEngine.reports trades).foldl
      (fun allocator sale => allocator.onTradeClosed sale.1 sale.2) allocator := by
  induction trades generalizing allocator with
  | nil => rfl
  | cons trade trades ih =>
    rw [List.foldl_cons, ih]
    unfold AnalyticsEngine.reports
    by_cases hside : trade.side = 'S'
    · have hsale : trade.sale = some (trade.strategyId, trade.realizedPnL) := if_pos hside
      rw [List.filterMap_cons_some hsale, List.filter_cons]
      by_cases hid : trade.strategyId = ""
      · rw [if_neg (by simp [hid]), onTrade, if_neg (by simp [hid])]
      · rw [if_pos (by simp [hid]), onTrade, if_pos ⟨hside, hid⟩, List.foldl_cons]
    · have hsale : trade.sale = none := if_neg hside
      rw [List.filterMap_cons_none hsale, onTrade, if_neg fun h => hside h.1]

end PortfolioAllocator

/-- The profits of the sales of a strategy, in order. -/
def profitsOf (strategyId : String) (sales : List (String × Double)) : List Double :=
  (sales.filter fun sale => sale.1 = strategyId).map Prod.snd

/-- The profits of a strategy in two lists of sales follow each other. -/
theorem profitsOf_append (strategyId : String) (sales sales' : List (String × Double)) :
    profitsOf strategyId (sales ++ sales') =
      profitsOf strategyId sales ++ profitsOf strategyId sales' := by
  unfold profitsOf
  rw [List.filter_append, List.map_append]

/-- Sales without a strategy are of no strategy. -/
theorem profitsOf_filter {strategyId : String} (h : strategyId ≠ "")
    (sales : List (String × Double)) :
    profitsOf strategyId (sales.filter fun sale => sale.1 ≠ "") = profitsOf strategyId sales := by
  unfold profitsOf
  rw [List.filter_filter]
  congr 1
  refine List.filter_congr fun sale _ => ?_
  by_cases hid : sale.1 = strategyId
  · simp [hid, h]
  · simp [hid]

/-- The windows after some reports. -/
theorem pnlWindow_foldl (sales heard : List (String × Double)) (allocator : PortfolioAllocator)
    (h : ∀ strategyId, allocator.pnlWindow strategyId =
      (profitsOf strategyId heard).rtake PortfolioAllocator.phiWindow) (strategyId : String) :
    (sales.foldl (fun allocator sale => allocator.onTradeClosed sale.1 sale.2)
        allocator).pnlWindow strategyId =
      (profitsOf strategyId (heard ++ sales)).rtake PortfolioAllocator.phiWindow := by
  induction sales generalizing heard allocator with
  | nil => rw [List.append_nil, List.foldl_nil, h]
  | cons sale sales ih =>
    rw [List.foldl_cons, ih (heard ++ [sale]), List.append_assoc, List.singleton_append]
    intro other
    rw [PortfolioAllocator.pnlWindow_onTradeClosed, profitsOf_append]
    split
    · next heq =>
      rw [heq, h, pushWindow_rtake]
      congr 2
      simp [profitsOf]
    · next hne =>
      rw [h]
      congr 1
      simp [profitsOf, Ne.symm hne]

namespace ReportingDesk

variable {n : ℕ} {d : ReportingDesk n}

/-- Every sale of a position that was opened under a strategy is reported once, under that
strategy, in the order of the closings; and every window holds the last of their profits. -/
structure Attributed (d : ReportingDesk n) : Prop where
  reports : d.reported = d.closings.filter fun closing => closing.1 ≠ ""
  windows : ∀ strategyId, strategyId ≠ "" → d.allocator.pnlWindow strategyId =
    (profitsOf strategyId d.closings).rtake PortfolioAllocator.phiWindow

/-- The triggered resting orders sell only what was opened under no strategy. -/
def FillsCarry (i : Fin n) : ReportingDesk n → List OrderFillResult → Prop
  | _, [] => True
  | d, fill :: fills =>
    (d.session.system.ExitsPending i fill → d.openedUnder fill.symbol = "") ∧
      match d.session.system.processFill i fill with
      | (_, .error _) => True
      | (t, .ok _) => FillsCarry i (d.observe t) fills

/-- The sales that an input books carry the strategy under which their position was opened: a
signal that sells is given under it, the resting orders sell nothing that has one, and an
execution that an observing engine books as a sale is of an order from it. -/
structure Carries (d : ReportingDesk n) (input : Session.Input n) : Prop where
  signals : ∀ i args, d.session.executeCall input = some (i, args) →
    d.session.system.Exits i args →
      d.openedUnder (d.session.system.engines i).symbol = args.strategyId
  resting : ∀ i candle, d.session.pendingCandle input = some (i, candle) →
    FillsCarry i (d.observe (d.session.system.triggered candle).1)
      (d.session.system.triggered candle).2
  executions : ∀ execution, input = .deliver (.execution execution) →
    (d.session.system.gateway.handleExecution execution).2 = true →
    ∀ record, (d.session.system.gateway.handleExecution execution).1.orderLifecycle
      execution.localOrderId = some record →
    ∀ i ∈ d.session.system.executionObservers, System.BooksSale { d.session.system with
      gateway := (d.session.system.gateway.handleExecution execution).1 } i execution →
        d.openedUnder record.request.canonicalSymbol = record.request.sourceId

/-- What the reports so far have to do with the closings so far. -/
structure Tracked (d : ReportingDesk n) : Prop where
  recording : ∀ i, (d.session.system.engines i).recordsAnalytics = true
  reports : d.reported = d.closings.filter fun closing => closing.1 ≠ ""
  windows : ∀ strategyId, d.allocator.pnlWindow strategyId =
    (profitsOf strategyId d.reported).rtake PortfolioAllocator.phiWindow

/-- Tracked sales are attributed. -/
theorem Tracked.attributed (h : d.Tracked) : d.Attributed := by
  refine ⟨h.reports, fun strategyId hid => ?_⟩
  rw [h.windows, h.reports, profitsOf_filter hid]

/-- A desk that starts without performances has tracked everything. -/
theorem tracked_start {session : Session n} {allocator : PortfolioAllocator}
    (hrecords : ∀ i, (session.system.engines i).recordsAnalytics = true)
    (hfresh : allocator.phiStates = ∅) : (start session allocator).Tracked := by
  refine ⟨hrecords, rfl, fun strategyId => ?_⟩
  change (allocator.phiStates.lookup strategyId).elim [] PhiState.pnlWindow = _
  rw [hfresh]
  rfl

/-- Sales that carry the strategy of their position are attributed to it. -/
theorem Tracked.observe (h : d.Tracked) {t : System n} {symbol strategyId : String}
    {profits : List Double} (hsells : d.session.system.Sells t symbol strategyId profits)
    (hunder : profits ≠ [] → d.openedUnder symbol = strategyId) : (d.observe t).Tracked := by
  obtain ⟨⟨records, hlog, hsymbols, hprofits⟩, ⟨entries, htrades, hsales⟩, hrecording⟩ := hsells
  have hnew : t.analytics.trades.drop d.session.system.analytics.trades.length = entries := by
    rw [htrades, List.drop_left]
  have hclosed : (t.portfolio.tradeLog.drop d.session.system.portfolio.tradeLog.length).map
      (fun record => (d.openedUnder record.symbol, record.realizedPnL)) =
        profits.map fun profit => (strategyId, profit) := by
    rw [hlog, List.drop_left, ← hprofits, List.map_map]
    refine List.map_congr_left fun record hrecord => ?_
    have hne : profits ≠ [] := by
      rw [← hprofits]
      exact fun hnil => List.ne_nil_of_mem hrecord (List.map_eq_nil_iff.mp hnil)
    rw [hsymbols record hrecord, hunder hne]
    rfl
  have hreported : (d.observe t).reported = d.reported ++
      (profits.map fun profit => (strategyId, profit)).filter fun sale => sale.1 ≠ "" := by
    change d.reported ++ AnalyticsEngine.reports _ = _
    rw [hnew, AnalyticsEngine.reports, hsales]
  refine ⟨fun i => (hrecording i).trans (h.recording i), ?_, fun other => ?_⟩
  · change (d.observe t).reported = (d.closings ++ _).filter _
    rw [hreported, hclosed, List.filter_append, ← h.reports]
  · change (List.foldl PortfolioAllocator.onTrade _ _).pnlWindow other =
      (profitsOf other (d.reported ++ AnalyticsEngine.reports _)).rtake _
    rw [PortfolioAllocator.foldl_onTrade]
    exact pnlWindow_foldl _ d.reported d.allocator h.windows other

/-- The turns over resting orders keep the attribution. -/
theorem Tracked.fillTurns (h : d.Tracked) {i : Fin n} {fills : List OrderFillResult}
    (hcarry : FillsCarry i d fills) : (fillTurns i d fills).Tracked := by
  induction fills generalizing d with
  | nil => exact h
  | cons fill fills ih =>
    obtain ⟨profits, hsells, hexits⟩ :=
      System.processFill_sells (s := d.session.system) (h.recording i) fill
    obtain ⟨hfirst, hrest⟩ := hcarry
    have hobserved := h.observe hsells fun hprofits => hfirst (hexits hprofits)
    unfold ReportingDesk.fillTurns
    generalize d.session.system.processFill i fill = outcome at *
    obtain ⟨t, e | filled⟩ := outcome
    · exact hobserved
    · exact ih hobserved hrest

/-- What an input that processes no resting order sells. -/
theorem next_sells (hrecords : ∀ i, (d.session.system.engines i).recordsAnalytics = true)
    {input : Session.Input n} (hpending : d.session.pendingCandle input = none)
    (hcarries : d.Carries input) :
    ∃ symbol strategyId profits,
      d.session.system.Sells (Session.session.next d.session input).system symbol strategyId
        profits ∧ (profits ≠ [] → d.openedUnder symbol = strategyId) := by
  obtain ⟨⟨s, control⟩, allocator, reported, openedUnder, closings⟩ := d
  have hquiet {t : System n} (h : s.SameRecords t) :
      ∃ symbol strategyId profits, s.Sells t symbol strategyId profits ∧
        (profits ≠ [] → openedUnder symbol = strategyId) :=
    ⟨"", "", [], h.sells "" "", fun h => absurd rfl h⟩
  have hsame := hquiet (.refl s)
  have hcall {i : Fin n} {args : ExecuteArgs} {t : System n}
      (hcall : Session.executeCall ⟨s, control⟩ input = some (i, args))
      (h : (s.beginExecute i args).1.SameRecords t) :
      ∃ symbol strategyId profits, s.Sells t symbol strategyId profits ∧
        (profits ≠ [] → openedUnder symbol = strategyId) := by
    obtain ⟨profits, hsells, hexits⟩ := System.beginExecute_sells (hrecords i) args
    have hafter := hsells.trans (h.sells _ _)
    rw [List.append_nil] at hafter
    exact ⟨_, _, profits, hafter, fun hprofits => hcarries.signals i args hcall (hexits hprofits)⟩
  cases input with
  | deliver event =>
    cases event with
    | execution execution =>
      change ∃ symbol strategyId profits, s.Sells (s.deliver (.execution execution)) symbol
        strategyId profits ∧ (profits ≠ [] → openedUnder symbol = strategyId)
      have hcarried := hcarries.executions execution rfl
      unfold System.deliver
      dsimp only at hcarried ⊢
      generalize s.gateway.handleExecution execution = handled at hcarried ⊢
      obtain ⟨gateway, called⟩ := handled
      cases called with
      | false => exact hquiet (s.sameRecords_withGateway gateway)
      | true =>
        have hhandled := s.sameRecords_withGateway gateway
        cases hrecord : gateway.orderLifecycle execution.localOrderId with
        | none =>
          exact hquiet (hhandled.trans (System.sameRecords_notifyExecution hrecord))
        | some record =>
          have hrecords' (i : Fin n) :
              (({ s with gateway := gateway } : System n).engines i).recordsAnalytics = true :=
            hrecords i
          obtain ⟨profits, hsells, hbooked⟩ :=
            System.notifyExecution_sells (s := { s with gateway := gateway }) hrecord hrecords'
          refine ⟨_, _, profits, (hhandled.sells _ _).trans hsells, fun hprofits => ?_⟩
          obtain ⟨i, hi, hsale⟩ := hbooked hprofits
          exact hcarried rfl record hrecord i hi hsale
    | acknowledgement acknowledgement =>
      change ∃ symbol strategyId profits, s.Sells (s.deliver (.acknowledgement acknowledgement))
        symbol strategyId profits ∧ (profits ≠ [] → openedUnder symbol = strategyId)
      unfold System.deliver
      dsimp only
      split
      · exact hquiet ((s.sameRecords_withGateway _).trans (System.sameRecords_reportApiError _))
      · exact hquiet (s.sameRecords_withGateway _)
    | cancelResult result => exact hquiet (s.sameRecords_withGateway _)
    | health health => exact hquiet (s.sameRecords_withGateway _)
  | risk input => exact hquiet (s.sameRecords_withRisk _)
  | adapterConnection connected => exact hquiet (s.sameRecords_withGateway _)
  | execute i args =>
    cases control with
    | idle =>
      refine hcall rfl ?_
      change System.SameRecords _ (Session.stepExecute s i args).1.system
      unfold Session.stepExecute
      split
      · next heq =>
        rw [heq]
        exact .refl _
      · next heq =>
        rw [heq]
        exact .refl _
    | _ => exact hsame
  | submitReturned accepted =>
    cases control with
    | submitting i order loop =>
      refine hquiet ((s.sameRecords_finishDispatch i order accepted).trans ?_)
      change System.SameRecords _ (Session.stepSubmitReturned s i order loop accepted).1.system
      unfold Session.stepSubmitReturned
      dsimp only
      split
      · exact .refl _
      · exact .refl _
      · exact System.sameRecords_cancelTrigger _ i _
      · exact .refl _
    | _ => exact hsame
  | requestCancel request =>
    cases control with
    | idle =>
      refine hquiet ?_
      change s.SameRecords (Session.stepRequestCancel s request).1.system
      unfold Session.stepRequestCancel
      split <;> exact s.sameRecords_withGateway _
    | _ => exact hsame
  | cancelReturned accepted =>
    cases control with
    | canceling request => exact hquiet (s.sameRecords_withGateway _)
    | _ => exact hsame
  | processTriggerOrders i bbo timestamp => cases control <;> exact hsame
  | executeTriggered atr routeLatencyMs =>
    cases control with
    | triggering i loop =>
      obtain ⟨events, executed⟩ := loop
      cases events with
      | nil => exact hsame
      | cons event events =>
        refine hcall rfl ?_
        change System.SameRecords _
          (Session.stepTriggered s i event ⟨events, executed⟩ atr routeLatencyMs).1.system
        unfold Session.stepTriggered
        split
        · next heq =>
          rw [heq]
          exact .refl _
        · next heq =>
          rw [heq]
          exact .refl _
        · next heq =>
          rw [heq]
          exact System.sameRecords_cancelTrigger _ i _
        · next heq =>
          rw [heq]
          exact .refl _
    | _ => exact hsame
  | placeStopLossTrigger i stopPrice quantity strategyId =>
    cases control with
    | idle => exact hquiet (s.sameRecords_updateTriggers i _)
    | _ => exact hsame
  | placeOcoTrigger i stopPrice takeProfitPrice quantity strategyId =>
    cases control with
    | idle => exact hquiet (s.sameRecords_updateTriggers i _)
    | _ => exact hsame
  | placePendingOrder order =>
    cases control with
    | idle => exact ⟨"", "", [], s.sells_placePendingOrder order, fun h => absurd rfl h⟩
    | _ => exact hsame
  | processPendingOrders i candle =>
    cases control with
    | idle => cases hpending
    | _ => exact hsame
  | markPrice symbol currentPrice =>
    cases control with
    | idle =>
      exact ⟨"", "", [], s.sells_markPrice symbol currentPrice, fun h => absurd rfl h⟩
    | _ => exact hsame
  | setSymbolAlias canonicalSymbol executionAlias =>
    cases control with
    | idle => exact hquiet (s.sameRecords_withGateway _)
    | _ => exact hsame
  | setInstrumentSpec spec =>
    cases control with
    | idle => exact hquiet (s.sameRecords_withGateway _)
    | _ => exact hsame

/-- **One input** keeps the attribution when the sales it books carry their strategies. -/
theorem Tracked.next (h : d.Tracked) {input : Session.Input n} (hcarries : d.Carries input) :
    (reporting.next d input).Tracked := by
  cases hpending : d.session.pendingCandle input with
  | some call =>
    obtain ⟨i, candle⟩ := call
    have hnext : reporting.next d input = ReportingDesk.fillTurns i
        (d.observe (d.session.system.triggered candle).1)
        (d.session.system.triggered candle).2 := by
      change (reporting.step d input).1 = _
      simp only [reporting, hpending]
    have htriggered := d.session.system.sells_triggered candle
    rw [hnext]
    have hobserved := h.observe htriggered fun h => absurd rfl h
    exact hobserved.fillTurns (hcarries.resting i candle hpending)
  | none =>
    obtain ⟨symbol, strategyId, profits, hsells, hunder⟩ :=
      next_sells h.recording hpending hcarries
    obtain ⟨hrecords, hreports, hwindows⟩ := h.observe hsells hunder
    have hnext : reporting.next d input =
        { d.observe (Session.session.next d.session input).system with
          session := Session.session.next d.session input } := by
      change (reporting.step d input).1 = _
      simp only [reporting, hpending]
      rfl
    rw [hnext]
    exact ⟨hrecords, hreports, hwindows⟩

/-- **Attribution of profits.** In a run whose sales all carry the strategy under which their
position was opened, every strategy is told about exactly its own closings. -/
theorem attributed_run {session : Session n} {allocator : PortfolioAllocator}
    (hrecords : ∀ i, (session.system.engines i).recordsAnalytics = true)
    (hfresh : allocator.phiStates = ∅) {inputs : List (Session.Input n)}
    (hcarries : reporting.Along Carries (start session allocator) inputs) :
    (reporting.run (start session allocator) inputs).Attributed := by
  have htracked : (reporting.run (start session allocator) inputs).Tracked :=
    Machine.invariant_run_of_along (fun d input h hcarries => h.next hcarries)
      (tracked_start hrecords hfresh) hcarries
  exact htracked.attributed

/-- One engine of `main` without a gateway, whose trades are recorded. -/
def analysed : Session 1 where
  system := {
    portfolio := .fresh
    risk := {}
    gateway := { config := {}, adapter := .deterministic }
    engines := fun _ => { ExecutionEngine.main "A" with recordsAnalytics := true }
    executionObservers := []
    reportsRejections := false
    analytics := {}
    clock := id }

/-- A purchase under a strategy. -/
def purchase : ExecuteArgs where
  signal := .buy
  marketPrice := .finite 100
  timestamp := 60
  strategyId := "trend"

/-- The position is sold under the same strategy. -/
def directSale : ExecuteArgs where
  signal := .sell
  marketPrice := .finite 110
  timestamp := 120
  strategyId := "trend"

/-- The sale of the position that was opened under the same strategy is reported to it. -/
theorem attributed_run_directSale :
    (reporting.run (start analysed {})
      [.execute 0 purchase, .execute 0 directSale]).Attributed := by
  refine attributed_run (fun i => rfl) rfl ⟨⟨?_, ?_, ?_⟩, ⟨?_, ?_, ?_⟩, trivial⟩
  · intro i args hcall hexits
    cases hcall
    obtain ⟨-, marketPrice, plan, portfolio, hdecision, -⟩ := hexits
    have hsignal := (ExecutionEngine.decideExecute_eq_exit hdecision).1
    cases hsignal
  · intro i candle hpending
    cases hpending
  · intro execution hinput
    cases hinput
  · intro i args hcall _
    unfold Session.executeCall at hcall
    dsimp only at hcall
    split at hcall
    · cases hcall
      decide +kernel
    · cases hcall
  · intro i candle hpending
    cases hpending
  · intro execution hinput
    cases hinput

/-- The same position, sold by a resting order. -/
def restingSale : List (Session.Input 1) := [
  .execute 0 purchase,
  .placePendingOrder {
    symbol := "A"
    isBuy := false
    limitPrice := .finite 100 },
  .processPendingOrders 0 ⟨"A", 120, .finite 110, .finite 90, .finite 100⟩]

/-- Nobody is told about the sale by the resting order. -/
theorem not_attributed_restingSale :
    ¬∀ (n : ℕ) (session : Session n) (allocator : PortfolioAllocator)
      (inputs : List (Session.Input n)),
      (∀ i, (session.system.engines i).recordsAnalytics = true) → allocator.phiStates = ∅ →
        (reporting.run (start session allocator) inputs).Attributed := by
  intro h
  have hreports := (h 1 analysed {} restingSale (fun i => rfl) rfl).reports
  revert hreports
  decide +kernel

end ReportingDesk

end TradeBot
