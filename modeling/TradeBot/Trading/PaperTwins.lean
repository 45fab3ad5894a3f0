import TradeBot.Trading.LocalFills
import TradeBot.Trading.PaperFidelity

/-!
# Two runs: local execution and execution over the paper adapter

The engine of the one run fills its signals itself, the engine of the other is bound to a
connected PAPER gateway. As long as no call of the portfolio throws, both answer every signal
alike and have the same portfolio after it.
-/

namespace TradeBot

open Library Financial

section Formats

variable [FloatFormat]

namespace PortfolioManager

variable {pm pm' : PortfolioManager} {symbol strategyId : String} {netPrice fee : Double}
  {timestamp : ℕ}

/-- What a purchase has been checked for. -/
theorem openLong_checks {capitalToCommit explicitUnits : Double}
    (h : pm.openLong symbol netPrice timestamp fee capitalToCommit explicitUnits strategyId
      = .ok pm') :
    symbol ≠ "" ∧ (∃ p, price netPrice = some p ∧ p.isPositive = true) ∧
      ∃ entryFee, money fee = some entryFee ∧ entryFee.isNegative = false := by
  simp only [openLong, bind_eq_ok, throwIf_eq_ok, requirePositive_eq_ok,
    requireNonnegative_eq_ok, decide_eq_false_iff_not] at h
  obtain ⟨-, hsymbol, -, -, -, -, p, hprice, entryFee, hfee, -⟩ := h
  exact ⟨hsymbol, ⟨p, hprice⟩, entryFee, hfee⟩

/-- What a sale has been checked for. -/
theorem closePosition_checks (hopen : symbol ∈ pm.positions) {explicitQuantity : Double}
    (h : pm.closePosition symbol netPrice timestamp fee strategyId explicitQuantity = .ok pm') :
    (∃ p, price netPrice = some p ∧ p.isPositive = true) ∧
      ∃ exitFee, money fee = some exitFee ∧ exitFee.isNegative = false := by
  obtain ⟨prior, hprior⟩ := Option.isSome_iff_exists.mp (AList.lookup_isSome.mpr hopen)
  simp only [closePosition, hprior, reduceOpenPosition, bind_eq_ok, throwIf_eq_ok,
    requirePositive_eq_ok, requireNonnegative_eq_ok] at h
  obtain ⟨-, -, p, hprice, exitFee, hfee, -⟩ := h
  exact ⟨⟨p, hprice⟩, exitFee, hfee⟩

/-- To close the quantity that is held is to close the whole position. -/
theorem closePosition_held [ExactFormat] {prior : PositionState}
    (hprior : pm.positions.lookup symbol = some prior)
    (hpositive : prior.quantity.isPositive = true) :
    pm.closePosition symbol netPrice timestamp fee strategyId prior.quantity.toDouble =
      pm.closePosition symbol netPrice timestamp fee strategyId := by
  have hunits : 0 < prior.quantity.units.toInt := (isPositive_iff _).mp hpositive
  have hexplicit : 0 < prior.quantity.toDouble := (zero_lt_toDouble _).mpr hunits
  have hnonneg : ¬prior.quantity.toDouble < 0 := by
    rw [toDouble_lt_zero]
    omega
  have hsame : closeQuantity prior.quantity prior.quantity.toDouble =
      closeQuantity prior.quantity 0 := by
    rw [closeQuantity, closeQuantity, if_pos hexplicit, if_neg (by decide), quantity_toDouble,
      requirePositive, if_pos hpositive]
    change throwIf (decide (prior.quantity.units < prior.quantity.units)) _ >>= _ = _
    rw [decide_eq_false fun h => Int64.lt_irrefl h]
    rfl
  have hzero : ¬(0 : Double) < 0 := by decide
  rw [closePosition, closePosition, hprior]
  dsimp only
  rw [reduceOpenPosition, reduceOpenPosition, hsame, decide_eq_false hnonneg, decide_eq_false hzero]

end PortfolioManager

namespace System

variable {n : ℕ} {s : System n} {i : Fin n} {args : ExecuteArgs}

omit [FloatFormat] in
/-- Two adjustments of an engine take the ids of both. -/
theorem Adjusts.trans {t u : System n} {first second : ℕ} (h : s.Adjusts i first t)
    (h' : t.Adjusts i second u) : s.Adjusts i (first + second) u := by
  obtain ⟨engine, rfl, hsame, hnext⟩ := h'
  obtain ⟨prior, rfl, hprior, hfirst⟩ := h
  rw [engines_setEngine] at hsame hnext
  refine ⟨engine, setEngine_setEngine s i prior engine, hprior.trans hsame, ?_⟩
  rw [hnext, hfirst, Nat.add_assoc]

omit [FloatFormat] in
/-- An adjustment does not touch the portfolio. -/
theorem Adjusts.portfolio_eq {taken : ℕ} {t : System n} (h : s.Adjusts i taken t) :
    t.portfolio = s.portfolio := by
  obtain ⟨engine, rfl, -⟩ := h
  rfl

omit [FloatFormat] in
/-- Nor the risk engine. -/
theorem Adjusts.risk_eq {taken : ℕ} {t : System n} (h : s.Adjusts i taken t) :
    t.risk = s.risk := by
  obtain ⟨engine, rfl, -⟩ := h
  rfl

/-- The system in which a call has counted its signal. -/
def counted (s : System n) (i : Fin n) (args : ExecuteArgs) : System n :=
  if args.signal = .none then s
  else s.setEngine i { s.engines i with signalCount := (s.engines i).signalCount + 1 }

omit [FloatFormat] in
/-- Counting a signal takes no id. -/
theorem adjusts_counted : s.Adjusts i 0 (s.counted i args) := by
  unfold counted
  split
  · refine ⟨s.engines i, ?_, ⟨⟨rfl, rfl, rfl, rfl⟩, rfl, rfl⟩, rfl⟩
    rw [System.setEngine, Function.update_eq_self]
  · exact s.adjusts_setEngine i ⟨⟨rfl, rfl, rfl, rfl⟩, rfl, rfl⟩ rfl

/-- A call counts its signal, then it does what it has decided on. -/
theorem beginExecute_eq (s : System n) (i : Fin n) (args : ExecuteArgs) :
    s.beginExecute i args =
      match (s.engines i).decideExecute s.portfolio s.risk s.gateway.isConnected args.signal
        args.marketPrice args.atr with
      | .ignore => (s.counted i args, .returned (.ok false))
      | .block => ((s.counted i args).block i, .returned (.ok false))
      | .enter marketPrice plan =>
        if (s.engines i).bound then
          (s.counted i args).beginDispatch i true plan.units marketPrice args.timestamp
            args.strategyId args.routeLatencyMs
        else
          (((s.counted i args).enterLocally i args marketPrice plan).1,
            .returned ((s.counted i args).enterLocally i args marketPrice plan).2)
      | .exit marketPrice plan =>
        if (s.engines i).bound then
          (s.counted i args).beginDispatch i false plan.quantity marketPrice args.timestamp
            args.strategyId args.routeLatencyMs
        else
          (((s.counted i args).exitLocally i args marketPrice plan).1,
            .returned ((s.counted i args).exitLocally i args marketPrice plan).2) := rfl

end System

namespace PaperSystem

variable {n : ℕ} {s : PaperSystem n} {i : Fin n} {args : ExecuteArgs}

omit [FloatFormat] in
/-- An adjusted engine is as ready for its next call. -/
theorem Ready.adjusts (h : s.Ready i) {taken : ℕ} {t : System n}
    (hadjusts : s.system.Adjusts i taken t) : Ready ⟨t, s.adapter⟩ i := by
  have hroutes := h.routes.adjusts hadjusts
  obtain ⟨engine, rfl, hsame, -⟩ := hadjusts
  refine ⟨hroutes, h.unhindered, ?_, ?_⟩
  · rw [System.engines_setEngine]
    exact h.feeRate_eq.trans hsame.feeRate_eq.symm
  · rw [System.engines_setEngine]
    exact h.slippage_eq.trans hsame.slippage_eq.symm

/-- A call that returns without an order answers false. -/
theorem Ready.answers_of_adjusts (h : s.Ready i) {taken : ℕ} {t : System n}
    (hadjusts : s.system.Adjusts i taken t)
    (hbegin : s.system.beginExecute i args = (t, .returned (.ok false))) :
    s.Answers i args false s.system.portfolio := by
  have hexecute : s.execute i args = (⟨t, s.adapter⟩, .ok false) := by
    unfold execute
    rw [hbegin]
  refine answers_of_eq hexecute (h.adjusts hadjusts) hadjusts.portfolio_eq ?_
    ⟨s.system.risk.syncedPositions, hadjusts.risk_eq⟩
  obtain ⟨engine, rfl, hsame, -⟩ := hadjusts
  rw [System.engines_setEngine]
  exact hsame.toSameConfig

/-- **A dispatched order** is refused for want of a symbol or by the risk engine, or filled. -/
theorem Ready.execute_dispatch [ExactFormat] (h : s.Ready i) {isBuy : Bool} {units : Quantity}
    {requestedPrice : Price} (hunits : units.isPositive = true)
    (hprice : requestedPrice.isPositive = true) (hlatency : args.routeLatencyMs ≤ 5)
    (hbegin : s.system.beginExecute i args = (s.system.counted i args).beginDispatch i isBuy units
      requestedPrice args.timestamp args.strategyId args.routeLatencyMs) :
    (((s.system.engines i).symbol = "" ∨
        (ExecutionEngine.finalRisk s.system.portfolio s.system.risk isBuy).allowed = false) ∧
      s.Answers i args false s.system.portfolio) ∨
    ((ExecutionEngine.finalRisk s.system.portfolio s.system.risk isBuy).allowed = true ∧
      ∀ {fillPrice : Price} {fillFee : Money} {call : PortfolioCall}
        {portfolio' : PortfolioManager},
        (s.system.engines i).Fills s.system.portfolio portfolio' isBuy units requestedPrice
          args.timestamp args.strategyId fillPrice fillFee call →
        s.Answers i args true portfolio') := by
  have hcounted : s.system.Adjusts i 0 (s.system.counted i args) := System.adjusts_counted
  generalize s.system.counted i args = counted at hbegin hcounted
  obtain ⟨t, hadjusts, ⟨hrefused, hdispatch⟩ | ⟨order, hsymbol, horder, htakes, hdispatch⟩⟩ :=
    (h.routes.adjusts hcounted).beginDispatch isBuy args.timestamp args.strategyId hunits hprice
      hlatency
  · left
    rw [hdispatch] at hbegin
    refine ⟨?_, h.answers_of_adjusts (hcounted.trans hadjusts) hbegin⟩
    rw [hcounted.portfolio_eq, hcounted.risk_eq] at hrefused
    obtain ⟨engine, rfl, hsame, -⟩ := hcounted
    rw [System.engines_setEngine, hsame.symbol_eq] at hrefused
    exact hrefused
  · right
    rw [hdispatch, hcounted.gateway_eq] at hbegin
    rw [hcounted.gateway_eq, hcounted.portfolio_eq, hcounted.risk_eq] at htakes
    have hallowed : (ExecutionEngine.finalRisk s.system.portfolio s.system.risk isBuy).allowed =
        true := by
      simp only [BrokerGateway.takes, Bool.and_eq_true] at htakes
      exact htakes.1.1.1
    refine ⟨hallowed, fun {fillPrice fillFee call portfolio'} hfills => ?_⟩
    have hall := (hcounted.trans hadjusts)
    obtain ⟨engine, rfl, hsame, hnext⟩ := hcounted
    rw [System.engines_setEngine] at horder
    have hrequest : engine.brokerRequest isBuy units requestedPrice args.timestamp
        args.strategyId = (s.system.engines i).brokerRequest isBuy units requestedPrice
          args.timestamp args.strategyId := by
      simp only [ExecutionEngine.brokerRequest, hnext, Nat.add_zero, hsame.symbol_eq]
    rw [hrequest] at horder
    exact h.execute_filled hall horder htakes hbegin hfills

/-- The states of the two runs: the same portfolio and the same engine, which fills its signals
itself in the first one and is ready to route them in the second one. -/
structure Twins (i : Fin n) (a b : PaperSystem n) : Prop where
  portfolio_eq : b.system.portfolio = a.system.portfolio
  risk_eq : ∃ synced, b.system.risk = { a.system.risk with syncedPositions := synced }
  unbound : (a.system.engines i).bound = false
  config : (a.system.engines i).SameConfig (b.system.engines i)
  named : "" ∉ a.system.portfolio.positions
  ready : b.Ready i

variable {a b : PaperSystem n}

/-- A call that the second run answers as the first one has returned keeps the two together. -/
theorem Twins.of_answers (h : Twins i a b) {t : System n} {result : Bool}
    (hbegin : a.system.beginExecute i args = (t, .returned (.ok result)))
    (hlocal : a.system.Local t) (hnamed : "" ∉ t.portfolio.positions)
    (hanswers : b.Answers i args result t.portfolio) :
    (a.execute i args).2 = (b.execute i args).2 ∧
      Twins i (a.execute i args).1 (b.execute i args).1 := by
  have hexecute : a.execute i args = (⟨t, a.adapter⟩, .ok result) := by
    unfold execute
    rw [hbegin]
  obtain ⟨_, _, _, hengine⟩ := hlocal.engines i
  obtain ⟨synced, hrisk⟩ := h.risk_eq
  obtain ⟨synced', hrisk'⟩ := hanswers.risk_eq
  rw [hexecute]
  refine ⟨hanswers.result_eq.symm, hanswers.portfolio_eq, ⟨synced', ?_⟩, ?_, ?_, hnamed,
    hanswers.ready⟩
  · rw [hrisk', hrisk, ← hlocal.risk]
  · exact (hlocal.bound i).trans h.unbound
  · refine ExecutionEngine.SameConfig.trans ?_ (h.config.trans hanswers.config)
    rw [hengine]
    exact ⟨rfl, rfl, rfl, rfl⟩

/-- The two engines decide alike. -/
theorem Twins.decideExecute_eq (h : Twins i a b) (args : ExecuteArgs) :
    (b.system.engines i).decideExecute b.system.portfolio b.system.risk
      b.system.gateway.isConnected args.signal args.marketPrice args.atr =
    (a.system.engines i).decideExecute a.system.portfolio a.system.risk
      a.system.gateway.isConnected args.signal args.marketPrice args.atr := by
  obtain ⟨synced, hrisk⟩ := h.risk_eq
  rw [h.portfolio_eq, hrisk, h.ready.routes.connected]
  exact h.config.decideExecute_eq h.unbound ..

/-- The final risk decision asks what the local fill of a BUY signal asks. -/
theorem Twins.finalRisk_eq (h : Twins i a b) (isBuy : Bool) :
    (ExecutionEngine.finalRisk b.system.portfolio b.system.risk isBuy).allowed =
      (!isBuy || a.system.risk.canTrade a.system.portfolio) := by
  obtain ⟨synced, hrisk⟩ := h.risk_eq
  have hcan : b.system.risk.canTrade b.system.portfolio =
      a.system.risk.canTrade a.system.portfolio := by
    rw [h.portfolio_eq, hrisk]
    rfl
  unfold ExecutionEngine.finalRisk
  rw [hcan]
  dsimp only
  split
  · next hallowed => exact hallowed.symm
  · next hrefused => exact (Bool.eq_false_iff.mpr hrefused).symm

/-- A purchase that the first engine has booked is a fill that the second one can book. -/
theorem Twins.fills_enter [ExactFormat] (h : Twins i a b) {marketPrice : Price} {plan : EntryPlan}
    {portfolio' : PortfolioManager} {timestamp : ℕ} {strategyId : String}
    (hclosed : a.system.portfolio.hasPosition (a.system.engines i).symbol = false)
    (hslippage : applySlippage marketPrice (a.system.engines i).slippage.value true =
      some plan.fillPrice) (hunits : plan.units.isPositive = true)
    (hentry : (a.system.engines i).entryPlan plan.fillPrice plan.units = some plan)
    (hopen : a.system.portfolio.openLong (a.system.engines i).symbol plan.fillPrice.toDouble
      timestamp plan.executionFee.toDouble plan.debit.toDouble plan.units.toDouble strategyId =
        .ok portfolio') :
    (b.system.engines i).Fills b.system.portfolio portfolio' true plan.units marketPrice timestamp
      strategyId plan.fillPrice plan.executionFee (.openLong (a.system.engines i).symbol
        plan.fillPrice.toDouble timestamp plan.executionFee.toDouble plan.debit.toDouble
        plan.units.toDouble strategyId) := by
  obtain ⟨-, -, hcost, hfee, hdebit⟩ := ExecutionEngine.entryPlan_eq_some hentry
  obtain ⟨-, ⟨p, hp, hpositive⟩, f, hf, hnonneg⟩ := PortfolioManager.openLong_checks hopen
  rw [price_toDouble] at hp
  rw [money_toDouble] at hf
  cases hp
  cases hf
  constructor
  case units_pos => exact hunits
  case fillPrice_pos => exact hpositive
  case fillFee_nonneg => exact hnonneg
  case fillPrice_eq =>
    rw [h.config.slippage_eq]
    exact hslippage
  case fillFee_eq =>
    rw [h.config.feeRate_eq]
    exact ⟨plan.cost, hcost, hfee⟩
  case call_eq =>
    rw [ExecutionEngine.bookingCall, if_pos rfl, hcost, h.config.symbol_eq, h.portfolio_eq]
    simp only [Option.bind_some, hdebit, Option.map_some, hclosed, Bool.false_eq_true, if_false]
  case returns =>
    rw [h.portfolio_eq]
    exact hopen

/-- A sale of the whole position that the first engine has booked is a fill that the second one
can book. -/
theorem Twins.fills_exit [ExactFormat] (h : Twins i a b) {marketPrice : Price} {plan : ExitPlan}
    {portfolio' : PortfolioManager} {timestamp : ℕ} {strategyId : String}
    (hheld : a.system.portfolio.hasPosition (a.system.engines i).symbol = true)
    (hplan : (a.system.engines i).planExit a.system.portfolio (a.system.engines i).symbol
      marketPrice = some plan)
    (hclose : a.system.portfolio.closePosition (a.system.engines i).symbol plan.fillPrice.toDouble
      timestamp plan.executionFee.toDouble strategyId = .ok portfolio') :
    (b.system.engines i).Fills b.system.portfolio portfolio' false plan.quantity marketPrice
      timestamp strategyId plan.fillPrice plan.executionFee
      (.closePosition (a.system.engines i).symbol plan.fillPrice.toDouble timestamp
        plan.executionFee.toDouble strategyId plan.quantity.toDouble) := by
  obtain ⟨prior, hprior⟩ := ExecutionEngine.lookup_of_hasPosition hheld
  obtain ⟨hquantity, hunits, hslippage, proceeds, hproceeds, hfee⟩ :=
    ExecutionEngine.planExit_eq_some hprior hplan
  rw [PortfolioManager.hasPosition, decide_eq_true_iff] at hheld
  obtain ⟨⟨p, hp, hpositive⟩, f, hf, hnonneg⟩ :=
    PortfolioManager.closePosition_checks hheld hclose
  rw [price_toDouble] at hp
  rw [money_toDouble] at hf
  cases hp
  cases hf
  rw [quantity_toDouble, Option.some.injEq] at hquantity
  constructor
  case units_pos => exact hunits
  case fillPrice_pos => exact hpositive
  case fillFee_nonneg => exact hnonneg
  case fillPrice_eq =>
    rw [h.config.slippage_eq]
    exact hslippage
  case fillFee_eq =>
    rw [h.config.feeRate_eq]
    exact ⟨proceeds, hproceeds, hfee⟩
  case call_eq =>
    have hquantity' : a.system.portfolio.getPositionQuantity (a.system.engines i).symbol =
        plan.quantity.toDouble := by
      rw [PortfolioManager.getPositionQuantity, hprior, ← hquantity]
    have hsells : (!plan.quantity.isPositive ||
        decide (plan.quantity.units < plan.quantity.units)) = false := by
      rw [hunits, decide_eq_false fun hlt => Int64.lt_irrefl hlt]
      rfl
    rw [ExecutionEngine.bookingCall, if_neg Bool.false_ne_true, h.config.symbol_eq, h.portfolio_eq,
      hquantity', quantity_toDouble, Option.bind_some, hsells, if_neg Bool.false_ne_true]
  case returns =>
    rw [h.portfolio_eq, ← hquantity]
    exact (PortfolioManager.closePosition_held hprior (hquantity.symm ▸ hunits)).trans hclose

/-- An entry of the two engines. -/
theorem Twins.execute_enter [ExactFormat] (h : Twins i a b) {marketPrice : Price} {plan : EntryPlan}
    (hdecision : (a.system.engines i).decideExecute a.system.portfolio a.system.risk
      a.system.gateway.isConnected args.signal args.marketPrice args.atr = .enter marketPrice plan)
    (hlatency : args.routeLatencyMs ≤ 5) {t : System n} {result : Bool}
    (hbegin : a.system.beginExecute i args = (t, .returned (.ok result))) :
    b.Answers i args result t.portfolio ∧ "" ∉ t.portfolio.positions := by
  obtain ⟨-, -, hprice, -, hclosed, hplan⟩ := ExecutionEngine.decideExecute_eq_enter hdecision
  obtain ⟨hslippage, hunits, hentry⟩ := ExecutionEngine.planEntry_eq_some hplan
  have hdispatch : b.system.beginExecute i args = (b.system.counted i args).beginDispatch i true
      plan.units marketPrice args.timestamp args.strategyId args.routeLatencyMs := by
    rw [System.beginExecute_eq, h.decideExecute_eq, hdecision]
    exact if_pos h.ready.routes.bound_eq
  have hunbound : ¬(a.system.engines i).bound = true := by
    rw [h.unbound]
    exact Bool.false_ne_true
  rw [System.beginExecute_eq, hdecision] at hbegin
  dsimp only at hbegin
  rw [if_neg hunbound] at hbegin
  have hcounted : a.system.Adjusts i 0 (a.system.counted i args) := System.adjusts_counted
  generalize a.system.counted i args = counted at hbegin hcounted
  obtain ⟨hstate, hresult⟩ := Prod.mk.inj hbegin
  have hlocal := System.enterLocally_eq_ok (System.Progress.returned.inj hresult)
  rw [hstate, hcounted.portfolio_eq, hcounted.risk_eq] at hlocal
  have hsymbol : (counted.engines i).symbol = (a.system.engines i).symbol := by
    obtain ⟨engine, rfl, hsame, -⟩ := hcounted
    rw [System.engines_setEngine, hsame.symbol_eq]
  have hallowed := h.finalRisk_eq true
  rw [Bool.not_true, Bool.false_or] at hallowed
  rcases hlocal with ⟨rfl, hrefused, hportfolio⟩ | ⟨rfl, htrade, hopen⟩
  · rw [hrefused] at hallowed
    rw [hportfolio, ← h.portfolio_eq]
    refine ⟨?_, h.portfolio_eq ▸ h.named⟩
    rcases h.ready.execute_dispatch hunits hprice hlatency hdispatch with
      ⟨-, hanswers⟩ | ⟨htaken, -⟩
    · exact hanswers
    · exact absurd htaken (by rw [hallowed]; exact Bool.false_ne_true)
  · rw [hsymbol] at hopen
    obtain ⟨hnonempty, -⟩ := PortfolioManager.openLong_checks hopen
    obtain ⟨position, hopened⟩ := PortfolioManager.openLong_opened hopen
    have hnamed : "" ∉ t.portfolio.positions := by
      rw [hopened.positions, AList.mem_insert]
      rintro (hempty | hold)
      · exact hnonempty hempty.symm
      · exact h.named hold
    refine ⟨?_, hnamed⟩
    have hfills := h.fills_enter hclosed hslippage hunits hentry hopen
    rcases h.ready.execute_dispatch hunits hprice hlatency hdispatch with
      ⟨hempty | hrefused, -⟩ | ⟨-, htakes⟩
    · rw [h.config.symbol_eq] at hempty
      exact absurd hempty hnonempty
    · rw [hallowed, htrade] at hrefused
      cases hrefused
    · exact htakes hfills

/-- An exit of the two engines. -/
theorem Twins.execute_exit [ExactFormat] (h : Twins i a b) {marketPrice : Price} {plan : ExitPlan}
    (hdecision : (a.system.engines i).decideExecute a.system.portfolio a.system.risk
      a.system.gateway.isConnected args.signal args.marketPrice args.atr = .exit marketPrice plan)
    (hlatency : args.routeLatencyMs ≤ 5) {t : System n} {result : Bool}
    (hbegin : a.system.beginExecute i args = (t, .returned (.ok result))) :
    b.Answers i args result t.portfolio ∧ "" ∉ t.portfolio.positions := by
  obtain ⟨-, -, hprice, -, hheld, hplan⟩ := ExecutionEngine.decideExecute_eq_exit hdecision
  obtain ⟨prior, hprior⟩ := ExecutionEngine.lookup_of_hasPosition hheld
  obtain ⟨-, hunits, -⟩ := ExecutionEngine.planExit_eq_some hprior hplan
  have hdispatch : b.system.beginExecute i args = (b.system.counted i args).beginDispatch i false
      plan.quantity marketPrice args.timestamp args.strategyId args.routeLatencyMs := by
    rw [System.beginExecute_eq, h.decideExecute_eq, hdecision]
    exact if_pos h.ready.routes.bound_eq
  have hunbound : ¬(a.system.engines i).bound = true := by
    rw [h.unbound]
    exact Bool.false_ne_true
  rw [System.beginExecute_eq, hdecision] at hbegin
  dsimp only at hbegin
  rw [if_neg hunbound] at hbegin
  have hcounted : a.system.Adjusts i 0 (a.system.counted i args) := System.adjusts_counted
  generalize a.system.counted i args = counted at hbegin hcounted
  obtain ⟨hstate, hresult⟩ := Prod.mk.inj hbegin
  obtain ⟨rfl, hclose⟩ := System.exitLocally_eq_ok (System.Progress.returned.inj hresult)
  have hsymbol : (counted.engines i).symbol = (a.system.engines i).symbol := by
    obtain ⟨engine, rfl, hsame, -⟩ := hcounted
    rw [System.engines_setEngine, hsame.symbol_eq]
  rw [hstate, hcounted.portfolio_eq, hsymbol] at hclose
  obtain ⟨position, record, hclosed⟩ := PortfolioManager.closePosition_closed hheld hclose
  have hnamed : "" ∉ t.portfolio.positions := by
    rw [hclosed.positions, AList.mem_erase]
    exact fun hmem => h.named hmem.2
  refine ⟨?_, hnamed⟩
  have hfills := h.fills_exit hheld hplan hclose
  have hallowed := h.finalRisk_eq false
  rw [Bool.not_false, Bool.true_or] at hallowed
  rcases h.ready.execute_dispatch hunits hprice hlatency hdispatch with
    ⟨hempty | hrefused, -⟩ | ⟨-, htakes⟩
  · rw [h.config.symbol_eq] at hempty
    rw [PortfolioManager.hasPosition, decide_eq_true_iff, hempty] at hheld
    exact absurd hheld h.named
  · rw [hallowed] at hrefused
    cases hrefused
  · exact htakes hfills

/-- A signal that neither engine acts on. -/
theorem Twins.execute_return (h : Twins i a b) {t u : System n} {result : Bool} {taken : ℕ}
    (hbegin : a.system.beginExecute i args = (t, .returned (.ok result)))
    (hfirst : (a.system.beginExecute i args).2 = .returned (.ok false))
    (hportfolio : (a.system.beginExecute i args).1.portfolio = a.system.portfolio)
    (hsecond : b.system.beginExecute i args = (u, .returned (.ok false)))
    (hadjusts : b.system.Adjusts i taken u) :
    b.Answers i args result t.portfolio ∧ "" ∉ t.portfolio.positions := by
  rw [hbegin] at hfirst hportfolio
  cases hfirst
  change t.portfolio = _ at hportfolio
  rw [hportfolio, ← h.portfolio_eq]
  exact ⟨h.ready.answers_of_adjusts hadjusts hsecond, h.portfolio_eq ▸ h.named⟩

/-- **One call.** The runs answer it alike and stay together. -/
theorem Twins.execute [ExactFormat] (h : Twins i a b) (hlatency : args.routeLatencyMs ≤ 5)
    {result : Bool} (hok : (a.execute i args).2 = .ok result) :
    (a.execute i args).2 = (b.execute i args).2 ∧
      Twins i (a.execute i args).1 (b.execute i args).1 := by
  obtain ⟨t, outcome, hbegin, hlocal, -⟩ := System.beginExecute_booked h.unbound args
  have hresult : outcome = .ok result := by
    rw [← hok]
    unfold PaperSystem.execute
    rw [hbegin]
  rw [hresult] at hbegin
  have hboth : b.Answers i args result t.portfolio ∧ "" ∉ t.portfolio.positions := by
    cases hdecision : (a.system.engines i).decideExecute a.system.portfolio a.system.risk
        a.system.gateway.isConnected args.signal args.marketPrice args.atr with
    | ignore =>
      have hfirst : a.system.beginExecute i args = (a.system.counted i args,
          .returned (.ok false)) := by
        rw [System.beginExecute_eq, hdecision]
      have hsecond : b.system.beginExecute i args = (b.system.counted i args,
          .returned (.ok false)) := by
        rw [System.beginExecute_eq, h.decideExecute_eq, hdecision]
      refine h.execute_return hbegin (by rw [hfirst]) ?_ hsecond System.adjusts_counted
      rw [hfirst]
      exact System.adjusts_counted.portfolio_eq
    | block =>
      have hfirst : a.system.beginExecute i args = ((a.system.counted i args).block i,
          .returned (.ok false)) := by
        rw [System.beginExecute_eq, hdecision]
      have hsecond : b.system.beginExecute i args = ((b.system.counted i args).block i,
          .returned (.ok false)) := by
        rw [System.beginExecute_eq, h.decideExecute_eq, hdecision]
      refine h.execute_return hbegin (by rw [hfirst]) ?_ hsecond System.adjusts_counted.block
      rw [hfirst]
      exact System.adjusts_counted.block.portfolio_eq
    | enter marketPrice plan => exact h.execute_enter hdecision hlatency hbegin
    | exit marketPrice plan => exact h.execute_exit hdecision hlatency hbegin
  exact h.of_answers hbegin hlocal hboth.2 hboth.1

/-- The `execute` calls of an engine as a machine. -/
def calls (i : Fin n) : Machine (PaperSystem n) ExecuteArgs (Except StdException Bool) where
  step s args := s.execute i args

/-- An engine that is not bound, and a connected PAPER gateway that no engine observes. It has
no instrument overrides, its adapter injects nothing, and the identifiers that the engine is
going to give are new to it. -/
structure Detached (s : PaperSystem n) (i : Fin n) : Prop where
  unbound : (s.system.engines i).bound = false
  observers_eq : s.system.executionObservers = []
  connected : s.system.gateway.isConnected = true
  specs_eq : s.system.gateway.instrumentSpecs = ∅
  below : s.system.gateway.lifecycle.Below (s.system.engines i).nextLocalOrderId
  next_ne : (s.system.engines i).nextLocalOrderId ≠ 0
  applied_eq : (s.system.engines i).appliedBrokerQty = ∅
  unhindered : s.adapter.Unhindered
  named : "" ∉ s.system.portfolio.positions

/-- The adapter takes the costs of an engine as they are. -/
theorem setSimulationCosts_rates [ExactFormat] (adapter : DeterministicBrokerAdapter)
    (fee slippage : Rate) :
    (adapter.setSimulationCosts fee.value.toDouble
      (slippage.value.toDouble * .finite 10000)).1 =
      { adapter with feeRate := fee, slippageRate := slippage } := by
  have hrate (rate : Rate) : Rate.ofFraction (fraction rate.value.toDouble) = some rate := by
    rw [fraction_toDouble, Rate.ofFraction, dif_pos ⟨rate.nonneg, rate.lt_one⟩]
  have hscaled : slippage.value.toDouble * .finite 10000 / .finite 10000 =
      slippage.value.toDouble := by
    rw [Value.toDouble]
    generalize FloatFormat.double (FloatFormat.double _ / _) = rate
    change Double.finite (rate * 10000 / 10000) = _
    rw [mul_div_cancel_right₀ _ (by norm_num)]
  rw [DeterministicBrokerAdapter.setSimulationCosts, hscaled, hrate, hrate]

/-- Binding the engine of the second run starts the two together. -/
theorem Detached.twins [ExactFormat] (h : s.Detached i) : Twins i s (s.bindBrokerGateway i) := by
  have hengine : (s.bindBrokerGateway i).system.engines i =
      { s.system.engines i with bound := true } :=
    Function.update_self ..
  refine ⟨rfl, ⟨s.system.risk.syncedPositions, rfl⟩, h.unbound, ?_, h.named, ?_⟩
  · rw [hengine]
    exact ⟨rfl, rfl, rfl, rfl⟩
  · have hadapter := setSimulationCosts_rates s.adapter (s.system.engines i).feeRate
      (s.system.engines i).slippage
    have hroutes : (s.bindBrokerGateway i).system.Routes i := by
      refine ⟨?_, ?_, h.connected, h.specs_eq, ?_, ?_, ?_⟩
      · rw [hengine]
      · change s.system.executionObservers ++ [i] = [i]
        rw [h.observers_eq, List.nil_append]
      · rw [hengine]
        exact h.below
      · rw [hengine]
        exact h.next_ne
      · rw [hengine]
        exact h.applied_eq
    refine ⟨hroutes, ?_, ?_, ?_⟩
    · rw [bindBrokerGateway]
      dsimp only
      rw [hadapter]
      exact ⟨h.unhindered.connected, h.unhindered.noFault, h.unhindered.noError,
        h.unhindered.whole⟩
    · rw [hengine, bindBrokerGateway]
      dsimp only
      rw [hadapter]
    · rw [hengine, bindBrokerGateway]
      dsimp only
      rw [hadapter]

/-- **PAPER execution is local execution.** An engine that fills its signals itself and the same
engine bound to the gateway return the same after every call, and have the same portfolio, as
long as no call of the first run throws and no routing takes longer than the limit. -/
theorem bound_run_eq_local_run [ExactFormat] (h : s.Detached i) {inputs : List ExecuteArgs}
    (hlatency : ∀ args ∈ inputs, args.routeLatencyMs ≤ 5)
    (hreturns : ∀ output ∈ (calls i).outputs s inputs, ∃ result, output = .ok result) :
    ∀ before after, inputs = before ++ after →
      (calls i).outputs (s.bindBrokerGateway i) before = (calls i).outputs s before ∧
      ((calls i).run (s.bindBrokerGateway i) before).system.portfolio =
        ((calls i).run s before).system.portfolio := by
  rintro before after rfl
  have hquick := Machine.along_of_forall (M := calls i) hlatency s
  have hboth := hquick.and (Machine.along_of_outputs hreturns)
  have halong := hboth.prefix
  have hstep (first second : PaperSystem n) (args : ExecuteArgs) (htwins : Twins i first second)
      (hcall : args.routeLatencyMs ≤ 5 ∧ ∃ result, (calls i).output first args = .ok result) :
      (calls i).output first args = (calls i).output second args ∧
        Twins i ((calls i).next first args) ((calls i).next second args) := by
    obtain ⟨hwithin, result, hok⟩ := hcall
    exact htwins.execute hwithin hok
  obtain ⟨houtputs, htwins⟩ := Machine.lockstep hstep h.twins halong
  exact ⟨houtputs.symm, htwins.portfolio_eq⟩

end PaperSystem

end Formats

namespace PaperSystem

/-- One engine beside a fresh PAPER gateway that has been connected. -/
def beside : PaperSystem 1 where
  system := {
    portfolio := .fresh
    risk := {}
    gateway := (PaperBroker.create { mode := .paper }).connect.gateway
    engines := fun _ => ExecutionEngine.main "BTCUSDT"
    executionObservers := []
    reportsRejections := false
    analytics := {}
    clock := id }
  adapter := (PaperBroker.create { mode := .paper }).connect.adapter

/-- The sample engine beside a gateway is detached from it. -/
theorem detached_beside : beside.Detached 0 := by
  refine ⟨rfl, rfl, by decide, rfl, ?_, by decide, rfl, ⟨rfl, rfl, rfl, rfl⟩, ?_⟩
  · exact OrderLifecycleStore.below_empty _
  · exact AList.notMem_empty ""

/-- A position is bought, held and sold. -/
def roundTrip : List ExecuteArgs := [
  { signal := .buy, marketPrice := .finite 100, timestamp := 60, strategyId := "trend" },
  { signal := .buy, marketPrice := .finite 105, timestamp := 120, strategyId := "trend" },
  { signal := .sell, marketPrice := .finite 110, timestamp := 180, strategyId := "trend" }]

/-- The two runs of a round trip, without rounding. -/
theorem bound_run_eq_local_run_roundTrip :
    (@calls .exact 1 0).outputs (@bindBrokerGateway .exact 1 beside 0) roundTrip =
      [.ok true, .ok false, .ok true] ∧
    ((@calls .exact 1 0).run (@bindBrokerGateway .exact 1 beside 0)
      roundTrip).system.portfolio =
      ((@calls .exact 1 0).run beside roundTrip).system.portfolio := by
  have houtputs : (@calls .exact 1 0).outputs beside roundTrip =
      [.ok true, .ok false, .ok true] := by
    decide +kernel
  have hreturns : ∀ output ∈ (@calls .exact 1 0).outputs beside roundTrip,
      ∃ result, output = .ok result := by
    rw [houtputs]
    simp
  have hruns := @bound_run_eq_local_run .exact _ _ _ _ detached_beside _ (by decide) hreturns
    roundTrip [] (List.append_nil _).symm
  exact ⟨hruns.1.trans houtputs, hruns.2⟩

end PaperSystem

end TradeBot
