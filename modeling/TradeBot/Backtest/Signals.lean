import TradeBot.Backtest.Agreement
import TradeBot.Trading.LocalFills

/-!
# Signals in backtests that agree

What `execute` does to the shared objects of a backtest, in one of four ways. Objects that
agree go on in the same way, and agree afterwards.
-/

namespace TradeBot

open Library Financial

namespace ExecutionEngine

variable {engine engine' : ExecutionEngine}

/-- Counting may be read in either direction. -/
theorem Counted.symm (h : engine.Counted engine') : engine'.Counted engine := by
  obtain ⟨_, _, _, rfl⟩ := h
  exact ⟨_, _, _, rfl⟩

/-- The counters of an engine, and the order in a map, decide nothing. -/
theorem Counted.decideExecute (h : engine.Counted engine') {pm pm' : PortfolioManager}
    (hpm : pm'.Same pm) {risk risk' : RiskEngine}
    (hmax : risk'.maxConcurrentPositions = risk.maxConcurrentPositions) (connected : Bool)
    (signal : Signal) (marketPrice : Double) (atr : Option Double) :
    engine'.decideExecute pm' risk' connected signal marketPrice atr =
      engine.decideExecute pm risk connected signal marketPrice atr := by
  obtain ⟨_, _, _, rfl⟩ := h
  unfold ExecutionEngine.decideExecute planEntry entrySize planExit fitBudget entryPlan affordable
    RiskEngine.getMaxConcurrentPositions
  simp only [hpm.hasPosition, hpm.getPositionQuantity, hpm.getCashBalance, hpm.getTotalEquity,
    hpm.getOpenPositionCount, hmax]

end ExecutionEngine

namespace System

variable {n : ℕ} {s : System n} {i : Fin n} {args : ExecuteArgs} {marketPrice : Price}
  {portfolio : PortfolioManager}

/-- The local fill of a BUY signal that is allowed and accepted. -/
theorem enterLocally_filled {plan : EntryPlan} (hallowed : s.risk.canTrade s.portfolio = true)
    (hopen : s.portfolio.openLong (s.engines i).symbol plan.fillPrice.toDouble args.timestamp
      plan.executionFee.toDouble plan.debit.toDouble plan.units.toDouble args.strategyId =
        .ok portfolio) :
    ∃ entry quantity, entry.side = 'B' ∧ s.enterLocally i args marketPrice plan =
      ((s.withFill i portfolio entry).recordSlippage i args.timestamp (s.engines i).symbol
        marketPrice.toDouble plan.fillPrice.toDouble quantity, .ok true) := by
  unfold enterLocally
  dsimp only
  rw [hallowed, Bool.not_true, if_neg Bool.false_ne_true, hopen]
  exact ⟨_, _, rfl, rfl⟩

/-- The profit of the last trade is the one in the log, and zero before the first. -/
theorem lastProfit_fst (s : System n) :
    s.lastProfit.1 = (s.portfolio.tradeLog.getLast?.map (·.realizedPnL)).getD 0 := by
  unfold lastProfit
  cases s.portfolio.tradeLog.getLast? with
  | none => rfl
  | some record => rfl

/-- The local fill of a SELL signal that is accepted. -/
theorem exitLocally_filled {plan : ExitPlan}
    (hclose : s.portfolio.closePosition (s.engines i).symbol plan.fillPrice.toDouble
      args.timestamp plan.executionFee.toDouble args.strategyId = .ok portfolio) :
    ∃ entry quantity, entry.side = 'S' ∧ entry.strategyId = args.strategyId ∧
      entry.realizedPnL = (portfolio.tradeLog.getLast?.map (·.realizedPnL)).getD 0 ∧
      s.exitLocally i args marketPrice plan =
        ((s.withFill i portfolio entry).recordSlippage i args.timestamp (s.engines i).symbol
          marketPrice.toDouble plan.fillPrice.toDouble quantity, .ok true) := by
  unfold exitLocally
  dsimp only
  rw [hclose]
  exact ⟨_, _, rfl, rfl, lastProfit_fst _, rfl⟩

end System

namespace Components

variable {c c' : Components} {execution execution' : ExecutionEngine} {args : ExecuteArgs}

/-- The shared objects of two backtests, equal up to the order in their maps. -/
structure Alike (c' c : Components) : Prop where
  portfolio : c'.portfolio.Same c.portfolio
  risk : c'.risk.Alike c.risk
  regime : c'.regime = c.regime
  allocator : c'.allocator.Same c.allocator

/-- What `execute` decides on. -/
def decision (c : Components) (execution : ExecutionEngine) (args : ExecuteArgs) :
    ExecuteDecision :=
  execution.decideExecute c.portfolio c.risk.toRiskEngine false args.signal args.marketPrice
    args.atr

/-- The allocator after a sale that the engine may have recorded. -/
def afterSale (c : Components) (execution : ExecutionEngine) (portfolio : PortfolioManager)
    (strategyId : String) : PortfolioAllocator :=
  if execution.recordsAnalytics ∧ strategyId ≠ "" then
    c.allocator.onTradeClosed strategyId
      ((portfolio.tradeLog.getLast?.map (·.realizedPnL)).getD 0)
  else c.allocator

/-- What `execute` does to the shared objects. -/
inductive Executed (c : Components) (execution : ExecutionEngine) (args : ExecuteArgs) :
    Except String (Components × ExecutionEngine) → Prop
  | quiet (execution' : ExecutionEngine) (hcounted : execution.Counted execution')
    (hdecision : c.decision execution args = .ignore ∨ c.decision execution args = .block ∨
      c.risk.canTrade c.portfolio = false ∧
        ∃ marketPrice plan, c.decision execution args = .enter marketPrice plan) :
    Executed c execution args (.ok (c, execution'))
  | bought (execution' : ExecutionEngine) (hcounted : execution.Counted execution')
    (hallowed : c.risk.canTrade c.portfolio = true) (marketPrice : Price) (plan : EntryPlan)
    (hdecision : c.decision execution args = .enter marketPrice plan)
    (portfolio : PortfolioManager)
    (hopen : c.portfolio.openLong execution.symbol plan.fillPrice.toDouble args.timestamp
      plan.executionFee.toDouble plan.debit.toDouble plan.units.toDouble args.strategyId =
        .ok portfolio) :
    Executed c execution args (.ok ({ c with portfolio := portfolio }, execution'))
  | sold (execution' : ExecutionEngine) (hcounted : execution.Counted execution')
    (marketPrice : Price) (plan : ExitPlan)
    (hdecision : c.decision execution args = .exit marketPrice plan)
    (portfolio : PortfolioManager)
    (hclose : c.portfolio.closePosition execution.symbol plan.fillPrice.toDouble args.timestamp
      plan.executionFee.toDouble args.strategyId = .ok portfolio) :
    Executed c execution args (.ok ({ c with
      portfolio := portfolio
      allocator := c.afterSale execution portfolio args.strategyId }, execution'))
  | threw (what : String)
    (hdecision : (∃ marketPrice plan e, c.decision execution args = .enter marketPrice plan ∧
        c.risk.canTrade c.portfolio = true ∧ c.portfolio.openLong execution.symbol
          plan.fillPrice.toDouble args.timestamp plan.executionFee.toDouble plan.debit.toDouble
          plan.units.toDouble args.strategyId = .error e) ∨
      ∃ marketPrice plan e, c.decision execution args = .exit marketPrice plan ∧
        c.portfolio.closePosition execution.symbol plan.fillPrice.toDouble args.timestamp
          plan.executionFee.toDouble args.strategyId = .error e) :
    Executed c execution args (.error what)

/-- The system of a backtest in which the signal has been counted. -/
def counted (c : Components) (execution : ExecutionEngine) (args : ExecuteArgs) : System 1 :=
  if args.signal = .none then c.system execution
  else (c.system execution).setEngine 0 { execution with
    signalCount := execution.signalCount + 1 }

/-- Counting a signal changes counters of the engine only. -/
theorem counted_eq (c : Components) (execution : ExecutionEngine) (args : ExecuteArgs) :
    ∃ execution', c.counted execution args = c.system execution' ∧
      execution.Counted execution' := by
  unfold counted
  split
  · exact ⟨execution, rfl, .refl execution⟩
  · refine ⟨{ execution with signalCount := execution.signalCount + 1 }, ?_, ⟨_, _, _, rfl⟩⟩
    unfold System.setEngine system
    congr 1
    funext i
    rw [Fin.fin_one_eq_zero i, Function.update_self]

/-- A local engine follows its decision: it ignores the signal, blocks it, or books an entry or an
exit. -/
theorem beginExecute_eq (hunbound : execution.bound = false) (c : Components)
    (args : ExecuteArgs) :
    (c.system execution).beginExecute 0 args =
      match c.decision execution args with
      | .ignore => (c.counted execution args, .returned (.ok false))
      | .block => ((c.counted execution args).block 0, .returned (.ok false))
      | .enter marketPrice plan =>
        (((c.counted execution args).enterLocally 0 args marketPrice plan).1,
          .returned ((c.counted execution args).enterLocally 0 args marketPrice plan).2)
      | .exit marketPrice plan =>
        (((c.counted execution args).exitLocally 0 args marketPrice plan).1,
          .returned ((c.counted execution args).exitLocally 0 args marketPrice plan).2) := by
  unfold System.beginExecute
  dsimp only
  change (match c.decision execution args with
    | .ignore => _
    | .block => _
    | .enter marketPrice plan => _
    | .exit marketPrice plan => _) = _
  cases c.decision execution args with
  | ignore => rfl
  | block => rfl
  | enter marketPrice plan =>
    dsimp only
    rw [if_neg (by change ¬execution.bound = true; rw [hunbound]; decide)]
    rfl
  | exit marketPrice plan =>
    dsimp only
    rw [if_neg (by change ¬execution.bound = true; rw [hunbound]; decide)]
    rfl

/-- What a fill leaves of the shared objects. -/
theorem afterCall_fill {counted : ExecutionEngine} {portfolio : PortfolioManager}
    {entry : TradeLogEntry} {timestamp : ℕ} {symbol : String} {expected actual quantity : Double} :
    let s := ((c.system counted).withFill 0 portfolio entry).recordSlippage 0 timestamp symbol
      expected actual quantity
    c.afterCall s = { c with
      portfolio := portfolio
      allocator := if counted.recordsAnalytics then c.allocator.onTrade entry
        else c.allocator } ∧ counted.Counted (s.engines 0) := by
  intro s
  have hlocal : (c.system counted).Local s :=
    (System.local_withFill _ 0 portfolio entry).trans (System.local_recordSlippage ..)
  have hportfolio : s.portfolio = portfolio := by
    rw [System.portfolio_recordSlippage, System.portfolio_withFill]
  have htrades : s.analytics.trades = (c.system counted).tradesWith 0 entry := by
    rw [System.trades_recordSlippage, System.trades_withFill]
  refine ⟨?_, hlocal.engines 0⟩
  unfold afterCall
  rw [hportfolio, htrades, hlocal.risk]
  unfold System.tradesWith
  cases hrecords : counted.recordsAnalytics with
  | true =>
    rw [if_pos (by exact hrecords), if_pos rfl]
    rfl
  | false =>
    rw [if_neg (by change ¬counted.recordsAnalytics = true; rw [hrecords]; decide),
      if_neg Bool.false_ne_true]
    rfl

/-- **Signals of a backtest.** -/
theorem executed (hunbound : execution.bound = false) (c : Components) (args : ExecuteArgs) :
    Executed c execution args (c.execute execution args) := by
  obtain ⟨counted, hcounted, hsame⟩ := c.counted_eq execution args
  have hsymbol : counted.symbol = execution.symbol := by
    obtain ⟨_, _, _, rfl⟩ := hsame
    rfl
  have hrecords : counted.recordsAnalytics = execution.recordsAnalytics := by
    obtain ⟨_, _, _, rfl⟩ := hsame
    rfl
  unfold execute
  rw [beginExecute_eq hunbound, hcounted]
  cases hdecision : c.decision execution args with
  | ignore => exact .quiet counted hsame (.inl hdecision)
  | block => exact .quiet _ (hsame.trans ⟨_, _, _, rfl⟩) (.inr (.inl hdecision))
  | enter marketPrice plan =>
    dsimp only
    cases hallowed : c.risk.canTrade c.portfolio with
    | false =>
      have hblock : (c.system counted).enterLocally 0 args marketPrice plan =
          ((c.system counted).block 0, .ok false) :=
        if_pos (by change (!c.risk.canTrade c.portfolio) = true; rw [hallowed]; rfl)
      rw [hblock]
      exact .quiet _ (hsame.trans ⟨_, _, _, rfl⟩) (.inr (.inr ⟨hallowed, _, _, hdecision⟩))
    | true =>
      cases hopen : c.portfolio.openLong counted.symbol plan.fillPrice.toDouble args.timestamp
          plan.executionFee.toDouble plan.debit.toDouble plan.units.toDouble
          args.strategyId with
      | error e =>
        have hthrow : (c.system counted).enterLocally 0 args marketPrice plan =
            (c.system counted, .error e) := by
          unfold System.enterLocally
          dsimp only
          rw [if_neg (by change ¬(!c.risk.canTrade c.portfolio) = true; rw [hallowed]; decide)]
          have hopen' : (c.system counted).portfolio.openLong
              ((c.system counted).engines 0).symbol plan.fillPrice.toDouble args.timestamp
              plan.executionFee.toDouble plan.debit.toDouble plan.units.toDouble
              args.strategyId = .error e := hopen
          rw [hopen']
        rw [hthrow]
        rw [hsymbol] at hopen
        exact .threw _ (.inl ⟨marketPrice, plan, e, hdecision, hallowed, hopen⟩)
      | ok portfolio =>
        obtain ⟨entry, quantity, hside, heq⟩ :=
          @System.enterLocally_filled 1 (c.system counted) 0 args marketPrice portfolio plan
            hallowed hopen
        obtain ⟨hafter, hcount⟩ := @afterCall_fill c counted portfolio entry args.timestamp
          counted.symbol marketPrice.toDouble plan.fillPrice.toDouble quantity
        have hquiet : c.allocator.onTrade entry = c.allocator := by
          unfold PortfolioAllocator.onTrade
          rw [if_neg (fun h => by rw [hside] at h; exact absurd h.1 (by decide))]
        rw [hquiet, ite_self] at hafter
        rw [heq]
        dsimp only
        rw [show counted.symbol = ((c.system counted).engines 0).symbol from rfl] at hafter hcount
        rw [hafter]
        rw [hsymbol] at hopen
        exact .bought _ (hsame.trans hcount) hallowed marketPrice plan hdecision portfolio hopen
  | exit marketPrice plan =>
    dsimp only
    cases hclose : c.portfolio.closePosition counted.symbol plan.fillPrice.toDouble args.timestamp
        plan.executionFee.toDouble args.strategyId with
    | error e =>
      have hthrow : (c.system counted).exitLocally 0 args marketPrice plan =
          (c.system counted, .error e) := by
        unfold System.exitLocally
        dsimp only
        have hclose' : (c.system counted).portfolio.closePosition
            ((c.system counted).engines 0).symbol plan.fillPrice.toDouble args.timestamp
            plan.executionFee.toDouble args.strategyId = .error e := hclose
        rw [hclose']
      rw [hthrow]
      rw [hsymbol] at hclose
      exact .threw _ (.inr ⟨marketPrice, plan, e, hdecision, hclose⟩)
    | ok portfolio =>
      obtain ⟨entry, quantity, hside, hid, hprofit, heq⟩ :=
        @System.exitLocally_filled 1 (c.system counted) 0 args marketPrice portfolio plan hclose
      obtain ⟨hafter, hcount⟩ := @afterCall_fill c counted portfolio entry args.timestamp
        counted.symbol marketPrice.toDouble plan.fillPrice.toDouble quantity
      have hsale : (if counted.recordsAnalytics then c.allocator.onTrade entry else c.allocator) =
          c.afterSale execution portfolio args.strategyId := by
        unfold PortfolioAllocator.onTrade afterSale
        rw [hrecords, hside, hid, hprofit]
        by_cases hrecorded : execution.recordsAnalytics = true
        · simp [hrecorded]
        · simp [hrecorded]
      rw [hsale] at hafter
      rw [heq]
      dsimp only
      rw [show counted.symbol = ((c.system counted).engines 0).symbol from rfl] at hafter hcount
      rw [hafter]
      rw [hsymbol] at hclose
      exact .sold _ (hsame.trans hcount) marketPrice plan hdecision portfolio hclose

section Results

variable {result : Except String (Components × ExecutionEngine)}

/-- Where nothing is to be booked, the components stay as they are. -/
theorem Executed.of_quiet (h : Executed c execution args result)
    (hquiet : c.decision execution args = .ignore ∨ c.decision execution args = .block ∨
      c.risk.canTrade c.portfolio = false ∧
        ∃ marketPrice plan, c.decision execution args = .enter marketPrice plan) :
    ∃ execution', result = .ok (c, execution') ∧ execution.Counted execution' := by
  cases h with
  | quiet execution' hcounted _ => exact ⟨execution', rfl, hcounted⟩
  | bought _ _ hallowed _ _ hdecision =>
    rw [hdecision, hallowed] at hquiet
    rcases hquiet with hquiet | hquiet | ⟨hquiet, -⟩
    · cases hquiet
    · cases hquiet
    · cases hquiet
  | sold _ _ _ _ hdecision =>
    rw [hdecision] at hquiet
    rcases hquiet with hquiet | hquiet | ⟨-, _, _, hquiet⟩
    · cases hquiet
    · cases hquiet
    · cases hquiet
  | threw _ hthrew =>
    rcases hthrew with ⟨_, _, _, hdecision, hallowed, -⟩ | ⟨_, _, _, hdecision, -⟩
    · rw [hdecision, hallowed] at hquiet
      rcases hquiet with hquiet | hquiet | ⟨hquiet, -⟩
      · cases hquiet
      · cases hquiet
      · cases hquiet
    · rw [hdecision] at hquiet
      rcases hquiet with hquiet | hquiet | ⟨-, _, _, hquiet⟩
      · cases hquiet
      · cases hquiet
      · cases hquiet

/-- An allowed entry whose purchase succeeds leaves its portfolio in the components. -/
theorem Executed.of_enter (h : Executed c execution args result)
    (hallowed : c.risk.canTrade c.portfolio = true) {marketPrice : Price} {plan : EntryPlan}
    (henter : c.decision execution args = .enter marketPrice plan) {portfolio : PortfolioManager}
    (hopen : c.portfolio.openLong execution.symbol plan.fillPrice.toDouble args.timestamp
      plan.executionFee.toDouble plan.debit.toDouble plan.units.toDouble args.strategyId =
        .ok portfolio) :
    ∃ execution', result = .ok ({ c with portfolio := portfolio }, execution') ∧
      execution.Counted execution' := by
  cases h with
  | quiet _ _ hdecision =>
    rw [henter, hallowed] at hdecision
    rcases hdecision with hdecision | hdecision | ⟨hdecision, -⟩
    · cases hdecision
    · cases hdecision
    · cases hdecision
  | bought execution' hcounted _ _ _ hdecision portfolio' hopen' =>
    rw [henter] at hdecision
    cases hdecision
    rw [hopen] at hopen'
    cases hopen'
    exact ⟨execution', rfl, hcounted⟩
  | sold _ _ _ _ hdecision =>
    rw [henter] at hdecision
    cases hdecision
  | threw _ hthrew =>
    rcases hthrew with ⟨_, _, _, hdecision, -, hopen'⟩ | ⟨_, _, _, hdecision, -⟩
    · rw [henter] at hdecision
      cases hdecision
      rw [hopen] at hopen'
      cases hopen'
    · rw [henter] at hdecision
      cases hdecision

/-- An exit whose sale succeeds leaves its portfolio, with the profit reported to the allocator. -/
theorem Executed.of_exit (h : Executed c execution args result) {marketPrice : Price}
    {plan : ExitPlan} (hexit : c.decision execution args = .exit marketPrice plan)
    {portfolio : PortfolioManager}
    (hclose : c.portfolio.closePosition execution.symbol plan.fillPrice.toDouble args.timestamp
      plan.executionFee.toDouble args.strategyId = .ok portfolio) :
    ∃ execution', result = .ok ({ c with
      portfolio := portfolio
      allocator := c.afterSale execution portfolio args.strategyId }, execution') ∧
      execution.Counted execution' := by
  cases h with
  | quiet _ _ hdecision =>
    rw [hexit] at hdecision
    rcases hdecision with hdecision | hdecision | ⟨-, _, _, hdecision⟩
    · cases hdecision
    · cases hdecision
    · cases hdecision
  | bought _ _ _ _ _ hdecision =>
    rw [hexit] at hdecision
    cases hdecision
  | sold execution' hcounted _ _ hdecision portfolio' hclose' =>
    rw [hexit] at hdecision
    cases hdecision
    rw [hclose] at hclose'
    cases hclose'
    exact ⟨execution', rfl, hcounted⟩
  | threw _ hthrew =>
    rcases hthrew with ⟨_, _, _, hdecision, -⟩ | ⟨_, _, _, hdecision, hclose'⟩
    · rw [hexit] at hdecision
      cases hdecision
    · rw [hexit] at hdecision
      cases hdecision
      rw [hclose] at hclose'
      cases hclose'

end Results

/-- Objects that agree decide alike. -/
theorem Alike.decision (h : c'.Alike c) (hsame : execution.Counted execution')
    (args : ExecuteArgs) : c'.decision execution' args = c.decision execution args := by
  have hmax : c'.risk.maxConcurrentPositions = c.risk.maxConcurrentPositions := by rw [h.risk.eq]
  exact hsame.decideExecute h.portfolio hmax ..

/-- After a sale alike components stay alike, as they report the same profit. -/
theorem Alike.afterSale (h : c'.Alike c) (hsame : execution.Counted execution')
    {portfolio portfolio' : PortfolioManager} (hportfolio : portfolio'.Same portfolio)
    (strategyId : String) :
    (c'.afterSale execution' portfolio' strategyId).Same
      (c.afterSale execution portfolio strategyId) := by
  obtain ⟨_, _, _, rfl⟩ := hsame
  unfold Components.afterSale
  rw [hportfolio.tradeLog]
  dsimp only
  split
  · next hsale =>
    have hentry (allocator : PortfolioAllocator) (profit : Double) :
        allocator.onTrade {
          timestamp := 0
          side := 'S'
          price := 0
          quantity := 0
          fee := 0
          realizedPnL := profit
          grossPnL := 0
          strategyId := strategyId } = allocator.onTradeClosed strategyId profit :=
      if_pos ⟨rfl, hsale.2⟩
    rw [← hentry, ← hentry]
    exact h.allocator.onTrade _
  · exact h.allocator

/-- **Signals in backtests that agree.** -/
theorem Alike.execute (h : c'.Alike c) (hsame : execution.Counted execution')
    (hunbound : execution.bound = false) {c₁ : Components} {execution₁ : ExecutionEngine}
    (hok : c.execute execution args = .ok (c₁, execution₁)) (hvalued : c₁.portfolio.Valued)
    (haddable : PortfolioManager.Addable c₁.portfolio.positions) :
    ∃ c₁' execution₁', c'.execute execution' args = .ok (c₁', execution₁') ∧ c₁'.Alike c₁ ∧
      execution₁.Counted execution₁' := by
  have hunbound' : execution'.bound = false := by
    obtain ⟨_, _, _, rfl⟩ := hsame
    exact hunbound
  have hsymbol : execution'.symbol = execution.symbol := by
    obtain ⟨_, _, _, rfl⟩ := hsame
    rfl
  have hdecide := h.decision hsame args
  have hcan := h.risk.canTrade h.portfolio
  have hdone := executed hunbound c args
  have hdone' := executed hunbound' c' args
  rw [hok] at hdone
  cases hdone with
  | quiet _ hcounted hdecision =>
    rw [← hdecide, ← hcan] at hdecision
    obtain ⟨execution₁', hresult, hcounted'⟩ := hdone'.of_quiet hdecision
    exact ⟨c', execution₁', hresult, h, hcounted.symm.trans (hsame.trans hcounted')⟩
  | bought _ hcounted hallowed marketPrice plan hdecision portfolio hopen =>
    rw [← hdecide] at hdecision
    rw [← hcan] at hallowed
    rw [← hsymbol] at hopen
    obtain ⟨portfolio', hopen', hportfolio⟩ := h.portfolio.openLong hvalued haddable hopen
    obtain ⟨execution₁', hresult, hcounted'⟩ := hdone'.of_enter hallowed hdecision hopen'
    exact ⟨_, execution₁', hresult, ⟨hportfolio, h.risk, h.regime, h.allocator⟩,
      hcounted.symm.trans (hsame.trans hcounted')⟩
  | sold _ hcounted marketPrice plan hdecision portfolio hclose =>
    rw [← hdecide] at hdecision
    rw [← hsymbol] at hclose
    obtain ⟨portfolio', hclose', hportfolio⟩ := h.portfolio.closePosition hvalued haddable hclose
    obtain ⟨execution₁', hresult, hcounted'⟩ := hdone'.of_exit hdecision hclose'
    exact ⟨_, execution₁', hresult,
      ⟨hportfolio, h.risk, h.regime, h.afterSale hsame hportfolio args.strategyId⟩,
      hcounted.symm.trans (hsame.trans hcounted')⟩

end Components

end TradeBot
