import TradeBot.PortfolioQueue
import TradeBot.Risk.Gates
import TradeBot.Trading.Purchases

/-!
# The drawdown limits at the moment of a purchase

`canTrade` compares the limits with what was told to the risk engine. The event loops tell it
the total drawdown at the end of every candle and the daily drawdown never. So a purchase is
within the limits as long as the fills of its own candle have not crossed the total one, and
the day has not lost as much as the daily one.
-/

namespace TradeBot

open Library Financial RiskEngine

namespace RiskMonitor

variable (sqrt : Double → Double)

/-- The observation of an equity does not touch the drawdown. -/
theorem totalDrawdown_pushEquityReturn (risk : RiskMonitor) (equity : Double) :
    (risk.pushEquityReturn sqrt equity).totalDrawdown = risk.totalDrawdown := by
  unfold pushEquityReturn
  dsimp only
  split
  · split <;> rfl
  · rfl

/-- Nor does that of an asset. -/
theorem totalDrawdown_pushAssetReturn (risk : RiskMonitor) (equity : Double) (symbol : String)
    (closingPrice positionValue : Double) :
    (risk.pushAssetReturn sqrt equity symbol closingPrice positionValue).totalDrawdown =
      risk.totalDrawdown := by
  have hrebuilt (risk : RiskMonitor) :
      risk.rebuildCovMatrix.totalDrawdown = risk.totalDrawdown := by
    unfold rebuildCovMatrix
    dsimp only
    split <;> rfl
  have hupdated (risk : RiskMonitor) :
      (risk.updateDiversifiedVaR sqrt equity).totalDrawdown = risk.totalDrawdown := by
    unfold updateDiversifiedVaR
    dsimp only
    split <;> rfl
  unfold pushAssetReturn
  dsimp only
  split
  · rw [hupdated, hrebuilt]
  · rw [hrebuilt]

end RiskMonitor

/-- Neither the portfolio's own drawdown nor the loss of the day has reached its limit. -/
structure PurchaseMoment.WithinLimits (moment : PurchaseMoment) : Prop where
  total : ¬maxTotalDrawdown ≤ moment.portfolio.getCurrentDrawdown
  daily : ¬maxDailyDrawdown ≤ moment.dailyDrawdown

/-- The portfolio after the sale of a triggered order, when the engine sells. -/
def ExecutionEngine.sellPending (engine : ExecutionEngine) (portfolio : PortfolioManager)
    (fill : OrderFillResult) : Option PortfolioManager := do
  let fillPrice ← (price fill.fillPrice).filter (·.isPositive)
  let plan ← engine.planExit portfolio fill.symbol fillPrice
  (portfolio.closePosition fill.symbol plan.fillPrice.toDouble fill.fillTimestamp
    plan.executionFee.toDouble).toOption

namespace LoopDesk

variable {n : ℕ} {d : LoopDesk n} {i : Fin n}

/-- Every purchase was filled within the limits. -/
def Limited (d : LoopDesk n) : Prop := ∀ moment ∈ d.purchases, moment.WithinLimits

/-- A limit that a portfolio has reached is one that the risk engine knows to be reached, so
that it allows no purchase. -/
structure Known (d : LoopDesk n) (portfolio : PortfolioManager) : Prop where
  total : maxTotalDrawdown ≤ portfolio.getCurrentDrawdown →
    maxTotalDrawdown ≤ d.paper.system.risk.totalDrawdown
  daily : maxDailyDrawdown ≤ (PurchaseMoment.mk d.dayStartEquity portfolio).dailyDrawdown →
    maxDailyDrawdown ≤ d.paper.system.risk.dailyDrawdown

/-- A triggered order is there to buy in a symbol, or the signal is. -/
def Offers (engineSymbol : String) (signal : Signal) (symbol : String)
    (fills : List OrderFillResult) : Prop :=
  (signal = .buy ∧ symbol = engineSymbol) ∨ ∃ fill ∈ fills, fill.isBuy = true ∧ fill.symbol = symbol

/-- What is asked of a candle, in the state in which its day has begun and its orders are
triggered. A triggered sale that comes before an offer to buy in its symbol is the first of the
triggered orders that can be filled, and what it leaves has reached no limit that the risk engine
does not know. -/
structure Safe (d : LoopDesk n) (i : Fin n) (signal : Signal) (fills : List OrderFillResult) :
    Prop where
  own : signal = .buy → ∀ fill ∈ fills, fill.symbol = (d.paper.system.engines i).symbol
  daily : ∀ symbol, Offers (d.paper.system.engines i).symbol signal symbol fills →
    d.portfolio.hasPosition symbol = false →
      maxDailyDrawdown ≤ d.moment.dailyDrawdown →
        maxDailyDrawdown ≤ d.paper.system.risk.dailyDrawdown
  held : ∀ earlier sale later, fills = earlier ++ sale :: later → sale.isBuy = false →
    Offers (d.paper.system.engines i).symbol signal sale.symbol later →
      d.portfolio.hasPosition sale.symbol = true →
        (∀ fill ∈ earlier, fill.isBuy = true) ∧
          ∀ sold, (d.paper.system.engines i).sellPending d.portfolio sale = some sold →
            d.Known sold
  free : ∀ earlier sale later, fills = earlier ++ sale :: later → sale.isBuy = false →
    Offers (d.paper.system.engines i).symbol signal sale.symbol later →
      d.portfolio.hasPosition sale.symbol = false → ∀ fill ∈ earlier, fill.isBuy = false

/-- Every candle is safe. -/
def InputSafe (d : LoopDesk n) : Input n → Prop
  | .processCandle i candle decision => d.ended = false →
    (d.opened candle).Safe i decision.signal (d.paper.system.triggered candle).2
  | .placePendingOrder _ => True

/-- Between two candles the risk engine knows the drawdown of the portfolio. -/
structure Pushed (d : LoopDesk n) : Prop where
  limited : d.Limited
  total : d.ended = false →
    d.paper.system.risk.totalDrawdown = d.portfolio.getCurrentDrawdown

/-- A move keeps the purchases within the limits if the moment of its own purchase is. -/
theorem Limited.advance (h : d.Limited) {paper : PaperSystem n}
    (hmoment : d.portfolio.entryCount < paper.system.portfolio.entryCount →
      d.moment.WithinLimits) : (d.advance paper).Limited := by
  intro moment hmem
  unfold LoopDesk.advance at hmem
  dsimp only at hmem
  split at hmem
  · next hentry =>
    rcases List.mem_append.mp hmem with hmem | hmem
    · exact h moment hmem
    · rw [List.mem_singleton.mp hmem]
      exact hmoment hentry
  · exact h moment hmem

/-- A purchase that the risk engine allows is within limits that it knows. -/
theorem Known.withinLimits {portfolio : PortfolioManager} (h : d.Known portfolio)
    (hallowed : d.paper.system.risk.canTrade portfolio = true) :
    (PurchaseMoment.mk d.dayStartEquity portfolio).WithinLimits := by
  obtain ⟨-, -, htotal, hdaily, -, -⟩ := RiskEngine.canTrade_iff.mp hallowed
  exact ⟨fun hreached => htotal (h.total hreached), fun hreached => hdaily (h.daily hreached)⟩

/-! ### The turns over the triggered orders -/

/-- The orders that a candle triggers are of its symbol. -/
theorem symbol_of_mem_triggered {s : System n} {candle : MarketCandle} {fill : OrderFillResult}
    (h : fill ∈ (s.triggered candle).2) : fill.symbol = candle.symbol := by
  obtain ⟨order, -, hsymbol, normalizedFill, -, rfl⟩ :=
    (PortfolioManager.splits_evaluateQueue candle.symbol candle.high candle.low candle.close
      candle.epochTimestamp s.portfolio.pendingOrders).mem_taken h
  exact hsymbol

/-- What one turn does to the portfolio: nothing, a purchase of an order to buy, or the sale of
another order. -/
theorem processFill_portfolio (s : System n) (i : Fin n) (fill : OrderFillResult) :
    (s.processFill i fill).1.portfolio = s.portfolio ∨
      (fill.isBuy = true ∧ s.risk.canTrade s.portfolio = true ∧
        s.portfolio.hasPosition fill.symbol = false ∧
          (s.processFill i fill).1.portfolio.hasPosition fill.symbol = true) ∨
      (fill.isBuy = false ∧ s.portfolio.hasPosition fill.symbol = true ∧
        (s.engines i).sellPending s.portfolio fill =
          some (s.processFill i fill).1.portfolio) := by
  unfold System.processFill
  split
  · exact .inl rfl
  · exact .inl rfl
  · next plan hdecision =>
    obtain ⟨hbuy, hallowed, hnone, -⟩ := ExecutionEngine.decidePending_eq_enter hdecision
    split
    · exact .inl rfl
    · next t henter =>
      simp only [System.enterPending, bind_eq_ok, pure_eq_ok] at henter
      obtain ⟨portfolio, hopen, rfl⟩ := henter
      obtain ⟨p, hopened⟩ := PortfolioManager.openLong_opened hopen
      refine .inr (.inl ⟨hbuy, hallowed, hnone, ?_⟩)
      refine (congrArg (·.hasPosition fill.symbol) (s.portfolio_withFill i portfolio _)).trans ?_
      rw [PortfolioManager.hasPosition, hopened.positions, decide_eq_true_iff]
      exact (AList.mem_insert _).mpr (.inl rfl)
  · next plan hdecision =>
    obtain ⟨hsale, hheld, fillPrice, hprice, hplan⟩ :=
      ExecutionEngine.decidePending_eq_exit hdecision
    split
    · exact .inl rfl
    · next t hexit =>
      simp only [System.exitPending, bind_eq_ok, pure_eq_ok] at hexit
      obtain ⟨portfolio, hclose, rfl⟩ := hexit
      refine .inr (.inr ⟨hsale, hheld, ?_⟩)
      have hsold : (s.engines i).sellPending s.portfolio fill = some portfolio := by
        unfold ExecutionEngine.sellPending
        rw [hprice]
        change ((s.engines i).planExit s.portfolio fill.symbol fillPrice).bind _ = _
        rw [hplan, Option.bind_some, hclose]
        rfl
      exact hsold.trans (congrArg some (s.portfolio_withFill i portfolio _).symm)

/-- A state between two turns of a safe candle, which began in `base`: the triggered orders that
are left are `fills`. Until an order is filled the portfolio is as it was, and from then on no
sale comes before an offer to buy. -/
structure Turning (base : LoopDesk n) (i : Fin n) (signal : Signal) (symbol : String)
    (d : LoopDesk n) (fills : List OrderFillResult) : Prop where
  limited : d.Limited
  risk : d.paper.system.risk = base.paper.system.risk
  dayStart : d.dayStartEquity = base.dayStartEquity
  engine : (base.paper.system.engines i).Counted (d.paper.system.engines i)
  ready : Offers (base.paper.system.engines i).symbol signal symbol fills →
    d.portfolio.hasPosition symbol = false → base.Known d.portfolio
  filled : d.portfolio = base.portfolio ∨
    ∀ mid sale later, fills = mid ++ sale :: later → sale.isBuy = false →
      ¬Offers (base.paper.system.engines i).symbol signal symbol later

/-- The sales of an engine do not depend on its counts. -/
theorem sellPending_counted {engine engine' : ExecutionEngine} (h : engine.Counted engine')
    (portfolio : PortfolioManager) (fill : OrderFillResult) :
    engine'.sellPending portfolio fill = engine.sellPending portfolio fill := by
  obtain ⟨_, _, _, rfl⟩ := h
  rfl

variable {base : LoopDesk n} {signal : Signal} {symbol : String}
  {earlier fills : List OrderFillResult} {fill : OrderFillResult}

/-- More fills offer no less. -/
theorem Offers.cons {engineSymbol : String} (h : Offers engineSymbol signal symbol fills) :
    Offers engineSymbol signal symbol (fill :: fills) := by
  rcases h with hsignal | ⟨offer, hmem, hoffer⟩
  · exact .inl hsignal
  · exact .inr ⟨offer, List.mem_cons_of_mem _ hmem, hoffer⟩

/-- In a safe candle no sale comes before an offer to buy once an order is filled. -/
theorem Safe.not_offers (h : base.Safe i signal (earlier ++ fill :: fills))
    (hfilled : fill.isBuy = !base.portfolio.hasPosition symbol)
    (hsymbols : ∀ fill ∈ fills, fill.symbol = symbol) (mid : List OrderFillResult)
    (sale : OrderFillResult) (later : List OrderFillResult) (heq : fills = mid ++ sale :: later)
    (hsale : sale.isBuy = false) :
    ¬Offers (base.paper.system.engines i).symbol signal symbol later := by
  intro hoffers
  have hsplit : earlier ++ fill :: fills = (earlier ++ fill :: mid) ++ sale :: later := by
    rw [heq, List.append_assoc, List.cons_append]
  have hsymbol : sale.symbol = symbol := hsymbols sale (by simp [heq])
  have hmem : fill ∈ earlier ++ fill :: mid := by simp
  rw [← hsymbol] at hoffers hfilled
  cases hheld : base.portfolio.hasPosition sale.symbol with
  | true =>
    have hbuy := (h.held _ sale later hsplit hsale hoffers hheld).1 fill hmem
    rw [hfilled, hheld] at hbuy
    cases hbuy
  | false =>
    have hsell := h.free _ sale later hsplit hsale hoffers hheld fill hmem
    rw [hfilled, hheld] at hsell
    cases hsell

/-- **One turn.** The turn of a triggered order buys within the limits, and the turns after it
still do. -/
theorem Turning.turn (h : Turning base i signal symbol d (fill :: fills))
    (hsafe : base.Safe i signal (earlier ++ fill :: fills))
    (hsymbols : ∀ offer ∈ fill :: fills, offer.symbol = symbol) :
    Turning base i signal symbol
      (d.advance { d.paper with system := (d.paper.system.processFill i fill).1 }) fills := by
  have hlocal := (d.paper.system.processFill_booked i fill).1
  have hengine := h.engine.trans (hlocal.engines i)
  have hrisk := hlocal.risk.trans h.risk
  have hsymbol := hsymbols fill List.mem_cons_self
  have hrest : ∀ offer ∈ fills, offer.symbol = symbol := fun offer hmem =>
    hsymbols offer (List.mem_cons_of_mem _ hmem)
  rcases processFill_portfolio d.paper.system i fill with
    hsame | ⟨hbuy, hallowed, hnone, hafter⟩ | ⟨hsale, hheld, hsold⟩
  · -- nothing is filled
    refine ⟨h.limited.advance fun hentry => ?_, hrisk, h.dayStart, hengine,
      fun hoffers hposition => ?_, ?_⟩
    · exact absurd hentry (by rw [hsame]; exact lt_irrefl _)
    · exact (congrArg base.Known hsame).mpr
        (h.ready hoffers.cons ((congrArg (·.hasPosition symbol) hsame).symm.trans hposition))
    · refine h.filled.imp hsame.trans fun hnone mid sale later heq => ?_
      exact hnone (fill :: mid) sale later (by rw [heq, List.cons_append])
  · -- a purchase: its symbol is held from now on
    rw [hsymbol] at hnone hafter
    have hoffers : Offers (base.paper.system.engines i).symbol signal symbol (fill :: fills) :=
      .inr ⟨fill, List.mem_cons_self, hbuy, hsymbol⟩
    refine ⟨h.limited.advance fun _ => ?_, hrisk, h.dayStart, hengine,
      fun _ hposition => absurd (hafter.symm.trans hposition) (by decide), .inr ?_⟩
    · rw [h.risk] at hallowed
      have hwithin := (h.ready hoffers hnone).withinLimits hallowed
      rwa [← h.dayStart] at hwithin
    · rcases h.filled with hstart | hsettled
      · refine hsafe.not_offers ?_ hrest
        rw [← hstart, hbuy]
        exact (congrArg (!·) hnone).symm
      · intro mid sale later heq
        exact hsettled (fill :: mid) sale later (by rw [heq, List.cons_append])
  · -- a sale: the offers after it find what it leaves
    rw [hsymbol] at hheld
    refine ⟨h.limited.advance fun hentry => ?_, hrisk, h.dayStart, hengine,
      fun hoffers _ => ?_, .inr ?_⟩
    · obtain ⟨plan, hplan⟩ := System.processFill_entry hentry
      rw [(ExecutionEngine.decidePending_eq_enter hplan).1] at hsale
      cases hsale
    · rcases h.filled with hstart | hsettled
      · rw [sellPending_counted h.engine] at hsold
        have hbase := hsafe.held earlier fill fills rfl hsale (hsymbol ▸ hoffers)
          (by rw [hsymbol, ← hstart]; exact hheld)
        rw [← hstart] at hbase
        exact hbase.2 _ hsold
      · exact absurd hoffers (hsettled [] fill fills rfl hsale)
    · rcases h.filled with hstart | hsettled
      · refine hsafe.not_offers ?_ hrest
        rw [← hstart, hsale]
        exact (congrArg (!·) hheld).symm
      · intro mid sale later heq
        exact hsettled (fill :: mid) sale later (by rw [heq, List.cons_append])

/-- The turns over all triggered orders. -/
theorem Turning.fillTurns (earlier : List OrderFillResult)
    (h : Turning base i signal symbol d fills) (hsafe : base.Safe i signal (earlier ++ fills))
    (hsymbols : ∀ offer ∈ fills, offer.symbol = symbol) :
    ((fillTurns i d fills).ended = true ∧ (fillTurns i d fills).Limited) ∨
      Turning base i signal symbol (fillTurns i d fills) [] := by
  induction fills generalizing d earlier with
  | nil => exact .inr h
  | cons fill fills ih =>
    have hturn := h.turn hsafe hsymbols
    unfold LoopDesk.fillTurns
    generalize d.paper.system.processFill i fill = outcome at *
    obtain ⟨s, e | filled⟩ := outcome
    · exact .inl ⟨rfl, hturn.limited⟩
    · refine ih (earlier ++ [fill]) hturn ?_ fun offer hmem =>
        hsymbols offer (List.mem_cons_of_mem _ hmem)
      rwa [List.append_assoc, List.singleton_append]

/-! ### Candles -/

/-- A dispatched signal keeps the purchases within the limits that are known. -/
theorem Limited.dispatchSignal {args : ExecuteArgs} (h : d.Limited)
    (hrisk : d.paper.system.risk = base.paper.system.risk)
    (hday : d.dayStartEquity = base.dayStartEquity)
    (hknown : d.ended = false → args.signal = .buy →
      d.portfolio.hasPosition (d.paper.system.engines i).symbol = false →
        base.Known d.portfolio) :
    (d.dispatchSignal i args).Limited := by
  unfold LoopDesk.dispatchSignal
  split
  · exact h
  · next hrunning =>
    rw [Bool.not_eq_true] at hrunning
    have hafter : (d.advance (d.paper.execute i args).1).Limited := by
      refine h.advance fun hentry => ?_
      obtain ⟨hallowed, marketPrice, plan, hplan⟩ := PaperSystem.execute_entry hentry
      obtain ⟨hbuy, -, -, -, hnone, -⟩ := ExecutionEngine.decideExecute_eq_enter hplan
      rw [hrisk] at hallowed
      have hwithin := (hknown hrunning hbuy hnone).withinLimits hallowed
      rwa [← hday] at hwithin
    generalize d.paper.execute i args = outcome at *
    obtain ⟨paper, e | filled⟩ := outcome
    · exact hafter
    · exact hafter

/-- At the end of a candle the drawdown of the portfolio is pushed. -/
theorem Limited.closeCandle (h : d.Limited) (sqrt : Double → Double) (candle : MarketCandle) :
    (d.closeCandle sqrt candle).Pushed := by
  unfold LoopDesk.closeCandle
  split
  · next hended => exact ⟨h, fun hrunning => absurd (hended.symm.trans hrunning) (by decide)⟩
  · split
    · exact ⟨h, fun hrunning => by cases hrunning⟩
    · refine ⟨h, fun _ => ?_⟩
      change (RiskMonitor.pushEquityReturn sqrt _ _).totalDrawdown = _
      rw [RiskMonitor.totalDrawdown_pushEquityReturn, RiskMonitor.totalDrawdown_pushAssetReturn]
      rfl

/-- Before the first turn the risk engine knows the limits that are reached where they are
asked for. -/
theorem turning_opened {candle : MarketCandle} (symbol : String) (h : d.Pushed)
    (hrunning : d.ended = false) (hsafe : (d.opened candle).Safe i signal fills) :
    Turning (d.opened candle) i signal symbol (d.opened candle) fills := by
  have hopened : (d.opened candle).Limited ∧ (d.opened candle).paper.system.risk.totalDrawdown =
      (d.opened candle).portfolio.getCurrentDrawdown := by
    unfold opened beginDay
    split <;> exact ⟨h.limited, h.total hrunning⟩
  refine ⟨hopened.1, rfl, rfl, .refl _, fun hoffers hnone => ⟨fun hreached => ?_, ?_⟩, .inl rfl⟩
  · rwa [hopened.2]
  · exact hsafe.daily symbol hoffers hnone

/-- A safe candle keeps the purchases within the limits. -/
theorem Pushed.next {sqrt : Double → Double} (h : d.Pushed) {input : Input n}
    (hinput : d.InputSafe input) : ((eventLoops sqrt).next d input).Pushed := by
  cases input with
  | processCandle i candle decision =>
    change (d.processCandle sqrt i candle decision).Pushed
    unfold processCandle
    split
    · exact h
    · next hrunning =>
      rw [Bool.not_eq_true] at hrunning
      have hsafe := hinput hrunning
      have hdispatched :
          ((d.filled i candle).dispatchSignal i (decision.args candle)).Limited := by
        -- With no triggered orders the signal is alone, otherwise the orders are in its symbol.
        rcases hfills : (d.paper.system.triggered candle).2 with _ | ⟨fill, fills⟩
        · rw [hfills] at hsafe
          have hbegin := turning_opened ((d.opened candle).paper.system.engines i).symbol h
            hrunning hsafe
          unfold LoopDesk.filled
          rw [hfills]
          refine hbegin.limited.dispatchSignal rfl rfl fun _ hbuy hnone => ?_
          exact hbegin.ready (.inl ⟨hbuy, rfl⟩) hnone
        · rw [hfills] at hsafe
          have hbegin := turning_opened candle.symbol h hrunning hsafe
          have hsymbols : ∀ offer ∈ fill :: fills, offer.symbol = candle.symbol := by
            rw [← hfills]
            exact fun offer => symbol_of_mem_triggered
          unfold LoopDesk.filled
          rw [hfills]
          rcases hbegin.fillTurns [] hsafe hsymbols with ⟨hended, hlimited⟩ | hturned
          · unfold LoopDesk.dispatchSignal
            rw [if_pos hended]
            exact hlimited
          · refine hturned.limited.dispatchSignal hturned.risk hturned.dayStart
              fun _ hbuy hnone => ?_
            have hown := hsafe.own hbuy fill List.mem_cons_self
            rw [hsymbols fill List.mem_cons_self] at hown
            obtain ⟨_, _, _, hengine⟩ := hturned.engine
            rw [hengine] at hnone
            exact hturned.ready (.inl ⟨hbuy, hown⟩) (hown ▸ hnone)
      exact hdispatched.closeCandle sqrt candle
  | placePendingOrder order =>
    obtain ⟨hlimited, htotal⟩ := h
    refine ⟨hlimited, fun hrunning => (htotal hrunning).trans ?_⟩
    change d.paper.system.portfolio.getCurrentDrawdown =
      (d.paper.system.portfolio.placePendingOrder order).1.getCurrentDrawdown
    unfold PortfolioManager.placePendingOrder
    split
    · rfl
    · split <;> rfl

/-- **Drawdown limits at the moment of a purchase.** In a run of event loops whose candles are
safe, every purchase is filled within the limits. -/
theorem limited_run (sqrt : Double → Double) {paper : PaperSystem n} {windows : RiskMonitor}
    (hpushed : paper.system.risk.totalDrawdown = paper.system.portfolio.getCurrentDrawdown)
    {inputs : List (Input n)}
    (hsafe : (eventLoops sqrt).Along InputSafe (start paper windows) inputs) :
    ((eventLoops sqrt).run (start paper windows) inputs).Limited := by
  have hstart : (start paper windows).Pushed :=
    ⟨fun moment hmem => (by cases hmem), fun _ => hpushed⟩
  have hrun : ((eventLoops sqrt).run (start paper windows) inputs).Pushed :=
    Machine.invariant_run_of_along (fun d input h hsafe => h.next hsafe) hstart hsafe
  exact hrun.limited

/-- One loop over an engine of `main` that books its own fills. -/
def oneLoop : PaperSystem 1 where
  system := {
    portfolio := .fresh
    risk := {}
    gateway := { config := {}, adapter := .deterministic }
    engines := fun _ => ExecutionEngine.main "A"
    executionObservers := []
    reportsRejections := false
    analytics := {}
    clock := id }
  adapter := {}

/-- A purchase by a signal, and a candle in which a stop sells at a small loss before a resting
order buys again. -/
def stopAndReturn : List (Input 1) := [
  .processCandle 0 ⟨"A", 60, .finite 101, .finite 99, .finite 100⟩ { signal := .buy },
  .placePendingOrder {
    symbol := "A"
    orderType := .stopLoss
    isBuy := false
    limitPrice := .finite 99 },
  .placePendingOrder {
    symbol := "A"
    orderType := .market
    capitalToCommit := .finite 1000 },
  .processCandle 0 ⟨"A", 120, .finite 100, .finite 99, .finite 99⟩ {}]

/-- The stop when it is triggered. -/
def stopTriggered : OrderFillResult where
  orderId := 1
  filled := true
  symbol := "A"
  orderType := .stopLoss
  isBuy := false
  fillPrice := .finite 99
  quantity := 0
  capitalToCommit := 0
  fillTimestamp := 120

/-- The order to buy when it is triggered. -/
def returnTriggered : OrderFillResult where
  orderId := 2
  filled := true
  symbol := "A"
  orderType := .market
  isBuy := true
  fillPrice := .finite 99
  quantity := 0
  capitalToCommit := .finite 1000
  fillTimestamp := 120

/-- Both purchases of the run are within the limits. -/
theorem limited_run_stopAndReturn :
    ((eventLoops id).run (start oneLoop {}) stopAndReturn).purchases.length = 2 ∧
      ((eventLoops id).run (start oneLoop {}) stopAndReturn).Limited := by
  refine ⟨by decide +kernel, limited_run id rfl ⟨fun _ => ?_, trivial, trivial, fun _ => ?_,
    trivial⟩⟩
  · have hnone (earlier : List OrderFillResult) (sale : OrderFillResult)
        (later : List OrderFillResult) : ¬[] = earlier ++ sale :: later := by simp
    refine ⟨fun _ fill hmem => (by cases hmem), fun _ _ _ hreached => ?_,
      fun earlier sale later heq => absurd heq (hnone earlier sale later),
      fun earlier sale later heq => absurd heq (hnone earlier sale later)⟩
    revert hreached
    decide +kernel
  · let before := (eventLoops id).run (start oneLoop {}) (stopAndReturn.take 3)
    let candle : MarketCandle := ⟨"A", 120, .finite 100, .finite 99, .finite 99⟩
    let d := before.opened candle
    have hcandle : (before.paper.system.triggered candle).2 = [stopTriggered, returnTriggered] ∧
        d.portfolio.hasPosition "A" = true ∧
        ((d.paper.system.engines 0).sellPending d.portfolio stopTriggered).all (fun sold =>
          !decide (maxTotalDrawdown ≤ sold.getCurrentDrawdown) &&
            !decide (maxDailyDrawdown ≤
              (PurchaseMoment.mk d.dayStartEquity sold).dailyDrawdown)) = true := by
      decide +kernel
    obtain ⟨hfills, hheld, hknown⟩ := hcandle
    refine Eq.mpr (congrArg (d.Safe 0 .none) hfills) ?_
    refine ⟨fun hbuy => (by cases hbuy), fun symbol hoffers hnone => ?_, ?_, ?_⟩
    · obtain ⟨hbuy, -⟩ | ⟨offer, hmem, -, rfl⟩ := hoffers
      · cases hbuy
      · have hsymbol : offer.symbol = "A" := by
          rcases List.mem_pair.mp hmem with rfl | rfl <;> rfl
        rw [hsymbol, hheld] at hnone
        cases hnone
    · intro earlier sale later heq hsale _ _
      -- the sale is the first of the two
      rcases earlier with _ | ⟨first, _ | ⟨second, rest⟩⟩
      · obtain ⟨rfl, -⟩ := List.cons.inj heq
        refine ⟨fun fill hmem => (by cases hmem), fun sold hsold => ?_⟩
        rw [hsold, Option.all_some, Bool.and_eq_true, Bool.not_eq_true', Bool.not_eq_true',
          decide_eq_false_iff_not, decide_eq_false_iff_not] at hknown
        exact ⟨fun hreached => absurd hreached hknown.1, fun hreached => absurd hreached hknown.2⟩
      · obtain ⟨-, hsecond⟩ := List.cons.inj heq
        rw [← (List.cons.inj hsecond).1] at hsale
        cases hsale
      · simp at heq
    · intro earlier sale later heq _ _ hnone
      have hsymbol : sale.symbol = "A" := by
        have hmem : sale ∈ [stopTriggered, returnTriggered] := by
          rw [heq]
          exact List.mem_append_right _ List.mem_cons_self
        rcases List.mem_pair.mp hmem with rfl | rfl <;> rfl
      rw [hsymbol, hheld] at hnone
      cases hnone

/-- Half of the 100,000 of a new portfolio is invested at 100. In the next candle a stop sells at
50, and a purchase follows. -/
def stopThenBuy : List (Input 1) := [
  .placePendingOrder {
    symbol := "A"
    orderType := .market
    capitalToCommit := .finite 50000 },
  .processCandle 0 ⟨"A", 60, .finite 101, .finite 99, .finite 100⟩ {},
  .placePendingOrder {
    symbol := "A"
    orderType := .stopLoss
    isBuy := false
    limitPrice := .finite 90 },
  .placePendingOrder {
    symbol := "A"
    orderType := .market
    capitalToCommit := .finite 1000 },
  .processCandle 0 ⟨"A", 120, .finite 100, .finite 50, .finite 50⟩ {}]

/-- The second purchase is filled a quarter below the largest equity. -/
theorem not_limited_stopThenBuy :
    ¬∀ (n : ℕ) (sqrt : Double → Double) (paper : PaperSystem n) (windows : RiskMonitor)
      (inputs : List (Input n)),
      paper.system.risk.totalDrawdown = paper.system.portfolio.getCurrentDrawdown →
        ((eventLoops sqrt).run (start paper windows) inputs).Limited := by
  intro h
  have hlimited := h 1 id oneLoop {} stopThenBuy rfl
  have hlast : (((eventLoops id).run (start oneLoop {}) stopThenBuy).purchases.getLast?.map
      fun moment => decide (maxTotalDrawdown ≤ moment.portfolio.getCurrentDrawdown)) =
        some true := by
    decide +kernel
  obtain ⟨moment, hmoment, hreached⟩ := Option.map_eq_some_iff.mp hlast
  exact (hlimited moment (List.mem_of_getLast? hmoment)).total (of_decide_eq_true hreached)

end LoopDesk

end TradeBot
