import TradeBot.EventLoop
import TradeBot.Trading.LocalFills
import TradeBot.Trading.Steps

/-!
# Engines that report their sales

A session whose analytics report every sale to an attached allocator. Beside the session it
is written down what the allocator was told, and under which strategy every position was
opened whose sale the trade log records.
-/

namespace TradeBot

open Library

/-- The strategy and the profit of a recorded sale. -/
def TradeLogEntry.sale (entry : TradeLogEntry) : Option (String × Double) :=
  if entry.side = 'S' then some (entry.strategyId, entry.realizedPnL) else none

/-- The calls of `onTradeClosed` that `recordTrade` makes for a list of trades. -/
def AnalyticsEngine.reports (trades : List TradeLogEntry) : List (String × Double) :=
  (trades.filterMap TradeLogEntry.sale).filter fun sale => sale.1 ≠ ""

/-- The strategy under which a portfolio holds a symbol. -/
def PortfolioManager.heldUnder (portfolio : PortfolioManager) (symbol : String) : String :=
  (portfolio.positions.lookup symbol).elim "" PositionState.strategyId

/-- A session and its allocator, with what is written down about them. -/
structure ReportingDesk (n : ℕ) where
  session : Session n
  allocator : PortfolioAllocator
  reported : List (String × Double) := []
  openedUnder : String → String
  closings : List (String × Double) := []

namespace ReportingDesk

variable {n : ℕ}

/-- A session to which an allocator is attached. -/
def start (session : Session n) (allocator : PortfolioAllocator) : ReportingDesk n where
  session := session
  allocator := allocator
  openedUnder := session.system.portfolio.heldUnder

/-- The system has moved. The allocator is told about the new trades, a position that is new
was opened under the strategy that it has, and every new trade record closes what was held. -/
def observe (d : ReportingDesk n) (t : System n) : ReportingDesk n where
  session := { d.session with system := t }
  allocator :=
    (t.analytics.trades.drop d.session.system.analytics.trades.length).foldl
      PortfolioAllocator.onTrade d.allocator
  reported := d.reported ++ AnalyticsEngine.reports
    (t.analytics.trades.drop d.session.system.analytics.trades.length)
  openedUnder symbol :=
    if symbol ∈ d.session.system.portfolio.positions then d.openedUnder symbol
    else t.portfolio.heldUnder symbol
  closings := d.closings ++
    (t.portfolio.tradeLog.drop d.session.system.portfolio.tradeLog.length).map fun record =>
      (d.openedUnder record.symbol, record.realizedPnL)

/-- The turns of `processPendingOrders`, each observed. -/
def fillTurns (i : Fin n) : ReportingDesk n → List OrderFillResult → ReportingDesk n
  | d, [] => d
  | d, fill :: fills =>
    match d.session.system.processFill i fill with
    | (t, .error _) => d.observe t
    | (t, .ok _) => fillTurns i (d.observe t) fills

/-- Sessions that report, under the inputs of sessions. -/
def reporting : Machine (ReportingDesk n) (Session.Input n) Session.Reply where
  step d input :=
    let (session, reply) := Session.session.step d.session input
    match d.session.pendingCandle input with
    | some (i, candle) =>
      let (t, fills) := d.session.system.triggered candle
      (fillTurns i (d.observe t) fills, reply)
    | none => ({ d.observe session.system with session := session }, reply)

/-- The turns of the fills do to the system what the loop of the source does. -/
theorem fillTurns_system (i : Fin n) (d : ReportingDesk n) (fills : List OrderFillResult)
    (filledCount : ℕ) :
    (fillTurns i d fills).session = { d.session with
      system := (System.processFills i d.session.system fills filledCount).1 } := by
  induction fills generalizing d filledCount with
  | nil => rfl
  | cons fill fills ih =>
    rw [System.processFills_cons]
    unfold fillTurns
    rcases d.session.system.processFill i fill with ⟨t, e | filled⟩
    · rfl
    · cases filled with
      | false => exact ih (d.observe t) filledCount
      | true => exact ih (d.observe t) (filledCount + 1)

/-- What is written down changes nothing of the session. -/
theorem session_run (d : ReportingDesk n) (inputs : List (Session.Input n)) :
    (reporting.run d inputs).session = Session.session.run d.session inputs := by
  have hnext (d : ReportingDesk n) (input : Session.Input n) :
      (reporting.next d input).session = Session.session.next d.session input := by
    cases hpending : d.session.pendingCandle input with
    | none =>
      change (reporting.step d input).1.session = _
      simp only [reporting, hpending]
      rfl
    | some call =>
      obtain ⟨i, candle⟩ := call
      change (reporting.step d input).1.session = _
      simp only [reporting, hpending]
      rw [fillTurns_system i _ _ 0]
      obtain ⟨⟨s, control⟩, allocator, reported, openedUnder, closings⟩ := d
      cases input with
      | processPendingOrders j other =>
        cases control with
        | idle =>
          cases hpending
          rfl
        | _ => cases hpending
      | _ => cases hpending
  induction inputs generalizing d with
  | nil => rfl
  | cons input inputs ih =>
    rw [Machine.run_cons, Machine.run_cons, ih, hnext]

end ReportingDesk

end TradeBot
