import TradeBot.PaperSystem
import TradeBot.RiskMonitor
import TradeBot.Trading.LocalFills

/-!
# Event loops that share a portfolio and a risk engine

`EventLoop::processCandle` for any number of loops. What the strategies of a loop and their
allocator make of a candle is part of the input, so that any strategies can be meant. An
engine books its own fills or sends its orders to the paper adapter. Every purchase is
written down with the state of the portfolio at its moment, and with the equity at the start
of the day of its candle.
-/

namespace TradeBot

open Library Financial

namespace PortfolioManager

/-- The fills that the portfolio has counted and that closed nothing. -/
def entryCount (pm : PortfolioManager) : ℤ := pm.tradeCount - pm.tradeLog.length

end PortfolioManager

/-- The moment at which a purchase is filled. -/
structure PurchaseMoment where
  dayStartEquity : Money
  portfolio : PortfolioManager

/-- The loss of the day, as a fraction of the equity at its start. -/
def PurchaseMoment.dailyDrawdown (moment : PurchaseMoment) : Double :=
  if moment.dayStartEquity.isPositive then
    (moment.dayStartEquity.toDouble - moment.portfolio.totalEquity.toDouble) /
      moment.dayStartEquity.toDouble
  else 0

/-- The engines and the shared objects, the windows of the risk engine, and the purchases so
far. The part of the risk engine that execution reads is the one in the system. An exception
ends the run. -/
structure LoopDesk (n : ℕ) where
  paper : PaperSystem n
  windows : RiskMonitor
  day : Option ℕ := none
  dayStartEquity : Money := 0
  purchases : List PurchaseMoment := []
  ended : Bool := false

namespace LoopDesk

variable {n : ℕ}

/-- Newly made event loops. -/
def start (paper : PaperSystem n) (windows : RiskMonitor) : LoopDesk n where
  paper := paper
  windows := windows

variable (d : LoopDesk n)

/-- The shared portfolio. -/
def portfolio : PortfolioManager := d.paper.system.portfolio

/-- The moment of a purchase that is filled now. -/
def moment : PurchaseMoment := ⟨d.dayStartEquity, d.portfolio⟩

/-- A candle of another UTC day than the last one begins a day. -/
def beginDay (timestamp : ℕ) : LoopDesk n :=
  if d.day = some (timestamp / 86400) then d
  else { d with
    day := some (timestamp / 86400)
    dayStartEquity := d.portfolio.totalEquity }

/-- The system has moved. A purchase is written down with the moment before it. -/
def advance (paper : PaperSystem n) : LoopDesk n :=
  { d with
    paper := paper
    purchases :=
      if d.portfolio.entryCount < paper.system.portfolio.entryCount then
        d.purchases ++ [d.moment]
      else d.purchases }

/-- The candle has triggered the resting orders of its symbol. -/
def trigger (candle : MarketCandle) : LoopDesk n :=
  { d with paper := { d.paper with system := (d.paper.system.triggered candle).1 } }

/-- The turns of `processPendingOrders`. -/
def fillTurns (i : Fin n) : LoopDesk n → List OrderFillResult → LoopDesk n
  | d, [] => d
  | d, fill :: fills =>
    match d.paper.system.processFill i fill with
    | (s, .error _) => { d.advance { d.paper with system := s } with ended := true }
    | (s, .ok _) => fillTurns i (d.advance { d.paper with system := s }) fills

/-- `dispatchSignal` -/
def dispatchSignal (i : Fin n) (args : ExecuteArgs) : LoopDesk n :=
  if d.ended then d
  else
    match d.paper.execute i args with
    | (paper, .error _) => { d.advance paper with ended := true }
    | (paper, .ok _) => d.advance paper

/-- The updates of the portfolio and of the risk engine at the end of a candle. -/
def closeCandle (sqrt : Double → Double) (candle : MarketCandle) : LoopDesk n :=
  if d.ended then d
  else
    match d.portfolio.updatePnL candle.symbol candle.close with
    | .error _ => { d with ended := true }
    | .ok portfolio =>
      let risk := d.windows.withEngine
        (d.paper.system.risk.setTotalDrawdown portfolio.getCurrentDrawdown)
      let risk := risk.pushAssetReturn sqrt portfolio.getTotalEquity candle.symbol candle.close
        (portfolio.getPositionQuantity candle.symbol * candle.close)
      let risk := risk.pushEquityReturn sqrt portfolio.getTotalEquity
      { d with
        paper := { d.paper with system := { d.paper.system with
          portfolio := portfolio
          risk := risk.toRiskEngine } }
        windows := risk }

/-- The signal that a loop dispatches for a candle: the decision of the allocator on what the
strategies have said, and the reading of the average true range. -/
structure Decision where
  signal : Signal := .none
  strategyId : String := "ENSEMBLE"
  atr : Option Double := none
  routeLatencyMs : ℚ := 0

/-- The `execute` call for a candle. -/
def Decision.args (decision : Decision) (candle : MarketCandle) : ExecuteArgs where
  signal := decision.signal
  marketPrice := candle.close
  timestamp := candle.epochTimestamp
  strategyId := decision.strategyId
  atr := decision.atr
  routeLatencyMs := decision.routeLatencyMs

/-- The state in which a loop begins with the triggered orders of a candle. -/
def opened (candle : MarketCandle) : LoopDesk n :=
  (d.beginDay candle.epochTimestamp).trigger candle

/-- The state in which a loop dispatches its signal. -/
def filled (i : Fin n) (candle : MarketCandle) : LoopDesk n :=
  fillTurns i (d.opened candle) (d.paper.system.triggered candle).2

/-- `processCandle` of the loop of an engine. -/
def processCandle (sqrt : Double → Double) (i : Fin n) (candle : MarketCandle)
    (decision : Decision) : LoopDesk n :=
  if d.ended then d
  else ((d.filled i candle).dispatchSignal i (decision.args candle)).closeCandle sqrt candle

/-- What can happen next: a loop is given a candle, or an order is placed to rest. -/
inductive Input (n : ℕ) where
  | processCandle (i : Fin n) (candle : MarketCandle) (decision : Decision)
  | placePendingOrder (order : OrderRecord)

/-- Event loops as a machine. -/
def eventLoops (sqrt : Double → Double) : Machine (LoopDesk n) (Input n) Unit where
  step d
    | .processCandle i candle decision => (d.processCandle sqrt i candle decision, ())
    | .placePendingOrder order =>
      ({ d with paper := { d.paper with system := (d.paper.system.placePendingOrder order).1 } },
        ())

end LoopDesk

end TradeBot
