import TradeBot.PortfolioQueue
import TradeBot.Trading.LocalFills
import TradeBot.Library.Machine

/-!
# Resting orders that a candle triggers

The queue gives up every order that a candle triggers before the engine tries to fill one of
them. An order that cannot be filled at its turn is therefore lost, and when the portfolio
throws so are the orders after it.
-/

namespace TradeBot

open Library Financial

namespace PortfolioManager

/-- Every order of the queue is triggered or stays. -/
theorem evaluateQueue_perm (symbol : String) (high low close : Double) (timestamp : ℕ)
    (orders : List OrderRecord) :
    (orders.map (·.orderId)).Perm
      ((evaluateQueue symbol high low close timestamp orders).2.map (·.orderId) ++
        (evaluateQueue symbol high low close timestamp orders).1.map (·.orderId)) :=
  (splits_evaluateQueue symbol high low close timestamp orders).perm
    (fun _ _ hkept => hkept.orderId_eq) fun _ _ hfilled => hfilled.orderId_eq

/-- The evaluation of the queue reports orders that are filled. -/
theorem filled_of_mem_evaluateQueue {symbol : String} {high low close : Double} {timestamp : ℕ}
    {orders : List OrderRecord} {fill : OrderFillResult}
    (h : fill ∈ (evaluateQueue symbol high low close timestamp orders).2) : fill.filled = true := by
  obtain ⟨order, -, -, normalizedFill, -, rfl⟩ :=
    (splits_evaluateQueue symbol high low close timestamp orders).mem_taken h
  rfl

end PortfolioManager

namespace System

variable {n : ℕ}

/-- A triggered order can be filled in a state: a BUY needs the consent of the risk engine, no
open position, an affordable size and a portfolio that accepts the purchase; any other order
needs a position, a price for it and a portfolio that accepts the sale. -/
def Executable (i : Fin n) (s : System n) (fill : OrderFillResult) : Prop :=
  ∃ fillPrice, (price fill.fillPrice).filter (·.isPositive) = some fillPrice ∧
    if fill.isBuy then
      s.risk.canTrade s.portfolio = true ∧ s.portfolio.hasPosition fill.symbol = false ∧
        ∃ plan t, (s.engines i).planPendingEntry s.portfolio fill fillPrice = some plan ∧
          s.enterPending i fill plan = .ok t
    else
      s.portfolio.hasPosition fill.symbol = true ∧
        ∃ plan t, (s.engines i).planExit s.portfolio fill.symbol fillPrice = some plan ∧
          s.exitPending i fill plan = .ok t

/-- A turn of the loop fills its order exactly when the order can be filled. -/
theorem processFill_iff {s : System n} {i : Fin n} {fill : OrderFillResult}
    (hfilled : fill.filled = true) :
    (s.processFill i fill).2 = .ok true ↔ s.Executable i fill := by
  unfold Executable
  constructor
  · intro h
    unfold processFill at h
    split at h
    · cases h
    · cases h
    · next plan hdecision =>
      obtain ⟨hbuy, hallowed, hposition, fillPrice, hprice, hplan⟩ :=
        ExecutionEngine.decidePending_eq_enter hdecision
      split at h
      · cases h
      · next t henter =>
        refine ⟨fillPrice, hprice, ?_⟩
        rw [if_pos hbuy]
        exact ⟨hallowed, hposition, plan, t, hplan, henter⟩
    · next plan hdecision =>
      obtain ⟨hbuy, hposition, fillPrice, hprice, hplan⟩ :=
        ExecutionEngine.decidePending_eq_exit hdecision
      split at h
      · cases h
      · next t hexit =>
        refine ⟨fillPrice, hprice, ?_⟩
        rw [if_neg (by rw [hbuy]; decide)]
        exact ⟨hposition, plan, t, hplan, hexit⟩
  · rintro ⟨fillPrice, hprice, h⟩
    unfold processFill ExecutionEngine.decidePending
    by_cases hbuy : fill.isBuy = true
    · rw [if_pos hbuy] at h
      obtain ⟨hallowed, hposition, plan, t, hplan, henter⟩ := h
      simp [hfilled, hprice, hbuy, hallowed, hposition, hplan, henter]
    · rw [if_neg hbuy] at h
      obtain ⟨hposition, plan, t, hplan, hexit⟩ := h
      simp [hfilled, hprice, hbuy, hposition, hplan, hexit]

/-- The loop of `processPendingOrders` as a machine, an order for each turn. -/
def filling (i : Fin n) : Machine (System n) OrderFillResult (Except StdException Bool) where
  step s fill := s.processFill i fill

/-- The triggered orders that the loop fills. -/
def executedFills (i : Fin n) : System n → List OrderFillResult → List OrderFillResult
  | _, [] => []
  | s, fill :: fills =>
    match s.processFill i fill with
    | (t, .ok true) => fill :: executedFills i t fills
    | (t, .ok false) => executedFills i t fills
    | (_, .error _) => []

/-- The executed fills are among the fills, in their order. -/
theorem executedFills_sublist (i : Fin n) (s : System n) (fills : List OrderFillResult) :
    (executedFills i s fills).Sublist fills := by
  induction fills generalizing s with
  | nil => exact List.Sublist.slnil
  | cons fill fills ih =>
    unfold executedFills
    split
    · exact (ih _).cons_cons fill
    · exact (ih _).cons fill
    · exact List.nil_sublist _

/-- The loop fills all its orders exactly when each of them can be filled at its turn. -/
theorem executedFills_eq_iff {i : Fin n} {s : System n} {fills : List OrderFillResult}
    (hfilled : ∀ fill ∈ fills, fill.filled = true) :
    executedFills i s fills = fills ↔ (filling i).Along (fun t fill => t.Executable i fill) s
      fills := by
  induction fills generalizing s with
  | nil => exact iff_of_true rfl trivial
  | cons fill fills ih =>
    rw [List.forall_mem_cons] at hfilled
    rw [Machine.along_cons, ← processFill_iff hfilled.1]
    have hnext : (filling i).next s fill = (s.processFill i fill).1 := rfl
    unfold executedFills
    split
    · next t hturn =>
      rw [hnext, hturn, List.cons_inj_right, ih hfilled.2]
      exact (and_iff_right rfl).symm
    · next t hturn =>
      rw [hturn]
      refine iff_of_false (fun heq => ?_) (fun h => by cases h.1)
      have hshort := (executedFills_sublist i t fills).length_le
      rw [heq, List.length_cons] at hshort
      omega
    · next t e hturn =>
      rw [hturn]
      exact iff_of_false (fun heq => by cases heq) (fun h => by cases h.1)

/-- Booking the fills does not touch the queue. -/
theorem pendingOrders_processFills (i : Fin n) (s : System n) (fills : List OrderFillResult)
    (filledCount : ℕ) :
    (processFills i s fills filledCount).1.portfolio.pendingOrders =
      s.portfolio.pendingOrders := by
  induction fills generalizing s filledCount with
  | nil => rfl
  | cons fill fills ih =>
    have hturn := (s.processFill_booked i fill).2.pendingOrders
    rw [processFills_cons]
    split
    · next t heq =>
      rw [heq] at hturn
      exact (ih t (filledCount + 1)).trans hturn
    · next t heq =>
      rw [heq] at hturn
      exact (ih t filledCount).trans hturn
    · next t e heq =>
      rw [heq] at hturn
      exact hturn

/-- Each order that the loop fills is one trade of the portfolio, and nothing else is. -/
theorem tradeCount_processFills (i : Fin n) (s : System n) (fills : List OrderFillResult)
    (filledCount : ℕ) :
    (processFills i s fills filledCount).1.portfolio.tradeCount =
      s.portfolio.tradeCount + (executedFills i s fills).length := by
  induction fills generalizing s filledCount with
  | nil => exact (add_zero _).symm
  | cons fill fills ih =>
    have hbooked := (s.processFill_booked i fill).2
    rw [processFills_cons]
    rcases hturn : s.processFill i fill with ⟨t, e | filled⟩
    · rw [hturn] at hbooked
      simp only [executedFills, hturn, List.length_nil]
      rw [hbooked.portfolio_eq (by simp)]
      exact (add_zero _).symm
    · rw [hturn] at hbooked
      cases filled with
      | false =>
        simp only [executedFills, hturn]
        rw [ih t filledCount, hbooked.portfolio_eq (by simp)]
      | true =>
        simp only [executedFills, hturn, List.length_cons]
        rw [ih t (filledCount + 1), hbooked.tradeCount]
        push_cast
        ring

/-- The resting orders are those that a candle fills, once each, and those that still rest
after it. -/
def Conserves (s : System n) (i : Fin n) (candle : MarketCandle) : Prop :=
  (s.portfolio.pendingOrders.map (·.orderId)).Perm
    ((executedFills i (s.triggered candle).1 (s.triggered candle).2).map (·.orderId) ++
      (s.processPendingOrders i candle).1.portfolio.pendingOrders.map (·.orderId))

/-- **No resting order is lost** exactly when every order that the candle triggers can be
filled at its turn. -/
theorem conserves_iff (s : System n) (i : Fin n) (candle : MarketCandle) :
    s.Conserves i candle ↔ (filling i).Along (fun t fill => t.Executable i fill)
      (s.triggered candle).1 (s.triggered candle).2 := by
  have hfilled : ∀ fill ∈ (s.triggered candle).2, fill.filled = true :=
    fun fill hfill => PortfolioManager.filled_of_mem_evaluateQueue hfill
  rw [← executedFills_eq_iff hfilled]
  have hqueue : (s.portfolio.pendingOrders.map (·.orderId)).Perm
      ((s.triggered candle).2.map (·.orderId) ++
        (s.processPendingOrders i candle).1.portfolio.pendingOrders.map (·.orderId)) := by
    have hrest := pendingOrders_processFills i (s.triggered candle).1 (s.triggered candle).2 0
    change (s.processPendingOrders i candle).1.portfolio.pendingOrders = _ at hrest
    rw [hrest]
    exact PortfolioManager.evaluateQueue_perm candle.symbol candle.high candle.low candle.close
      candle.epochTimestamp s.portfolio.pendingOrders
  constructor
  · intro hconserves
    have hperm := List.perm_append_right_iff _ |>.mp (hconserves.symm.trans hqueue)
    have hlength := hperm.length_eq
    rw [List.length_map, List.length_map] at hlength
    exact (executedFills_sublist i _ _).eq_of_length hlength
  · intro hall
    unfold Conserves
    rw [hall]
    exact hqueue

/-- One engine of `main` without a gateway, and a limit order to buy that rests in the queue of
a fresh portfolio. -/
def withLimitOrder (halted : Bool) : System 1 where
  portfolio := (PortfolioManager.fresh.placePendingOrder {
    symbol := "A"
    limitPrice := .finite 100
    capitalToCommit := .finite 1000 }).1
  risk := RiskEngine.setHaltTrading {} halted
  gateway := { config := {}, adapter := .deterministic }
  engines := fun _ => ExecutionEngine.main "A"
  executionObservers := []
  reportsRejections := false
  analytics := {}
  clock := id

/-- The order is triggered while trading is halted: it is neither filled nor kept. -/
theorem not_conserves_halted :
    ¬∀ (n : ℕ) (s : System n) (i : Fin n) (candle : MarketCandle),
      (s.engines i).bound = false → s.Conserves i candle := by
  intro h
  have hconserves := h 1 (withLimitOrder true) 0
    ⟨"A", 60, .finite 110, .finite 90, .finite 100⟩ rfl
  revert hconserves
  unfold Conserves
  decide +kernel

/-- With trading allowed the same order is filled. -/
example : ((withLimitOrder false).processPendingOrders 0
    ⟨"A", 60, .finite 110, .finite 90, .finite 100⟩).1.portfolio.getOpenPositionCount = 1 := by
  decide +kernel

end System

end TradeBot
