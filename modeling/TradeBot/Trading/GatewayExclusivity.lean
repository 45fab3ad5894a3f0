import TradeBot.Trading.Steps

/-!
# The gateway as the only way to a fill

With every engine bound, cash and positions change only through executions that the
order store applied, as long as no resting order of the portfolio is filled: the
resting orders are the one path that fills locally past the gateway.
-/

namespace TradeBot

open Library

/-- The decisions that fill a resting order. -/
def PendingDecision.fills : PendingDecision → Bool
  | .enter _ | .exit _ => true
  | .skip | .block => false

namespace System

variable {n : ℕ} (s : System n)

/-- A candle triggers no resting order that the engine decides to fill. -/
def FillsNoRestingOrder (i : Fin n) (candle : MarketCandle) : Prop :=
  let evaluated := s.portfolio.evaluatePendingOrders candle.symbol candle.high candle.low
    candle.close candle.epochTimestamp
  ∀ fill ∈ evaluated.2, ((s.engines i).decidePending evaluated.1 s.risk fill).fills = false

instance (i : Fin n) (candle : MarketCandle) : Decidable (s.FillsNoRestingOrder i candle) :=
  inferInstanceAs (Decidable (∀ fill ∈ _, _ = false))

/-- Orders that are not filled leave the portfolio alone. -/
theorem processFills_portfolio {i : Fin n} {fills : List OrderFillResult} {filledCount : ℕ}
    (h : ∀ fill ∈ fills,
      ((s.engines i).decidePending s.portfolio s.risk fill).fills = false) :
    (processFills i s fills filledCount).1.portfolio = s.portfolio := by
  induction fills generalizing s with
  | nil => rfl
  | cons fill fills ih =>
    have hfill := h fill List.mem_cons_self
    have hfills (other : OrderFillResult) (hother : other ∈ fills) :=
      h other (List.mem_cons_of_mem fill hother)
    unfold processFills
    split
    · exact ih s hfills
    · refine ih (s.block i) fun other hother => ?_
      rw [← hfills other hother]
      simp only [block, setEngine, Function.update_self]
      rfl
    · next heq =>
      rw [heq] at hfill
      cases hfill
    · next heq =>
      rw [heq] at hfill
      cases hfill

end System

namespace Session

variable {n : ℕ} (s : Session n)

/-- The step fills no resting order. -/
def FillsNoRestingOrder (input : Input n) : Prop :=
  ∀ i candle, s.pendingCandle input = some (i, candle) → s.system.FillsNoRestingOrder i candle

instance (input : Input n) : Decidable (s.FillsNoRestingOrder input) :=
  match hcandle : s.pendingCandle input with
  | none => isTrue fun i candle h => by
    rw [hcandle] at h
    cases h
  | some (i, candle) => decidable_of_iff (s.system.FillsNoRestingOrder i candle)
    ⟨fun h j other hother => by
      rw [hcandle] at hother
      cases hother
      exact h, fun h => h i candle hcandle⟩

/-- The step leaves cash and positions alone, or all it does is that the engines handle an
execution which the order store has applied. -/
def FillsThroughGateway (input : Input n) : Prop :=
  let t := (session.next s input).system
  (t.portfolio.cash = s.system.portfolio.cash ∧
      t.portfolio.positions = s.system.portfolio.positions) ∨
    ∃ execution gateway, s.appliedExecution input = some (execution, gateway.lifecycle) ∧
      t = { s.system with gateway := gateway }.notifyExecution execution

/-- An input that marks the portfolio to a price: no call of an engine or the gateway. -/
def Input.isMark : Input n → Bool
  | .markPrice _ _ => true
  | _ => false

variable {s}

/-- Equal accounts are equal cash and equal positions. -/
private theorem holdings_eq {t : System n}
    (h : t.books.accounts = s.system.books.accounts) :
    t.portfolio.cash = s.system.portfolio.cash ∧
      t.portfolio.positions = s.system.portfolio.positions := by
  have hcash : t.books.accounts.cash = s.system.books.accounts.cash := by rw [h]
  have hpositions : t.books.accounts.positions = s.system.books.accounts.positions := by rw [h]
  exact ⟨hcash, hpositions⟩

/-- A step that fills no resting order fills through the gateway only. -/
theorem fillsThroughGateway_step (hbound : ∀ i, (s.system.engines i).bound = true)
    {input : Input n} (hmark : input.isMark = false) (h : s.FillsNoRestingOrder input) :
    s.FillsThroughGateway input := by
  rcases effect hbound input with
    hbooks | ⟨i, hbooks⟩ | ⟨i, _, _, _, -, -, hbooks⟩ | ⟨_, -, hbooks⟩ |
    ⟨execution, gateway, happlied, hnotify⟩ | ⟨symbol, currentPrice, hinput, -⟩ |
    ⟨i, candle, hcandle, hpending⟩
  · exact Or.inl (holdings_eq (by rw [hbooks]))
  · exact Or.inl (holdings_eq (by rw [hbooks, Books.allocate]))
  · exact Or.inl (holdings_eq (by rw [hbooks, Books.withLifecycle, Books.allocate]))
  · exact Or.inl (holdings_eq (by rw [hbooks, Books.withLifecycle]))
  · exact Or.inr ⟨execution, gateway, happlied, hnotify⟩
  · rw [hinput] at hmark
    cases hmark
  · left
    have hportfolio : (s.system.processPendingOrders i candle).1.portfolio =
        (s.system.portfolio.evaluatePendingOrders candle.symbol candle.high candle.low
          candle.close candle.epochTimestamp).1 :=
      System.processFills_portfolio _ (h i candle hcandle)
    rw [hpending, hportfolio]
    exact ⟨rfl, rfl⟩

/-- **Gateway exclusivity.** From any state in which every engine is bound, and over any
calls and broker events that fill no resting order, each step leaves cash and positions
alone or delivers an execution that the order store applies. -/
theorem gateway_exclusive (hbound : ∀ i, (s.system.engines i).bound = true)
    {inputs : List (Input n)} (hmark : ∀ input ∈ inputs, input.isMark = false)
    (hnone : session.Along FillsNoRestingOrder s inputs) :
    session.Along FillsThroughGateway s inputs :=
  Machine.along_of_invariant (I := fun s => ∀ i, (s.system.engines i).bound = true)
    (C := fun s input => input.isMark = false ∧ s.FillsNoRestingOrder input)
    (fun _ input hbound _ i => (wiring_next hbound input i).2.trans (hbound i))
    (fun _ _ hbound h => fillsThroughGateway_step hbound h.1 h.2) hbound
    ((Machine.along_of_forall hmark s).and hnone)

/-- A session of `main` with one engine. -/
def mainBtc : Session 1 := ⟨System.mainPaper fun _ => "BTCUSDT", .idle⟩

/-- A resting order to buy one unit at a price of one hundred. -/
def restingBuy : OrderRecord where
  symbol := "BTCUSDT"
  limitPrice := .finite 100
  quantity := .finite 1

/-- A candle that reaches the price of the resting order. -/
def candleBelow : MarketCandle where
  symbol := "BTCUSDT"
  epochTimestamp := 1
  high := .finite 110
  low := .finite 90
  close := .finite 95

/-- A bound engine fills a resting order locally: the broker never saw it. -/
theorem not_gateway_exclusive_restingBuy :
    ¬session.Along FillsThroughGateway mainBtc
      [.placePendingOrder restingBuy, .processPendingOrders 0 candleBelow] := by
  rintro ⟨-, (⟨hcash, -⟩ | ⟨execution, gateway, happlied, -⟩), -⟩
  · exact absurd hcash (by decide +kernel)
  · cases happlied

/-- A resting order that the candle does not reach, an execution of an unknown order, and a
purchase that the broker accepts and fills. -/
def untouchedAndFilled : List (Input 1) := [
  .placePendingOrder restingBuy,
  .processPendingOrders 0 { candleBelow with low := .finite 105 },
  .deliver (.execution { localOrderId := 1, eventKey := "fill" }),
  .execute 0 { signal := .buy, marketPrice := .finite 100, timestamp := 1 },
  .deliver (.acknowledgement {
    localOrderId := 1, externalOrderId := "broker-1", accepted := true,
    timestampNs := 2, sequence := 4, eventKey := "accepted-1" }),
  .submitReturned true,
  .deliver (.execution {
    localOrderId := 1, externalOrderId := "broker-1", cumulativeFilledQuantity := ⟨20000000000, 8⟩,
    remainingQuantity := ⟨29925087406, 8⟩, fillPrice := ⟨101, 0⟩, timestampNs := 3,
    sequence := 5, eventKey := "fill-1" })]

/-- Exclusivity over a run whose last execution is applied and moves the cash. -/
theorem gateway_exclusive_untouched :
    session.Along FillsThroughGateway mainBtc untouchedAndFilled ∧
      (session.run mainBtc untouchedAndFilled).system.portfolio.cash ≠
        mainBtc.system.portfolio.cash := by
  refine ⟨gateway_exclusive ?_ ?_ ?_, ?_⟩
  · decide +kernel
  · decide +kernel
  · decide +kernel
  · decide +kernel

end Session

end TradeBot
