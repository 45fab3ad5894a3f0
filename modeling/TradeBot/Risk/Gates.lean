import TradeBot.Risk.Frames
import TradeBot.Trading.LocalDesk

/-!
# The gates of the risk engine

Every purchase that an engine books itself has asked the risk engine at that moment. The cap
that it enforces never exceeds the configured one, so the number of open positions does not
either.
-/

namespace TradeBot

open Library

/-- None of the gates of the risk engine denies a purchase. -/
structure RiskEngine.Permits (risk : RiskEngine) (portfolio : PortfolioManager) : Prop where
  halted : risk.halted = false
  closeOnly : risk.closeOnly = false
  totalDrawdown : ¬maxTotalDrawdown ≤ risk.totalDrawdown
  dailyDrawdown : ¬maxDailyDrawdown ≤ risk.dailyDrawdown
  positions : ¬(0 < risk.positionCap ∧ risk.positionCap ≤ portfolio.getOpenPositionCount)
  valueAtRisk : ¬(0 < risk.varLimit ∧ 0 < risk.currentVaR95 ∧ 0 < portfolio.getTotalEquity ∧
    portfolio.getTotalEquity * risk.varLimit < risk.currentVaR95)

/-- `canTrade` decides whether the risk engine permits an increase. -/
theorem RiskEngine.canTrade_iff {risk : RiskEngine} {portfolio : PortfolioManager} :
    risk.canTrade portfolio = true ↔ risk.Permits portfolio := by
  unfold canTrade
  constructor
  · intro h
    split at h
    · cases h
    · split at h
      · cases h
      · split at h
        · cases h
        · split at h
          · cases h
          · split at h
            · cases h
            · split at h
              · cases h
              · next hhalted hclose htotal hdaily hpositions hvar =>
                exact ⟨by simpa using hhalted, by simpa using hclose, htotal, hdaily, hpositions,
                  hvar⟩
  · rintro ⟨hhalted, hclose, htotal, hdaily, hpositions, hvar⟩
    rw [if_neg (by rw [hhalted]; decide), if_neg (by rw [hclose]; decide), if_neg htotal,
      if_neg hdaily, if_neg hpositions, if_neg hvar]

namespace PortfolioManager

/-- The position in a symbol is greater than before. -/
def Increases (pm pm' : PortfolioManager) (symbol : String) : Prop :=
  symbol ∈ pm'.positions ∧ pm.heldUnits symbol < pm'.heldUnits symbol

/-- The open positions are the same, up to their marks. -/
structure SameHoldings (pm pm' : PortfolioManager) : Prop where
  count : pm'.getOpenPositionCount = pm.getOpenPositionCount
  held : ∀ symbol, pm'.heldUnits symbol = pm.heldUnits symbol

/-- Portfolios with the same positions have the same holdings. -/
theorem SameHoldings.of_positions {pm pm' : PortfolioManager} (h : pm'.positions = pm.positions) :
    pm.SameHoldings pm' := by
  refine ⟨?_, fun symbol => ?_⟩
  · unfold getOpenPositionCount
    rw [h]
  · unfold heldUnits
    rw [h]

/-- A mark changes no holding. -/
theorem sameHoldings_updatePnL {pm pm' : PortfolioManager} {symbol : String}
    {currentPrice : Double} (h : pm.updatePnL symbol currentPrice = .ok pm') :
    pm.SameHoldings pm' := by
  unfold updatePnL at h
  split at h
  · rw [pure_eq_ok] at h
    rw [h]
    exact .of_positions rfl
  · next current hcurrent =>
    simp only [bind_eq_ok, pure_eq_ok] at h
    obtain ⟨mark, -, valuation, -, rfl⟩ := h
    have hmem : symbol ∈ pm.positions.keys :=
      AList.mem_keys.mp (AList.lookup_isSome.mp (by rw [hcurrent]; rfl))
    refine ⟨?_, fun asset => ?_⟩
    · change (pm.positions.insert symbol _).keys.length = pm.positions.keys.length
      rw [AList.keys_insert, List.length_cons, List.length_erase_of_mem hmem]
      have hpos := List.length_pos_of_mem hmem
      omega
    · change ((pm.positions.insert symbol _).lookup asset).elim 0 _ = _
      unfold heldUnits
      by_cases hasset : asset = symbol
      · rw [hasset, AList.lookup_insert, hcurrent]
        rfl
      · rw [AList.lookup_insert_ne hasset]

/-- A position that is opened is one position more. -/
theorem Opened.count {pm pm' : PortfolioManager} {symbol strategyId : String}
    {p : PositionState} (h : pm.Opened pm' symbol strategyId p) :
    pm'.getOpenPositionCount = pm.getOpenPositionCount + 1 := by
  unfold getOpenPositionCount
  rw [h.positions, AList.keys_insert, List.length_cons,
    List.erase_of_not_mem (fun hmem => h.closed (AList.mem_keys.mpr hmem))]

/-- A position that is closed is at most one position less, and never one more. -/
theorem Closed.count_le {pm pm' : PortfolioManager} {symbol strategyId : String}
    {p : PositionState} {record : TradeRecord} (h : pm.Closed pm' symbol strategyId p record) :
    pm'.getOpenPositionCount ≤ pm.getOpenPositionCount := by
  unfold getOpenPositionCount
  rw [h.positions, AList.keys_erase]
  exact (List.erase_sublist).length_le

/-- A close increases no position. -/
theorem Closed.not_increases {pm pm' : PortfolioManager} {symbol strategyId : String}
    {p : PositionState} {record : TradeRecord} (h : pm.Closed pm' symbol strategyId p record)
    (asset : String) : ¬pm.Increases pm' asset := by
  rintro ⟨hmem, hlt⟩
  by_cases hasset : asset = symbol
  · rw [h.positions, hasset] at hmem
    exact (AList.mem_erase.mp hmem).1 rfl
  · unfold heldUnits at hlt
    rw [h.positions, AList.lookup_erase_ne hasset] at hlt
    exact lt_irrefl _ hlt

end PortfolioManager

namespace RiskEngine

/-- The constructor. -/
def create (maxConcurrentPositions : ℕ := 2) (varLimitFraction : Double := .finite (1 / 20)) :
    RiskEngine where
  maxConcurrentPositions := maxConcurrentPositions
  varLimitFraction := varLimitFraction

/-- A positive cap on positions is configured, and the effective one does not exceed it. -/
def Capped (risk : RiskEngine) (cap : ℕ) : Prop :=
  risk.maxConcurrentPositions = cap ∧ (0 < cap → risk.effectiveMaxPositions ≤ cap)

/-- A change of the volatility keeps the effective cap at most the configured one. -/
theorem Capped.updateLiveVolatility {risk : RiskEngine} {cap : ℕ} (h : risk.Capped cap)
    (liveAtr baselineAtr : Double) :
    (risk.updateLiveVolatility liveAtr baselineAtr).Capped cap := by
  obtain ⟨hmax, heffective⟩ := h
  unfold RiskEngine.updateLiveVolatility
  split
  · exact ⟨hmax, heffective⟩
  · dsimp only
    split
    · exact ⟨hmax, heffective⟩
    · split
      · refine ⟨hmax, fun hpos => ?_⟩
        change Nat.max 1 (risk.maxConcurrentPositions / 2) ≤ cap
        rw [hmax]
        exact Nat.max_le.mpr ⟨hpos, Nat.div_le_self cap 2⟩
      · split
        · exact ⟨hmax, fun _ => hmax.le⟩
        · exact ⟨hmax, heffective⟩

/-- No call on the risk engine lifts the cap on positions. -/
theorem Capped.apply {risk : RiskEngine} {cap : ℕ} (h : risk.Capped cap) (input : Input) :
    (risk.apply input).Capped cap := by
  cases input with
  | updateLiveVolatility liveAtr baselineAtr => exact h.updateLiveVolatility liveAtr baselineAtr
  | setTotalDrawdown drawdown => exact h
  | setDailyDrawdown drawdown => exact h
  | setVaR95 value => exact h
  | reportLatency latencyMs => exact h
  | clearHalt => exact h
  | setHaltTrading halt => exact h
  | clearLatencyBreach => exact h

/-- A permitted purchase leaves room for its position under the cap. -/
theorem Permits.count_lt {risk : RiskEngine} {portfolio : PortfolioManager} {cap : ℕ}
    (h : risk.Permits portfolio) (hcapped : risk.Capped cap) (hpos : 0 < cap) :
    portfolio.getOpenPositionCount < cap := by
  obtain ⟨hmax, heffective⟩ := hcapped
  have hbound := heffective hpos
  have hgate := h.positions
  unfold positionCap at hgate
  split at hgate
  · omega
  · omega

end RiskEngine

namespace LocalDesk

variable {n : ℕ}

/-- What a step does to the positions: it keeps them, or it is a fill. -/
inductive Moves (s t : System n) : Prop
  | kept (hholdings : s.portfolio.SameHoldings t.portfolio)
  | bought {symbol strategyId : String} {p : PositionState}
    (hallowed : s.risk.canTrade s.portfolio = true)
    (hopened : s.portfolio.Opened t.portfolio symbol strategyId p)
  | sold {symbol strategyId : String} {p : PositionState} {record : TradeRecord}
    (hclosed : s.portfolio.Closed t.portfolio symbol strategyId p record)

/-- What leaves the positions increases none of them. -/
theorem moves_of_positions {s t : System n}
    (h : t.portfolio.positions = s.portfolio.positions) : Moves s t :=
  .kept (.of_positions h)

/-- A booked fill increases a position only where risk control permitted it. -/
theorem moves_of_booked {s t : System n} {i : Fin n} {symbol strategyId : String}
    {result : Except StdException Bool} (h : s.Booked t i symbol strategyId result) :
    Moves s t := by
  cases h with
  | unfilled _ hportfolio _ => exact moves_of_positions (by rw [hportfolio])
  | bought hallowed hopened _ _ => exact .bought hallowed hopened
  | sold hclosed _ _ _ _ => exact .sold hclosed

/-- A step keeps the configuration that the gates depend on: how the engines are bound and the
cap of the risk engine. -/
structure Keeps (s t : System n) : Prop where
  bound : ∀ j, (t.engines j).bound = (s.engines j).bound
  capped : ∀ cap, s.risk.Capped cap → t.risk.Capped cap

/-- A local change keeps what the gates depend on. -/
theorem keeps_of_local {s t : System n} (h : s.Local t) : Keeps s t :=
  ⟨h.bound, fun cap hcapped => by rwa [h.risk]⟩

/-- An engine whose protective orders are changed is bound as before. -/
theorem keeps_triggers (s : System n) (i : Fin n) (manager : Option TriggerOrderManager) :
    Keeps s (s.setEngine i { s.engines i with triggerOrders := manager }) := by
  refine ⟨fun j => ?_, fun _ h => h⟩
  by_cases hj : j = i
  · rw [hj]
    change (Function.update s.engines i _ i).bound = _
    rw [Function.update_self]
  · change (Function.update s.engines i _ j).bound = _
    rw [Function.update_of_ne hj]

/-- Cancelling a trigger leaves the portfolio. -/
theorem cancelTrigger_step (s : System n) (i : Fin n) (orderId : ℕ) :
    Keeps s (s.cancelTrigger i orderId) ∧ (s.cancelTrigger i orderId).portfolio = s.portfolio := by
  unfold System.cancelTrigger
  split
  · exact ⟨⟨fun _ => rfl, fun _ h => h⟩, rfl⟩
  · exact ⟨keeps_triggers s i _, rfl⟩

/-- Calls of the trigger manager leave the portfolio. -/
theorem updateTriggers_step (s : System n) (i : Fin n)
    (update : TriggerOrderManager → TriggerOrderManager × ℕ) :
    Keeps s (s.updateTriggers i update).1 ∧
      (s.updateTriggers i update).1.portfolio = s.portfolio := by
  unfold System.updateTriggers
  split
  · exact ⟨⟨fun _ => rfl, fun _ h => h⟩, rfl⟩
  · exact ⟨keeps_triggers s i _, rfl⟩

/-- A signal does nothing or one fill, and returns. -/
theorem executed_booked {s : System n} (hunbound : ∀ j, (s.engines j).bound = false) (i : Fin n)
    (args : ExecuteArgs) :
    s.Local (executed s i args).1 ∧
      s.Booked (executed s i args).1 i (s.engines i).symbol args.strategyId
        (executed s i args).2 := by
  obtain ⟨t, result, heq, hlocal, hbooked⟩ := System.beginExecute_booked (hunbound i) args
  unfold executed
  rw [heq]
  exact ⟨hlocal, hbooked⟩

/-- A turn of the trigger loop increases a position only where risk control permits it. -/
theorem triggerTurn_step {s : System n} (hunbound : ∀ j, (s.engines j).bound = false)
    (i : Fin n) (event : TriggerFillEvent) (events : List TriggerFillEvent) (atr : Option Double) :
    Keeps s (triggerTurn s i event events atr).system ∧
      Moves s (triggerTurn s i event events atr).system := by
  obtain ⟨hlocal, hbooked⟩ := executed_booked hunbound i (System.triggerArgs event atr 0)
  unfold triggerTurn
  generalize executed s i (System.triggerArgs event atr 0) = outcome at hlocal hbooked ⊢
  obtain ⟨t, e | filled⟩ := outcome
  · exact ⟨keeps_of_local hlocal, moves_of_booked hbooked⟩
  · cases filled with
    | false => exact ⟨keeps_of_local hlocal, moves_of_booked hbooked⟩
    | true =>
      obtain ⟨hkeeps, hportfolio⟩ := cancelTrigger_step t i event.orderId
      have hfirst := keeps_of_local hlocal
      refine ⟨⟨fun j => (hkeeps.bound j).trans (hfirst.bound j),
        fun cap h => hkeeps.capped cap (hfirst.capped cap h)⟩, ?_⟩
      cases moves_of_booked hbooked with
      | kept hholdings => exact .kept (hportfolio.symm ▸ hholdings)
      | bought hallowed hopened => exact .bought hallowed (hportfolio.symm ▸ hopened)
      | sold hclosed => exact .sold (hportfolio.symm ▸ hclosed)

/-- A turn of the fill loop increases a position only where risk control permits it. -/
theorem fillTurn_step (s : System n) (i : Fin n) (fill : OrderFillResult)
    (fills : List OrderFillResult) :
    Keeps s (fillTurn s i fill fills).system ∧ Moves s (fillTurn s i fill fills).system := by
  obtain ⟨hlocal, hbooked⟩ := s.processFill_booked i fill
  unfold fillTurn
  generalize s.processFill i fill = outcome at hlocal hbooked ⊢
  obtain ⟨t, e | filled⟩ := outcome
  · exact ⟨keeps_of_local hlocal, moves_of_booked hbooked⟩
  · exact ⟨keeps_of_local hlocal, moves_of_booked hbooked⟩

/-- Marking a price increases no position. -/
theorem markPrice_moves (s : System n) (symbol : String) (currentPrice : Double) :
    Moves s (s.markPrice symbol currentPrice) := by
  unfold System.markPrice
  split
  · exact moves_of_positions rfl
  · next portfolio hmark => exact .kept (PortfolioManager.sameHoldings_updatePnL hmark)

/-- Placing a resting order increases no position. -/
theorem placePendingOrder_moves (s : System n) (order : OrderRecord) :
    Moves s (s.placePendingOrder order).1 := by
  apply moves_of_positions
  change (s.portfolio.placePendingOrder order).1.positions = s.portfolio.positions
  unfold PortfolioManager.placePendingOrder
  split
  · rfl
  · split <;> rfl

/-- Every step keeps the positions or is a fill, and keeps what the gates depend on. -/
theorem handle_step {d : LocalDesk n} (hunbound : ∀ j, (d.system.engines j).bound = false)
    (input : Input n) :
    Keeps d.system (d.handle input).system ∧ Moves d.system (d.handle input).system := by
  have hsame : Keeps d.system d.system ∧ Moves d.system d.system :=
    ⟨⟨fun _ => rfl, fun _ h => h⟩, moves_of_positions rfl⟩
  cases input with
  | execute i args =>
    obtain ⟨hlocal, hbooked⟩ := executed_booked hunbound i args
    exact ⟨keeps_of_local hlocal, moves_of_booked hbooked⟩
  | processTriggerOrders i bbo timestamp => exact hsame
  | executeTriggered atr =>
    change Keeps d.system (d.nextTrigger atr).system ∧ Moves d.system (d.nextTrigger atr).system
    unfold nextTrigger
    split
    · exact triggerTurn_step hunbound ..
    · exact hsame
  | processPendingOrders i candle =>
    exact ⟨⟨fun _ => rfl, fun _ h => h⟩, moves_of_positions rfl⟩
  | fillTriggered =>
    change Keeps d.system d.nextFill.system ∧ Moves d.system d.nextFill.system
    unfold nextFill
    split
    · exact fillTurn_step ..
    · exact hsame
  | placeStopLossTrigger i stopPrice quantity strategyId =>
    obtain ⟨hkeeps, hportfolio⟩ := updateTriggers_step d.system i _
    exact ⟨hkeeps, moves_of_positions (congrArg _ hportfolio)⟩
  | placeOcoTrigger i stopPrice takeProfitPrice quantity strategyId =>
    obtain ⟨hkeeps, hportfolio⟩ := updateTriggers_step d.system i _
    exact ⟨hkeeps, moves_of_positions (congrArg _ hportfolio)⟩
  | placePendingOrder order =>
    exact ⟨⟨fun _ => rfl, fun _ h => h⟩, placePendingOrder_moves d.system order⟩
  | updatePnL symbol currentPrice =>
    refine ⟨?_, markPrice_moves d.system symbol currentPrice⟩
    change Keeps d.system (d.system.markPrice symbol currentPrice)
    unfold System.markPrice
    split
    · exact hsame.1
    · exact ⟨fun _ => rfl, fun _ h => h⟩
  | setSystemConfig config =>
    exact ⟨⟨fun _ => rfl, fun cap h => ⟨h.1, fun _ => h.1.le⟩⟩, moves_of_positions rfl⟩
  | risk input =>
    exact ⟨⟨fun _ => rfl, fun cap h => h.apply input⟩, moves_of_positions rfl⟩

/-- Only a purchase increases a position, and the risk engine permits it. -/
theorem Moves.permitted {s t : System n} (h : Moves s t) {symbol : String}
    (hincreases : s.portfolio.Increases t.portfolio symbol) : s.risk.Permits s.portfolio := by
  cases h with
  | kept hholdings =>
    have hsame := hholdings.held symbol
    have hlt := hincreases.2
    omega
  | bought hallowed hopened => exact RiskEngine.canTrade_iff.mp hallowed
  | sold hclosed => exact absurd hincreases (hclosed.not_increases symbol)

/-- The cap on positions holds after a step. -/
theorem Moves.count_le {s t : System n} (h : Moves s t) {cap : ℕ} (hcapped : s.risk.Capped cap)
    (hpos : 0 < cap) (hcount : s.portfolio.getOpenPositionCount ≤ cap) :
    t.portfolio.getOpenPositionCount ≤ cap := by
  cases h with
  | kept hholdings =>
    rw [hholdings.count]
    exact hcount
  | bought hallowed hopened =>
    have hlt := (RiskEngine.canTrade_iff.mp hallowed).count_lt hcapped hpos
    rw [hopened.count]
    exact hlt
  | sold hclosed => exact hclosed.count_le.trans hcount

/-- What holds between any two steps: no engine is bound, and the positions keep to the cap. -/
structure Gated (cap : ℕ) (d : LocalDesk n) : Prop where
  unbound : ∀ j, (d.system.engines j).bound = false
  capped : d.system.risk.Capped cap
  count : 0 < cap → d.system.portfolio.getOpenPositionCount ≤ cap

/-- Every call keeps the number of positions within the cap. -/
theorem Gated.next {cap : ℕ} {d : LocalDesk n} (h : Gated cap d) (input : Input n) :
    Gated cap (trading.next d input) := by
  obtain ⟨hkeeps, hmoves⟩ := handle_step h.unbound input
  refine ⟨fun j => ?_, hkeeps.capped cap h.capped, fun hpos => ?_⟩
  · exact (hkeeps.bound j).trans (h.unbound j)
  · exact hmoves.count_le h.capped hpos (h.count hpos)

/-- **Risk gates.** Whatever engines without a gateway do from a state without positions, the
number of open positions stays under the configured cap, and no step increases a position at a
moment when a gate of the risk engine denies it. -/
theorem gates_hold (d : LocalDesk n) (hunbound : ∀ j, (d.system.engines j).bound = false)
    (hempty : d.system.portfolio.positions = ∅) (cap : ℕ) (varLimit : Double)
    (hrisk : d.system.risk = RiskEngine.create cap varLimit) (inputs : List (Input n)) :
    (0 < cap → (trading.run d inputs).system.portfolio.getOpenPositionCount ≤ cap) ∧
      trading.Along (fun e input => ∀ symbol,
        e.system.portfolio.Increases (trading.next e input).system.portfolio symbol →
          e.system.risk.Permits e.system.portfolio) d inputs := by
  have hstart : Gated cap d := by
    refine ⟨hunbound, ?_, fun _ => ?_⟩
    · rw [hrisk]
      exact ⟨rfl, fun _ => Nat.zero_le cap⟩
    · unfold PortfolioManager.getOpenPositionCount
      rw [hempty]
      exact Nat.zero_le cap
  constructor
  · exact (Machine.invariant_run (I := Gated cap) (fun e input h => h.next input) hstart
      inputs).count
  · refine Machine.along_of_invariant (I := Gated cap) (C := fun _ _ => True)
      (fun e input h _ => h.next input) (fun e input h _ symbol hincreases => ?_) hstart
      (Machine.along_of_forall (Q := fun _ => True) (fun _ _ => trivial) d)
    exact (handle_step h.unbound input).2.permitted hincreases

/-- Two engines of `main` without a gateway, with a cap of one position. -/
def twoEngines : LocalDesk 2 where
  system :=
    { portfolio := .fresh
      risk := RiskEngine.create 1
      gateway := { config := {}, adapter := .deterministic }
      engines := fun i => ExecutionEngine.main (if i = 0 then "A" else "B")
      executionObservers := []
      reportsRejections := false
      analytics := {}
      clock := id }

/-- Signals to buy two symbols. -/
def twoSignals : List (Input 2) :=
  [.execute 0 { signal := .buy, marketPrice := .finite 100 },
    .execute 1 { signal := .buy, marketPrice := .finite 100 }]

/-- Two engines are asked to buy where one position is allowed. -/
theorem gates_hold_twoEngines :
    (0 < 1 → (trading.run twoEngines twoSignals).system.portfolio.getOpenPositionCount ≤ 1) ∧
      trading.Along (fun e input => ∀ symbol,
        e.system.portfolio.Increases (trading.next e input).system.portfolio symbol →
          e.system.risk.Permits e.system.portfolio) twoEngines twoSignals :=
  gates_hold twoEngines (fun _ => rfl) rfl 1 (.finite (1 / 20)) rfl twoSignals

/-- The first of the two signals is executed. -/
example : (trading.run twoEngines twoSignals).system.portfolio.getOpenPositionCount = 1 := by
  decide +kernel

end LocalDesk

end TradeBot
