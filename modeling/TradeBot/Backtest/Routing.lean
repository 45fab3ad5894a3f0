import TradeBot.Backtest.Resumption

/-!
# The candles that a backtest routes

The loop of `main` over all streams: which candles it hands to the event loops, in which order,
and when it ends. Each of them finds the event loop of its symbol.
-/

namespace TradeBot

open Library

namespace Backtest

variable {sqrt : Double → Double} {interval : ℕ} {b b' : Backtest} {candle : MarketCandle}

/-- A checkpoint leaves the engines. -/
theorem writeCheckpoint_engines {timestamp : ℕ} (h : b.writeCheckpoint timestamp = .ok b') :
    b'.engines = b.engines := by
  unfold writeCheckpoint at h
  obtain ⟨checkpoint, -, hb'⟩ := bind_eq_ok.mp h
  rw [pure_eq_ok] at hb'
  rw [← hb']

/-- A candle leaves no symbol without its engines. -/
theorem processCandle_engines (h : b.processCandle sqrt interval candle = .ok b')
    {symbol : String} (hsymbol : (b.engines symbol).isSome = true) :
    (b'.engines symbol).isSome = true := by
  unfold processCandle at h
  cases hengines : b.engines candle.symbol with
  | none =>
    rw [hengines] at h
    cases h
    exact hsymbol
  | some engines =>
    rw [hengines] at h
    obtain ⟨⟨c, traded⟩, -, hrest⟩ := bind_eq_ok.mp h
    dsimp only at hrest
    have hset (traded : SymbolEngines) :
        ((Backtest.setEngines { b with components := c } candle.symbol traded).engines
          symbol).isSome = true := by
      unfold setEngines
      dsimp only
      rw [Function.update_apply]
      split
      · rfl
      · exact hsymbol
    split at hrest
    · rw [writeCheckpoint_engines hrest]
      exact hset _
    · rw [pure_eq_ok] at hrest
      rw [← hrest]
      exact hset _

end Backtest

namespace Configuration

variable {config : Configuration}
  {queue : PriorityQueue (Stream MarketCandle) StreamEntry.key} {sqrt : Double → Double}
  {specs : List StreamSpec} {clock : ℕ → ℕ}

/-- The queue of `main` with the first candle of every stream. -/
def heap (queue : PriorityQueue (Stream MarketCandle) StreamEntry.key)
    (specs : List StreamSpec) : queue.Queue :=
  @seed _ MarketCandle.epochTimestamp queue (specs.map StreamSpec.candles)

/-- The queue after a number of turns of the loop. -/
def heapAfter (queue : PriorityQueue (Stream MarketCandle) StreamEntry.key)
    (specs : List StreamSpec) (k : ℕ) : queue.Queue :=
  @turns _ MarketCandle.epochTimestamp queue k (heap queue specs)

/-- The candles that the first turns of the loop hand out. -/
def routed (queue : PriorityQueue (Stream MarketCandle) StreamEntry.key)
    (specs : List StreamSpec) (k : ℕ) : List MarketCandle :=
  @merged _ MarketCandle.epochTimestamp queue k (heap queue specs)

/-- After any number of turns the first candles of the merge have been handed out. -/
theorem routed_eq_take (queue : PriorityQueue (Stream MarketCandle) StreamEntry.key)
    (specs : List StreamSpec) (k : ℕ) : routed queue specs k = (candles queue specs).take k := by
  by_cases hk : k ≤ count (specs.map StreamSpec.candles)
  · exact merged_eq_take _ hk _
  · have hcard := @card_queued_seed _ MarketCandle.epochTimestamp queue
      (specs.map StreamSpec.candles)
    have hle : count (specs.map StreamSpec.candles) ≤ k := Nat.le_of_not_le hk
    have htake : candles queue specs = (routed queue specs k).take _ := merged_eq_take _ hle _
    have hqueued : (routed queue specs k : Multiset MarketCandle) = _ :=
      @merged_eq_queued _ MarketCandle.epochTimestamp queue k (heap queue specs)
        (hcard.le.trans hle)
    have hlength : (routed queue specs k).length = count (specs.map StreamSpec.candles) := by
      rw [← Multiset.coe_card, hqueued]
      exact hcard
    rw [htake, ← hlength, List.take_length, List.take_of_length_le (by omega)]

/-- The event loops of all symbols are there when a candle is handed to its own. -/
theorem engines_found (config : Configuration) (sqrt : Double → Double) (specs : List StreamSpec)
    (clock : ℕ → ℕ) {handled : List MarketCandle} {b : Backtest}
    (hrun : handled.foldlM (Backtest.processCandle sqrt config.checkpointIntervalSec)
      (config.start specs clock none) = .ok b) {spec : StreamSpec} (hspec : spec ∈ specs) :
    (b.engines spec.symbol).isSome = true := by
  have hstart : ((config.start specs clock none).engines spec.symbol).isSome = true := by
    rw [engines_start, if_pos (List.mem_map_of_mem hspec)]
    rfl
  generalize config.start specs clock none = start at hrun hstart
  induction handled generalizing start with
  | nil =>
    cases hrun
    exact hstart
  | cons candle handled ih =>
    rw [List.foldlM_cons] at hrun
    obtain ⟨next, hnext, hrest⟩ := bind_eq_ok.mp hrun
    exact ih next hrest (Backtest.processCandle_engines hnext hstart)

/-- A stream's candles carry its symbol, which the reader of its file sets. -/
def Labelled (spec : StreamSpec) : Prop :=
  ∀ candle ∈ spec.candles, candle.symbol = spec.symbol

/-- What the loop of a backtest does with the candles of its streams, which it hands out in the
given order. -/
structure Routes (config : Configuration)
    (queue : PriorityQueue (Stream MarketCandle) StreamEntry.key) (sqrt : Double → Double)
    (specs : List StreamSpec) (order : List MarketCandle) : Prop where
  /-- The loop handles the candles one by one in this order, up to an exception. -/
  handles : ∀ handle b, dispatchAll queue specs handle b = order.foldlM handle b
  /-- Every stream is handed out once, in its own order. -/
  interleaves : Interleaves (specs.map StreamSpec.candles) order
  sorted : order.Pairwise fun c c' => c.epochTimestamp ≤ c'.epochTimestamp
  /-- One candle is handed out in each turn. -/
  turns : ∀ k, routed queue specs k = order.take k
  /-- The heap is empty when all candles have been handed out, and not before. -/
  ends : ∀ k, queue.pop (heapAfter queue specs k) = none ↔ order.length ≤ k
  /-- No candle is dropped for want of the engines of its symbol. -/
  found : (∀ spec ∈ specs, Labelled spec) → ∀ clock before candle after b,
    order = before ++ candle :: after →
    before.foldlM (Backtest.processCandle sqrt config.checkpointIntervalSec)
      (config.start specs clock none) = .ok b → (b.engines candle.symbol).isSome = true

/-- **The merge.** Whatever heap the loop uses, the candles of streams that do not go back in time
are handed out one by one, each once, in the order of their timestamps and in the order of their
own streams, until all streams are exhausted. -/
theorem candles_routed (config : Configuration)
    (queue : PriorityQueue (Stream MarketCandle) StreamEntry.key) (sqrt : Double → Double)
    (specs : List StreamSpec)
    (hsorted : ∀ spec ∈ specs,
      spec.candles.Pairwise fun c c' => c.epochTimestamp ≤ c'.epochTimestamp) :
    Routes config queue sqrt specs (candles queue specs) := by
  have hperm := @mergedStreams_perm _ MarketCandle.epochTimestamp queue
    (specs.map StreamSpec.candles)
  constructor
  · intro handle b
    exact dispatchAll_eq handle b
  · exact mergedStreams_interleaves _ _
  · exact mergedStreams_sorted _ (List.forall_mem_map.mpr hsorted)
  · exact routed_eq_take queue specs
  · intro k
    have hlength : (candles queue specs).length = count (specs.map StreamSpec.candles) := by
      rw [candles, hperm.length_eq, List.length_flatten, count]
    rw [hlength]
    exact pop_turns_seed _ _ k
  · intro hlabelled clock before candle after b horder hrun
    have hmem : candle ∈ candles queue specs := by
      rw [horder]
      exact List.mem_append_right _ List.mem_cons_self
    obtain ⟨elements, helements, hcandle⟩ := List.mem_flatten.mp (hperm.mem_iff.mp hmem)
    obtain ⟨spec, hspec, rfl⟩ := List.mem_map.mp helements
    rw [hlabelled spec hspec candle hcandle]
    exact engines_found config sqrt specs clock hrun hspec

/-- Two streams that start at the same time and end at different ones. -/
def twoStreams : List StreamSpec :=
  [⟨"BTCUSDT", [⟨"BTCUSDT", 60, .finite 2, .finite 1, .finite 1⟩,
      ⟨"BTCUSDT", 180, .finite 2, .finite 1, .finite 2⟩]⟩,
    ⟨"ETHUSDT", [⟨"ETHUSDT", 60, .finite 2, .finite 1, .finite 1⟩]⟩]

/-- Two streams are merged, on a heap that is a sorted list. -/
theorem candles_routed_two :
    Routes {} (PriorityQueue.list StreamEntry.key) id twoStreams
      (candles (PriorityQueue.list StreamEntry.key) twoStreams) :=
  candles_routed {} (PriorityQueue.list StreamEntry.key) id twoStreams (by decide)

example : (candles (PriorityQueue.list StreamEntry.key) twoStreams).map MarketCandle.symbol =
    ["BTCUSDT", "ETHUSDT", "BTCUSDT"] := by decide +kernel

end Configuration

end TradeBot
