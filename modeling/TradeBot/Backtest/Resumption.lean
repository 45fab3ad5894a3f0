import TradeBot.Backtest.Restoring

/-!
# Resuming a backtest

A resumed backtest warms its strategies up on the candles up to the checkpoint and then
follows the uninterrupted one. Its event loops do not know when they have last
checkpointed, so that they write checkpoints at other times.
-/

namespace TradeBot

open Library Financial

/-- The engines of a symbol are twins of themselves. -/
theorem SymbolEngines.Twin.refl (engines : SymbolEngines) : engines.Twin engines :=
  ⟨rfl, rfl, .refl _⟩

namespace Backtest

variable (sqrt : Double → Double) (interval : ℕ)

/-- The times of the last checkpoints of all event loops after a candle. -/
def scheduleAfter (schedule : String → ℕ) (candle : MarketCandle) : String → ℕ :=
  Function.update schedule candle.symbol
    (EventLoop.nextCheckpointTs interval (schedule candle.symbol) candle.epochTimestamp)

/-- After each of the candles the values of the positions can be added up in any order, and a
checkpoint that is due by the schedule can be written. -/
def Passes (b : Backtest) : (String → ℕ) → List MarketCandle → Prop
  | _, [] => True
  | schedule, candle :: candles =>
    match b.processCandle sqrt interval candle with
    | .error _ => True
    | .ok b₁ => PortfolioManager.Addable b₁.components.portfolio.positions ∧
      (EventLoop.checkpointDue interval (schedule candle.symbol) candle.epochTimestamp = true →
        (b.engines candle.symbol).isSome = true → b₁.components.Valid) ∧
      b₁.Passes (scheduleAfter interval schedule candle) candles

instance (positions : KeyedMap String PositionState) :
    Decidable (PortfolioManager.Addable positions) :=
  inferInstanceAs (Decidable (_ ∨ _))

instance decidablePasses (b : Backtest) (schedule : String → ℕ) :
    (candles : List MarketCandle) → Decidable (b.Passes sqrt interval schedule candles)
  | [] => .isTrue trivial
  | candle :: candles =>
    match hok : b.processCandle sqrt interval candle with
    | .error _ => .isTrue (by rw [Passes, hok]; trivial)
    | .ok b₁ =>
      have := decidablePasses b₁ (scheduleAfter interval schedule candle) candles
      decidable_of_iff (PortfolioManager.Addable b₁.components.portfolio.positions ∧
        (EventLoop.checkpointDue interval (schedule candle.symbol) candle.epochTimestamp = true →
          (b.engines candle.symbol).isSome = true → b₁.components.Valid) ∧
        b₁.Passes sqrt interval (scheduleAfter interval schedule candle) candles)
        (by rw [Passes, hok])

/-- A backtest between two candles. -/
structure Going (t : Components) (b : Backtest) : Prop where
  kept : Components.Kept t b.components
  unbound : ∀ symbol, ∀ engines ∈ b.engines symbol, engines.execution.bound = false

/-- The engines of two backtests, the second of which has last checkpointed by a schedule. -/
structure Paired (schedule : String → ℕ) (b b' : Backtest) : Prop where
  twins : ∀ symbol, Option.Rel SymbolEngines.Twin (b.engines symbol) (b'.engines symbol)
  schedule : ∀ symbol, ∀ engines ∈ b'.engines symbol,
    engines.lastCheckpointTs = schedule symbol

variable {sqrt interval} {t : Components} {b b' b₁ : Backtest} {candle : MarketCandle}
  {engines : SymbolEngines} {schedule : String → ℕ}

/-- The backtest after a candle of a symbol with engines, before a checkpoint that is due. -/
def afterTrade (interval : ℕ) (b : Backtest) (candle : MarketCandle) (engines : SymbolEngines)
    (result : Components × SymbolEngines) : Backtest :=
  { b with components := result.1 }.setEngines candle.symbol { result.2 with
    lastCheckpointTs :=
      EventLoop.nextCheckpointTs interval engines.lastCheckpointTs candle.epochTimestamp }

/-- A checkpoint that is written is what the components save at a reading of the clock. -/
theorem writeCheckpoint_eq_ok {timestamp : ℕ} :
    b.writeCheckpoint timestamp = .ok b₁ ↔ ∃ checkpoint,
      b.components.saveValues timestamp (b.clock 0) = .ok checkpoint ∧ b₁ = { b with
        clock := fun k => b.clock (k + 1)
        file := some checkpoint } := by
  simp only [writeCheckpoint, bind_eq_ok, mapError_eq_ok, pure_eq_ok]
  exact exists_congr fun checkpoint => and_congr_right fun _ => eq_comm

/-- What a candle does. -/
theorem processCandle_eq_ok (hengines : b.engines candle.symbol = some engines) :
    b.processCandle sqrt interval candle = .ok b₁ ↔ ∃ result,
      EventLoop.trade sqrt b.components engines candle = .ok result ∧
      if EventLoop.checkpointDue interval engines.lastCheckpointTs candle.epochTimestamp = true then
        (b.afterTrade interval candle engines result).writeCheckpoint candle.epochTimestamp = .ok b₁
      else b₁ = b.afterTrade interval candle engines result := by
  unfold processCandle
  rw [hengines]
  simp only [bind_eq_ok]
  refine exists_congr fun result => and_congr_right fun _ => ?_
  by_cases hdue : EventLoop.checkpointDue interval engines.lastCheckpointTs
      candle.epochTimestamp = true
  · rw [if_pos hdue, if_pos hdue]
    exact Iff.rfl
  · rw [if_neg hdue, if_neg hdue, pure_eq_ok]
    exact eq_comm

/-- A candle of a symbol without engines changes nothing. -/
theorem processCandle_none (hengines : b.engines candle.symbol = none) :
    b.processCandle sqrt interval candle = .ok b := by
  unfold processCandle
  rw [hengines]

/-- What a candle leaves, whether or not a checkpoint is due. -/
theorem processCandle_leaves (hengines : b.engines candle.symbol = some engines)
    (hok : b.processCandle sqrt interval candle = .ok b₁) :
    ∃ c traded, EventLoop.trade sqrt b.components engines candle = .ok (c, traded) ∧
      b₁.components = c ∧ b₁.engines = Function.update b.engines candle.symbol (some { traded with
        lastCheckpointTs := EventLoop.nextCheckpointTs interval engines.lastCheckpointTs
          candle.epochTimestamp }) := by
  obtain ⟨⟨c, traded⟩, htrade, hleaves⟩ := (processCandle_eq_ok hengines).mp hok
  refine ⟨c, traded, htrade, ?_⟩
  split at hleaves
  · obtain ⟨checkpoint, -, rfl⟩ := writeCheckpoint_eq_ok.mp hleaves
    exact ⟨rfl, rfl⟩
  · rw [hleaves]
    exact ⟨rfl, rfl⟩

/-- A candle is handled when it is traded and a checkpoint that is due can be written. -/
theorem processCandle_returns {c : Components} {traded : SymbolEngines}
    (hengines : b.engines candle.symbol = some engines)
    (htrade : EventLoop.trade sqrt b.components engines candle = .ok (c, traded))
    (herrors : c.risk.errorTimestamps = [])
    (hvalid : EventLoop.checkpointDue interval engines.lastCheckpointTs candle.epochTimestamp =
      true → c.Valid) :
    ∃ b₁, b.processCandle sqrt interval candle = .ok b₁ := by
  by_cases hdue : EventLoop.checkpointDue interval engines.lastCheckpointTs
      candle.epochTimestamp = true
  · have hsave := (@Components.saveValues_eq_ok c herrors candle.epochTimestamp (b.clock 0) _).mpr
      ⟨hvalid hdue, rfl⟩
    apply Exists.intro
    apply (processCandle_eq_ok hengines).mpr
    refine ⟨_, htrade, ?_⟩
    rw [if_pos hdue]
    apply writeCheckpoint_eq_ok.mpr
    exact ⟨_, hsave, rfl⟩
  · apply Exists.intro
    apply (processCandle_eq_ok hengines).mpr
    refine ⟨_, htrade, ?_⟩
    rw [if_neg hdue]

/-- A candle keeps a backtest going. -/
theorem Going.step (h : Going t b) (hok : b.processCandle sqrt interval candle = .ok b₁) :
    Going t b₁ := by
  cases hengines : b.engines candle.symbol with
  | none =>
    rw [processCandle_none hengines, Except.ok.injEq] at hok
    rwa [← hok]
  | some engines =>
    obtain ⟨c, traded, htrade, hcomponents, hupdated⟩ := processCandle_leaves hengines hok
    have hunbound := h.unbound candle.symbol engines hengines
    obtain ⟨hkept, hcounted, -⟩ := EventLoop.kept_trade h.kept hunbound htrade
    refine ⟨hcomponents ▸ hkept, ?_⟩
    intro symbol other hother
    rw [hupdated] at hother
    by_cases hsymbol : symbol = candle.symbol
    · rw [hsymbol, Function.update_self, Option.mem_some_iff] at hother
      obtain ⟨_, _, _, hexecution⟩ := hcounted
      rw [← hother, hexecution]
      exact hunbound
    · rw [Function.update_of_ne hsymbol] at hother
      exact h.unbound symbol other hother

/-- Engines of one symbol are replaced in both backtests. -/
theorem Paired.update {b₁' : Backtest} {symbol : String} {engines' : SymbolEngines}
    (h : Paired schedule b b') (htwin : engines.Twin engines')
    (hb₁ : b₁.engines = Function.update b.engines symbol (some engines))
    (hb₁' : b₁'.engines = Function.update b'.engines symbol (some engines')) :
    Paired (Function.update schedule symbol engines'.lastCheckpointTs) b₁ b₁' := by
  constructor
  case twins =>
    intro other
    rw [hb₁, hb₁']
    by_cases hother : other = symbol
    · rw [hother, Function.update_self, Function.update_self]
      exact .some htwin
    · rw [Function.update_of_ne hother, Function.update_of_ne hother]
      exact h.twins other
  case schedule =>
    intro other engines₁ hengines₁
    rw [hb₁'] at hengines₁
    by_cases hother : other = symbol
    · rw [hother, Function.update_self, Option.mem_some_iff] at hengines₁
      rw [hother, Function.update_self, hengines₁]
    · rw [Function.update_of_ne hother] at hengines₁ ⊢
      exact h.schedule other engines₁ hengines₁

/-- Paired backtests have no engines for the same symbols. -/
theorem Paired.engines_none (h : Paired schedule b b') {symbol : String}
    (hengines : b.engines symbol = none) : b'.engines symbol = none := by
  have htwins := h.twins symbol
  rw [hengines] at htwins
  cases hengines' : b'.engines symbol with
  | none => rfl
  | some engines' =>
    rw [hengines'] at htwins
    cases htwins

/-- Paired backtests have twin engines for the same symbols, with their own times of checkpoints. -/
theorem Paired.engines_some (h : Paired schedule b b') {symbol : String}
    (hengines : b.engines symbol = some engines) :
    ∃ engines', b'.engines symbol = some engines' ∧ engines.Twin engines' ∧
      engines'.lastCheckpointTs = schedule symbol := by
  have htwins := h.twins symbol
  rw [hengines] at htwins
  cases hengines' : b'.engines symbol with
  | none =>
    rw [hengines'] at htwins
    cases htwins
  | some engines' =>
    rw [hengines'] at htwins
    cases htwins with
    | some htwin => exact ⟨engines', rfl, htwin, h.schedule symbol engines' hengines'⟩

/-- The schedule of a symbol without engines does not matter. -/
theorem Paired.reschedule (h : Paired schedule b b') {symbol : String}
    (hengines : b.engines symbol = none) (timestamp : ℕ) :
    Paired (Function.update schedule symbol timestamp) b b' := by
  refine ⟨h.twins, fun other engines hother => ?_⟩
  by_cases hsymbol : other = symbol
  · rw [hsymbol, h.engines_none hengines] at hother
    cases hother
  · rw [Function.update_of_ne hsymbol]
    exact h.schedule other engines hother

/-- **Warming up.** The engines that have only seen a candle go on as those that have traded
it. -/
theorem Paired.warmUp (h : Paired schedule b b') (hgoing : Going t b)
    (hok : b.processCandle sqrt interval candle = .ok b₁) :
    Paired schedule b₁ (b'.warmUp sqrt candle) := by
  cases hengines : b.engines candle.symbol with
  | none =>
    rw [processCandle_none hengines, Except.ok.injEq] at hok
    unfold Backtest.warmUp
    rwa [h.engines_none hengines, ← hok]
  | some engines =>
    obtain ⟨engines', hengines', htwin, hschedule⟩ := h.engines_some hengines
    obtain ⟨c, traded, htrade, -, hupdated⟩ := processCandle_leaves hengines hok
    obtain ⟨-, hcounted, hsma, hmr⟩ := EventLoop.kept_trade hgoing.kept
      (hgoing.unbound candle.symbol engines hengines) htrade
    have hwarm : b'.warmUp sqrt candle = b'.setEngines candle.symbol { engines' with
        stratSma := (engines'.stratSma.generateSignal candle).2
        stratMr := (engines'.stratMr.generateSignal sqrt candle).2 } := by
      unfold Backtest.warmUp
      rw [hengines']
    have htwin₁ : SymbolEngines.Twin { traded with
        lastCheckpointTs := EventLoop.nextCheckpointTs interval engines.lastCheckpointTs
          candle.epochTimestamp } { engines' with
        stratSma := (engines'.stratSma.generateSignal candle).2
        stratMr := (engines'.stratMr.generateSignal sqrt candle).2 } := by
      refine ⟨?_, ?_, hcounted.symm.trans htwin.execution⟩
      · rw [hsma, htwin.stratSma]
      · rw [hmr, htwin.stratMr]
    have hpaired := h.update htwin₁ hupdated (congrArg Backtest.engines hwarm)
    dsimp only at hpaired
    rwa [hschedule, Function.update_eq_self] at hpaired

/-- Warming up leaves the shared components. -/
theorem components_warmUp : (b.warmUp sqrt candle).components = b.components := by
  unfold warmUp
  split
  · rfl
  · rfl

/-- **Following.** A backtest that agrees with another one handles the candle that the other
one has handled, and agrees with it afterwards. -/
theorem Paired.processCandle (h : Paired schedule b b') (hgoing : Going t b)
    (halike : b'.components.Alike b.components)
    (hok : b.processCandle sqrt interval candle = .ok b₁)
    (haddable : PortfolioManager.Addable b₁.components.portfolio.positions)
    (hvalid : EventLoop.checkpointDue interval (schedule candle.symbol) candle.epochTimestamp =
      true → (b.engines candle.symbol).isSome = true → b₁.components.Valid) :
    ∃ b₁', b'.processCandle sqrt interval candle = .ok b₁' ∧
      Paired (scheduleAfter interval schedule candle) b₁ b₁' ∧
      b₁'.components.Alike b₁.components := by
  cases hengines : b.engines candle.symbol with
  | none =>
    rw [processCandle_none hengines, Except.ok.injEq] at hok
    rw [← hok]
    exact ⟨b', processCandle_none (h.engines_none hengines), h.reschedule hengines _, halike⟩
  | some engines =>
    obtain ⟨engines', hengines', htwin, hschedule⟩ := h.engines_some hengines
    obtain ⟨c, traded, htrade, rfl, hupdated⟩ := processCandle_leaves hengines hok
    have hunbound := hgoing.unbound candle.symbol engines hengines
    obtain ⟨c', traded', htrade', halike₁, htwin₁⟩ :=
      EventLoop.alike_trade halike htwin hgoing.kept hunbound htrade haddable
    have hkept := (hgoing.step hok).kept
    have herrors : c'.risk.errorTimestamps = [] := by
      rw [halike₁.risk.eq]
      exact hkept.errorTimestamps
    rw [hengines, ← hschedule] at hvalid
    obtain ⟨b₁', hok'⟩ := processCandle_returns hengines' htrade' herrors fun hdue =>
      halike₁.valid_iff.mpr (hvalid hdue rfl)
    obtain ⟨c₁', traded₁', htrade₁', hcomponents', hupdated'⟩ := processCandle_leaves hengines' hok'
    rw [htrade', Except.ok.injEq, Prod.mk.injEq] at htrade₁'
    obtain ⟨rfl, rfl⟩ := htrade₁'
    have hpaired := h.update (?_ : SymbolEngines.Twin _ _) hupdated hupdated'
    · rw [hschedule] at hpaired
      exact ⟨b₁', hok', hpaired, hcomponents' ▸ halike₁⟩
    · exact ⟨htwin₁.stratSma, htwin₁.stratMr, htwin₁.execution⟩

/-- Symbols with engines keep engines. -/
theorem isSome_processCandle (hok : b.processCandle sqrt interval candle = .ok b₁)
    (symbol : String) : (b₁.engines symbol).isSome = (b.engines symbol).isSome := by
  cases hengines : b.engines candle.symbol with
  | none =>
    rw [processCandle_none hengines, Except.ok.injEq] at hok
    rw [hok]
  | some engines =>
    obtain ⟨c, traded, -, -, hupdated⟩ := processCandle_leaves hengines hok
    rw [hupdated]
    by_cases hsymbol : symbol = candle.symbol
    · rw [hsymbol, Function.update_self, hengines]
      rfl
    · rw [Function.update_of_ne hsymbol]

section Runs

variable {candles : List MarketCandle}

/-- A backtest keeps going over candles that it handles. -/
theorem Going.run (h : Going t b)
    (hok : candles.foldlM (Backtest.processCandle sqrt interval) b = .ok b₁) : Going t b₁ := by
  induction candles generalizing b with
  | nil =>
    rw [List.foldlM_nil, pure_eq_ok] at hok
    rwa [← hok]
  | cons candle candles ih =>
    rw [List.foldlM_cons, bind_eq_ok] at hok
    obtain ⟨b₂, hcandle, hok⟩ := hok
    exact ih (h.step hcandle) hok

/-- Candles leave which symbols have engines. -/
theorem isSome_processCandles
    (hok : candles.foldlM (Backtest.processCandle sqrt interval) b = .ok b₁) (symbol : String) :
    (b₁.engines symbol).isSome = (b.engines symbol).isSome := by
  induction candles generalizing b with
  | nil =>
    rw [List.foldlM_nil, pure_eq_ok] at hok
    rw [hok]
  | cons candle candles ih =>
    rw [List.foldlM_cons, bind_eq_ok] at hok
    obtain ⟨b₂, hcandle, hok⟩ := hok
    rw [ih hok, isSome_processCandle hcandle]

/-- Warming up on candles that were traded before the checkpoint. -/
theorem Paired.warmUps (h : Paired schedule b b') (hgoing : Going t b)
    (hok : candles.foldlM (Backtest.processCandle sqrt interval) b = .ok b₁) {checkpointTs : ℕ}
    (hearlier : ∀ candle ∈ candles, candle.epochTimestamp ≤ checkpointTs) :
    ∃ b₁', candles.foldlM (Backtest.resumeCandle sqrt interval checkpointTs) b' = .ok b₁' ∧
      Paired schedule b₁ b₁' ∧ b₁'.components = b'.components := by
  induction candles generalizing b b' with
  | nil =>
    rw [List.foldlM_nil, pure_eq_ok] at hok
    rw [← hok]
    exact ⟨b', rfl, h, rfl⟩
  | cons candle candles ih =>
    rw [List.forall_mem_cons] at hearlier
    rw [List.foldlM_cons, bind_eq_ok] at hok
    obtain ⟨b₂, hcandle, hok⟩ := hok
    obtain ⟨b₁', hok', hpaired, hcomponents⟩ :=
      ih (h.warmUp hgoing hcandle) (hgoing.step hcandle) hok hearlier.2
    refine ⟨b₁', ?_, hpaired, hcomponents.trans components_warmUp⟩
    rw [List.foldlM_cons, bind_eq_ok]
    refine ⟨b'.warmUp sqrt candle, ?_, hok'⟩
    unfold Backtest.resumeCandle
    rw [if_pos hearlier.1]

/-- A resumed backtest handles the candles after the checkpoint, and drops those of other
symbols, as the uninterrupted one does. -/
theorem resumeCandle_eq {checkpointTs : ℕ} (hlater : (b.engines candle.symbol).isSome = true →
    checkpointTs < candle.epochTimestamp) :
    b.resumeCandle sqrt interval checkpointTs candle = b.processCandle sqrt interval candle := by
  unfold resumeCandle
  split
  · next hearlier =>
    cases hengines : b.engines candle.symbol with
    | none =>
      rw [processCandle_none hengines]
      unfold warmUp
      rw [hengines]
    | some engines =>
      rw [hengines] at hlater
      exact absurd (hlater rfl) (not_lt.mpr hearlier)
  · rfl

/-- Following the candles after the checkpoint. -/
theorem Paired.follow (h : Paired schedule b b') (hgoing : Going t b)
    (halike : b'.components.Alike b.components)
    (hok : candles.foldlM (Backtest.processCandle sqrt interval) b = .ok b₁) {checkpointTs : ℕ}
    (hlater : ∀ candle ∈ candles, (b.engines candle.symbol).isSome = true →
      checkpointTs < candle.epochTimestamp)
    (hpasses : b.Passes sqrt interval schedule candles) :
    ∃ b₁', candles.foldlM (Backtest.resumeCandle sqrt interval checkpointTs) b' = .ok b₁' ∧
      b₁'.components.Alike b₁.components := by
  induction candles generalizing b b' schedule with
  | nil =>
    rw [List.foldlM_nil, pure_eq_ok] at hok
    rw [← hok]
    exact ⟨b', rfl, halike⟩
  | cons candle candles ih =>
    rw [List.forall_mem_cons] at hlater
    rw [List.foldlM_cons, bind_eq_ok] at hok
    obtain ⟨b₂, hcandle, hok⟩ := hok
    unfold Backtest.Passes at hpasses
    rw [hcandle] at hpasses
    obtain ⟨haddable, hvalid, hpasses⟩ := hpasses
    obtain ⟨b₂', hcandle', hpaired, halike₂⟩ :=
      h.processCandle hgoing halike hcandle haddable hvalid
    have hlater₂ : ∀ later ∈ candles, (b₂.engines later.symbol).isSome = true →
        checkpointTs < later.epochTimestamp := by
      intro later hmem
      rw [isSome_processCandle hcandle]
      exact hlater.2 later hmem
    obtain ⟨b₁', hok', halike₁⟩ :=
      ih hpaired (hgoing.step hcandle) halike₂ hok hlater₂ hpasses
    refine ⟨b₁', ?_, halike₁⟩
    rw [List.foldlM_cons, bind_eq_ok]
    refine ⟨b₂', ?_, hok'⟩
    rw [resumeCandle_eq, hcandle']
    intro hsome
    apply hlater.1
    cases hengines : b.engines candle.symbol with
    | none =>
      rw [h.engines_none hengines] at hsome
      cases hsome
    | some engines => rfl

end Runs

end Backtest

namespace Configuration

variable {config : Configuration}
  {queue : PriorityQueue (Stream MarketCandle) StreamEntry.key} {sqrt : Double → Double}
  {specs : List StreamSpec} {clock : ℕ → ℕ}

/-- The candles of all streams, in the order in which they are handed out. -/
def candles (queue : PriorityQueue (Stream MarketCandle) StreamEntry.key)
    (specs : List StreamSpec) : List MarketCandle :=
  @mergedStreams _ MarketCandle.epochTimestamp queue (specs.map StreamSpec.candles)

/-- The dispatch hands out the merged candles one after the other. -/
theorem dispatchAll_eq (handle : Backtest → MarketCandle → Except String Backtest)
    (b : Backtest) :
    dispatchAll queue specs handle b = (candles queue specs).foldlM handle b :=
  dispatch_eq_foldlM _ _ _ _ _

/-- At the start the symbols of the streams have the configured engines. -/
theorem engines_start (file : Option StateSerializer.Checkpoint) (symbol : String) :
    (config.start specs clock file).engines symbol =
      if symbol ∈ specs.map StreamSpec.symbol then some (config.engines symbol) else none :=
  rfl

/-- The components are kept at the start. -/
theorem kept_components : Components.Kept config.components config.components := by
  have hrisk : config.components.risk.Configured config.components.risk := ⟨rfl, rfl, rfl, rfl⟩
  have hregime : config.components.regime.Configured config.components.regime :=
    ⟨rfl, rfl, rfl, rfl, rfl⟩
  exact ⟨⟨hrisk, hregime, ⟨rfl, rfl, rfl, rfl, rfl, rfl⟩⟩, PortfolioManager.consistent_fresh, rfl,
    rfl, rfl, rfl, ⟨rfl, rfl, rfl⟩, rfl, rfl⟩

/-- A backtest as it is constructed goes on to its first candle. -/
theorem going_start (file : Option StateSerializer.Checkpoint) :
    Backtest.Going config.components (config.start specs clock file) := by
  refine ⟨kept_components, fun symbol engines hengines => ?_⟩
  rw [engines_start] at hengines
  split at hengines
  · rw [Option.mem_some_iff] at hengines
    rw [← hengines]
    rfl
  · cases hengines

/-- Objects that were restored go on with engines as they were constructed. -/
theorem paired_restored (clock clock' : ℕ → ℕ) (file : Option StateSerializer.Checkpoint)
    (components : Components) :
    Backtest.Paired (fun _ => 0) (config.start specs clock none)
      { config.start specs clock' file with components := components } := by
  refine ⟨fun symbol => ?_, fun symbol engines hengines => ?_⟩
  · change Option.Rel _ ((config.start specs clock none).engines symbol)
      ((config.start specs clock' file).engines symbol)
    rw [engines_start, engines_start]
    split
    · exact .some (.refl _)
    · exact .none
  · change engines ∈ (config.start specs clock' file).engines symbol at hengines
    rw [engines_start] at hengines
    split at hengines
    · rw [Option.mem_some_iff] at hengines
      rw [← hengines]
      rfl
    · cases hengines

/-- A checkpoint that an uninterrupted run has written at one of its candles. -/
structure Checkpointed (config : Configuration)
    (queue : PriorityQueue (Stream MarketCandle) StreamEntry.key) (sqrt : Double → Double)
    (specs : List StreamSpec) (clock : ℕ → ℕ) (earlier : List MarketCandle)
    (candle : MarketCandle) (later : List MarketCandle) (saved : Backtest)
    (checkpoint : StateSerializer.Checkpoint) : Prop where
  order : candles queue specs = earlier ++ candle :: later
  written : ∃ prior engines, earlier.foldlM
      (Backtest.processCandle sqrt config.checkpointIntervalSec) (config.start specs clock none) =
        .ok prior ∧
    prior.engines candle.symbol = some engines ∧
    EventLoop.checkpointDue config.checkpointIntervalSec engines.lastCheckpointTs
      candle.epochTimestamp = true ∧
    prior.processCandle sqrt config.checkpointIntervalSec candle = .ok saved
  file : saved.file = some checkpoint

variable {earlier later : List MarketCandle} {candle : MarketCandle} {saved final : Backtest}
  {checkpoint : StateSerializer.Checkpoint}

/-- The file says what the components were when it was written. -/
theorem Checkpointed.saveValues
    (h : config.Checkpointed queue sqrt specs clock earlier candle later saved checkpoint) :
    ∃ now, saved.components.saveValues candle.epochTimestamp now = .ok checkpoint := by
  obtain ⟨prior, engines, -, hengines, hdue, hsaved⟩ := h.written
  obtain ⟨⟨c, traded⟩, htrade, hleaves⟩ := (Backtest.processCandle_eq_ok hengines).mp hsaved
  rw [if_pos hdue, Backtest.writeCheckpoint_eq_ok] at hleaves
  obtain ⟨written, hsave, rfl⟩ := hleaves
  have hfile := h.file
  dsimp only at hfile
  rw [Option.some.injEq] at hfile
  rw [← hfile]
  exact ⟨_, hsave⟩

/-- The candles up to the checkpoint, and those after it. -/
theorem Checkpointed.foldlM
    (h : config.Checkpointed queue sqrt specs clock earlier candle later saved checkpoint) :
    (earlier ++ [candle]).foldlM (Backtest.processCandle sqrt config.checkpointIntervalSec)
      (config.start specs clock none) = .ok saved := by
  obtain ⟨prior, -, hprior, -, -, hsaved⟩ := h.written
  rw [List.foldlM_append, bind_eq_ok]
  refine ⟨prior, hprior, ?_⟩
  rw [List.foldlM_cons, bind_eq_ok]
  exact ⟨saved, hsaved, rfl⟩

/-- **Resumption.** A run that is resumed from a checkpoint ends as the uninterrupted one, when
no later candle of a symbol with engines has the time of the checkpoint, the file is within the
limits of its readers, the amounts of the saved portfolio come back from their doubles, and after
each later candle the positions can be added up in any order and a checkpoint that is due in the
resumed run can be written. -/
theorem resume_equivalent
    (hsorted : ∀ spec ∈ specs,
      spec.candles.Pairwise fun a b => a.epochTimestamp ≤ b.epochTimestamp)
    (h : config.Checkpointed queue sqrt specs clock earlier candle later saved checkpoint)
    (hrun : config.run queue sqrt specs clock = .ok final)
    (hlater : ∀ other ∈ later, other.symbol ∈ specs.map StreamSpec.symbol →
      other.epochTimestamp ≠ candle.epochTimestamp)
    (hreadable : checkpoint.Readable) (hsteady : saved.components.portfolio.Steady)
    (hpasses : saved.Passes sqrt config.checkpointIntervalSec (fun _ => 0) later)
    (clock' : ℕ → ℕ) :
    ∃ resumed, config.resume queue sqrt specs clock' checkpoint = .ok resumed ∧
      resumed.components.portfolio.Same final.components.portfolio ∧
      resumed.components.portfolio.tradeLog = final.components.portfolio.tradeLog ∧
      ∀ now, resumed.components.risk.Same now final.components.risk := by
  have horder := @mergedStreams_sorted _ MarketCandle.epochTimestamp queue
    (specs.map StreamSpec.candles) (by
      intro elements helements
      obtain ⟨spec, hspec, rfl⟩ := List.mem_map.mp helements
      exact hsorted spec hspec)
  change (candles queue specs).Pairwise _ at horder
  rw [h.order, List.pairwise_append, List.pairwise_cons] at horder
  obtain ⟨-, ⟨hafter, -⟩, hbefore⟩ := horder
  have hsplit : candles queue specs = (earlier ++ [candle]) ++ later := by
    rw [h.order, List.append_assoc, List.singleton_append]
  have hgoing := (going_start none).run h.foldlM
  have hrest : later.foldlM (Backtest.processCandle sqrt config.checkpointIntervalSec) saved =
      .ok final := by
    rw [run, dispatchAll_eq, hsplit, List.foldlM_append, bind_eq_ok] at hrun
    obtain ⟨b, hb, hrest⟩ := hrun
    rw [h.foldlM, Except.ok.injEq] at hb
    rwa [hb]
  obtain ⟨now, hsave⟩ := h.saveValues
  obtain ⟨loaded, regime, allocator, hreload, hts, hattached, halike⟩ :=
    hgoing.kept.reload hsave hreadable hsteady
  have hpaired := @paired_restored config specs clock clock' (some checkpoint)
    ⟨loaded.portfolio, loaded.risk, regime, allocator⟩
  have hearlier : ∀ other ∈ earlier ++ [candle], other.epochTimestamp ≤ candle.epochTimestamp := by
    intro other hother
    rcases List.mem_append.mp hother with hmem | hmem
    · exact hbefore other hmem candle List.mem_cons_self
    · rw [List.mem_singleton.mp hmem]
  obtain ⟨warm, hwarm, hpaired, hcomponents⟩ :=
    hpaired.warmUps (going_start none) h.foldlM hearlier
  have hlater' : ∀ other ∈ later, (saved.engines other.symbol).isSome = true →
      candle.epochTimestamp < other.epochTimestamp := by
    intro other hother hsome
    rw [Backtest.isSome_processCandles h.foldlM, engines_start] at hsome
    refine lt_of_le_of_ne (hafter other hother) (Ne.symm (hlater other hother ?_))
    by_contra hsymbol
    rw [if_neg hsymbol] at hsome
    cases hsome
  dsimp only at hcomponents
  rw [← hcomponents] at halike
  obtain ⟨resumed, hresumed, halike⟩ := hpaired.follow hgoing halike hrest hlater' hpasses
  refine ⟨resumed, ?_, halike.portfolio, halike.portfolio.tradeLog, fun now =>
    halike.risk.same now⟩
  have hreload' : StateSerializer.reload
      (config.start specs clock' (some checkpoint)).components.risk
      (config.start specs clock' (some checkpoint)).components.attached checkpoint =
      some loaded := hreload
  unfold resume
  dsimp only
  rw [hreload']
  dsimp only
  rw [dispatchAll_eq, hsplit, List.foldlM_append, bind_eq_ok, hattached, hts]
  exact ⟨warm, hwarm, hresumed⟩

/-- The checkpoint that is written at a candle, if one is, with the backtest after the candle. -/
def checkpointAt (config : Configuration) (sqrt : Double → Double) (specs : List StreamSpec)
    (clock : ℕ → ℕ) (earlier : List MarketCandle) (candle : MarketCandle) :
    Option (Backtest × StateSerializer.Checkpoint) := do
  let prior ← (earlier.foldlM (Backtest.processCandle sqrt config.checkpointIntervalSec)
    (config.start specs clock none)).toOption
  let engines ← prior.engines candle.symbol
  if EventLoop.checkpointDue config.checkpointIntervalSec engines.lastCheckpointTs
      candle.epochTimestamp = true then
    let saved ← (prior.processCandle sqrt config.checkpointIntervalSec candle).toOption
    let checkpoint ← saved.file
    return (saved, checkpoint)
  else none

/-- What the search for a checkpoint finds was written by the uninterrupted run. -/
theorem checkpointed_of_checkpointAt
    (horder : candles queue specs = earlier ++ candle :: later)
    (h : config.checkpointAt sqrt specs clock earlier candle = some (saved, checkpoint)) :
    config.Checkpointed queue sqrt specs clock earlier candle later saved checkpoint := by
  have htoOption {α : Type} {x : Except String α} {a : α} (hx : x.toOption = some a) :
      x = .ok a := by
    cases x with
    | error e => cases hx
    | ok b =>
      rw [Except.toOption, Option.some.injEq] at hx
      rw [hx]
  simp only [checkpointAt, Option.bind_eq_bind, Option.bind_eq_some_iff] at h
  obtain ⟨prior, hprior, engines, hengines, h⟩ := h
  by_cases hdue : EventLoop.checkpointDue config.checkpointIntervalSec engines.lastCheckpointTs
      candle.epochTimestamp = true
  · rw [if_pos hdue, Option.bind_eq_some_iff] at h
    obtain ⟨saved', hsaved, h⟩ := h
    rw [Option.bind_eq_some_iff] at h
    obtain ⟨checkpoint', hfile, hpair⟩ := h
    rw [Option.pure_def, Option.some.injEq, Prod.mk.injEq] at hpair
    obtain ⟨rfl, rfl⟩ := hpair
    exact ⟨horder, ⟨prior, engines, htoOption hprior, hengines, hdue, htoOption hsaved⟩, hfile⟩
  · rw [if_neg hdue] at h
    cases h

/-- A candle that has the price 100 throughout. -/
def flatCandle (symbol : String) (epochTimestamp : ℕ) : MarketCandle :=
  ⟨symbol, epochTimestamp, .finite 100, .finite 100, .finite 100⟩

/-- A queue of streams that hands out the first one of the earliest. -/
def listQueue : PriorityQueue (Stream MarketCandle) StreamEntry.key :=
  .list StreamEntry.key

/-- One stream over three days. -/
def daily : List StreamSpec :=
  [⟨"A", [flatCandle "A" 1, flatCandle "A" 86401, flatCandle "A" 172801]⟩]

/-- A run over three days is resumed from the checkpoint of the second. -/
theorem resume_daily : ∃ saved final checkpoint resumed,
    ({} : Configuration).Checkpointed listQueue id daily id [flatCandle "A" 1]
      (flatCandle "A" 86401) [flatCandle "A" 172801] saved checkpoint ∧
    ({} : Configuration).run listQueue id daily id = .ok final ∧
    ({} : Configuration).resume listQueue id daily id checkpoint = .ok resumed ∧
    resumed.components.portfolio.Same final.components.portfolio := by
  have hpasses : ((({} : Configuration).checkpointAt id daily id [flatCandle "A" 1]
      (flatCandle "A" 86401)).any fun p => decide (p.2.Readable ∧
        p.1.components.portfolio.Steady ∧
        p.1.Passes id 86400 (fun _ => 0) [flatCandle "A" 172801])) = true := by
    decide +kernel
  have hrun : (({} : Configuration).run listQueue id daily id).isOk = true := by decide +kernel
  have hsorted : ∀ spec ∈ daily,
      spec.candles.Pairwise fun a b => a.epochTimestamp ≤ b.epochTimestamp := by decide
  have horder : candles listQueue daily =
      [flatCandle "A" 1] ++ flatCandle "A" 86401 :: [flatCandle "A" 172801] := by decide +kernel
  obtain ⟨⟨saved, checkpoint⟩, hwritten, hpasses⟩ := (Option.any_eq_true ..).mp hpasses
  obtain ⟨hreadable, hsteady, hpasses⟩ := of_decide_eq_true hpasses
  have h := checkpointed_of_checkpointAt horder hwritten
  cases hfinal : ({} : Configuration).run listQueue id daily id with
  | error e =>
    rw [hfinal] at hrun
    cases hrun
  | ok final =>
    obtain ⟨resumed, hresumed, hsame, -⟩ := resume_equivalent hsorted h hfinal (by decide)
      hreadable hsteady hpasses id
    exact ⟨saved, final, checkpoint, resumed, h, rfl, hresumed, hsame⟩

/-- Two streams that meet at the time of a checkpoint. -/
def meeting : List StreamSpec :=
  [⟨"A", [flatCandle "A" 1, flatCandle "A" 86401]⟩,
    ⟨"B", [flatCandle "B" 2, flatCandle "B" 86401]⟩]

/-- The candle of the second stream that has the time of the checkpoint is taken for one that
was traded before it: the resumed run ends without the return of that candle. -/
theorem resume_meeting_skips : ∃ saved final checkpoint resumed,
    (∀ spec ∈ meeting,
      spec.candles.Pairwise fun a b => a.epochTimestamp ≤ b.epochTimestamp) ∧
    ({} : Configuration).Checkpointed listQueue id meeting id
      [flatCandle "A" 1, flatCandle "B" 2] (flatCandle "A" 86401) [flatCandle "B" 86401] saved
      checkpoint ∧
    ({} : Configuration).run listQueue id meeting id = .ok final ∧
    ({} : Configuration).resume listQueue id meeting id checkpoint = .ok resumed ∧
    ∀ now, ¬resumed.components.risk.Same now final.components.risk := by
  have horder : candles listQueue meeting = [flatCandle "A" 1, flatCandle "B" 2] ++
      flatCandle "A" 86401 :: [flatCandle "B" 86401] := by decide +kernel
  have hresumes : ((({} : Configuration).checkpointAt id meeting id
      [flatCandle "A" 1, flatCandle "B" 2] (flatCandle "A" 86401)).any fun p =>
        match ({} : Configuration).resume listQueue id meeting id p.2 with
        | .error _ => false
        | .ok resumed => decide ((resumed.components.risk.assetStates.lookup "B").map
          (·.returnWindow) = some [])) = true := by
    decide +kernel
  have hruns : (match ({} : Configuration).run listQueue id meeting id with
      | .error _ => false
      | .ok final => decide ((final.components.risk.assetStates.lookup "B").map
        (·.returnWindow) = some [.finite 0])) = true := by
    decide +kernel
  obtain ⟨⟨saved, checkpoint⟩, hwritten, hresumes⟩ := (Option.any_eq_true ..).mp hresumes
  have h := checkpointed_of_checkpointAt horder hwritten
  cases hresumed : ({} : Configuration).resume listQueue id meeting id checkpoint with
  | error e =>
    dsimp only at hresumes
    rw [hresumed] at hresumes
    cases hresumes
  | ok resumed =>
    cases hfinal : ({} : Configuration).run listQueue id meeting id with
    | error e =>
      rw [hfinal] at hruns
      cases hruns
    | ok final =>
      dsimp only at hresumes
      rw [hresumed] at hresumes
      rw [hfinal] at hruns
      refine ⟨saved, final, checkpoint, resumed, by decide, h, rfl, hresumed, fun now hsame => ?_⟩
      have hwindow := of_decide_eq_true hresumes
      rw [hsame.assetStates, of_decide_eq_true hruns] at hwindow
      cases hwindow

end Configuration

end TradeBot
