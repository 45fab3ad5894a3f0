import TradeBot.Checkpoint.Sections
import TradeBot.FinancialDoubles
import TradeBot.PortfolioRecords

/-!
# Round trips of the sections

Each section reader gives back what its writer wrote and leaves the bytes that follow, for
snapshots within the limits of the readers. A map comes back with the same entries, and
the order in which the written map listed them leaves no trace in the bytes.
-/

namespace TradeBot

open Library Financial

namespace StateSerializer

/-- A string as a component can hold it: its characters are bytes. -/
structure Text (s : String) : Prop where
  bytes : IsBytes s
  length_lt : s.length < 2 ^ 64

/-- A number as a snapshot holds it: the finite value of a 64-bit pattern. -/
structure Number (value : Double) : Prop where
  binary64 : value.IsBinary64
  finite : value.isFinite = true

/-- A list of numbers. -/
structure Numbers (values : List Double) : Prop where
  length_lt : values.length < 2 ^ 64
  number : ∀ value ∈ values, Number value

/-- A word of 64 bits. -/
abbrev Word64 (n : ℕ) : Prop := n < 2 ^ 64

/-- A value of the source's `int`. -/
structure Int32Value (n : ℤ) : Prop where
  le : -2 ^ 31 ≤ n
  lt : n < 2 ^ 31

/-- A position of a snapshot whose fields have the values of their types. -/
structure PositionTyped (p : PortfolioManager.PositionSnapshot) : Prop where
  symbol : Text p.position.symbol
  entryTimestamp : Word64 p.entryTimestamp
  strategyId : Text p.strategyId

/-- A record of the trade log whose fields have the values of their types. -/
structure TradeTyped (t : TradeRecord) : Prop where
  symbol : Text t.symbol
  openTimestamp : Word64 t.openTimestamp
  closeTimestamp : Word64 t.closeTimestamp
  strategyId : Text t.strategyId

/-- A resting order whose fields have the values of their types. -/
structure OrderTyped (o : OrderRecord) : Prop where
  symbol : Text o.symbol
  placedTimestamp : Word64 o.placedTimestamp
  orderId : Word64 o.orderId

/-- A portfolio snapshot whose fields have the values of their types. -/
structure PortfolioTyped (s : PortfolioManager.Snapshot) : Prop where
  currentDrawdown : Number s.currentDrawdown
  maxDrawdown : Number s.maxDrawdown
  tradeCount : Int32Value s.tradeCount
  roundTripCount : Int32Value s.roundTripCount
  positions_length : s.positions.length < 2 ^ 64
  positions : ∀ p ∈ s.positions, PositionTyped p
  tradeLog_length : s.tradeLog.length < 2 ^ 64
  tradeLog : ∀ t ∈ s.tradeLog, TradeTyped t
  pendingOrders_length : s.pendingOrders.length < 2 ^ 64
  pendingOrders : ∀ o ∈ s.pendingOrders, OrderTyped o
  nextOrderId : Word64 s.nextOrderId

/-- The amounts of a position of a snapshot come back from their units. -/
structure PositionSteady (p : PortfolioManager.PositionSnapshot) : Prop where
  quantity : p.position.quantity.Steady .quantity
  entryPrice : p.position.entryPrice.Steady .price
  entryFee : p.entryFee.Steady .money
  costBasis : p.costBasis.Steady .money
  lastMarkPrice : p.lastMarkPrice.Steady .price

/-- The amounts of a record of the trade log come back from their units. -/
structure TradeSteady (t : TradeRecord) : Prop where
  entryPrice : t.entryPrice.Steady .price
  exitPrice : t.exitPrice.Steady .price
  quantity : t.quantity.Steady .quantity
  totalFees : t.totalFees.Steady .money
  realizedPnL : t.realizedPnL.Steady .money
  grossPnL : t.grossPnL.Steady .money

/-- The amounts of a resting order come back from their units. -/
structure OrderSteady (o : OrderRecord) : Prop where
  limitPrice : o.limitPrice.Steady .price
  trailOffset : o.trailOffset.Steady .price
  trailBest : o.trailBest.Steady .price
  quantity : o.quantity.Steady .quantity
  capitalToCommit : o.capitalToCommit.Steady .money

/-- The amounts of a portfolio snapshot come back from their units. -/
structure PortfolioSteady (s : PortfolioManager.Snapshot) : Prop where
  cash : s.cash.Steady .money
  unrealizedPnL : s.unrealizedPnL.Steady .money
  totalEquity : s.totalEquity.Steady .money
  maxEquity : s.maxEquity.Steady .money
  totalFeesPaid : s.totalFeesPaid.Steady .money
  positions : ∀ p ∈ s.positions, PositionSteady p
  tradeLog : ∀ t ∈ s.tradeLog, TradeSteady t
  pendingOrders : ∀ o ∈ s.pendingOrders, OrderSteady o

/-- An asset state under a key: it names the key as its symbol. -/
structure AssetTyped (key : String) (a : AssetReturnState) : Prop where
  text : Text key
  key_ne : key ≠ ""
  symbol : a.symbol = key
  returnWindow : Numbers a.returnWindow
  prevPrice : Number a.prevPrice
  positionValue : Number a.positionValue

/-- A synchronised position under a key. -/
structure SyncedTyped (key : String) (quantity : Double) : Prop where
  text : Text key
  key_ne : key ≠ ""
  quantity : Number quantity

/-- A risk snapshot whose fields have the values of their types. -/
structure RiskTyped (s : RiskMonitor.Snapshot) : Prop where
  configuredMaxPositions : Word64 s.configuredMaxPositions
  configuredVarLimit : Number s.configuredVarLimit
  configuredVarWindow : Word64 s.configuredVarWindow
  totalDrawdown : Number s.totalDrawdown
  dailyDrawdown : Number s.dailyDrawdown
  prevEquity : Number s.prevEquity
  returnWindow : Numbers s.returnWindow
  currentVaR95 : Number s.currentVaR95
  returnStdDev : Number s.returnStdDev
  assetStates_length : s.assetStates.entries.length < 2 ^ 64
  assetStates : ∀ e ∈ s.assetStates.entries, AssetTyped e.1 e.2
  covarianceMatrix : Numbers s.covarianceMatrix
  assetOrder_length : s.assetOrder.length < 2 ^ 64
  assetOrder : ∀ symbol ∈ s.assetOrder, Text symbol
  lastLatencyMs : s.lastLatencyMs < 2 ^ 32
  syncedPositions_length : s.syncedPositions.entries.length < 2 ^ 64
  syncedPositions : ∀ e ∈ s.syncedPositions.entries, SyncedTyped e.1 e.2
  effectiveMaxPositions : Word64 s.effectiveMaxPositions
  effectiveVarLimit : Number s.effectiveVarLimit

/-- A regime state whose fields have the values of their types. -/
structure RegimeTyped (s : RegimeDetector.State) : Prop where
  smoothTR : Number s.smoothTR
  smoothDMPlus : Number s.smoothDMPlus
  smoothDMMinus : Number s.smoothDMMinus
  adx : Number s.adx
  adxObservations : Int32Value s.adxObservations
  returnWindow : Numbers s.returnWindow
  prevClose : Number s.prevClose
  variance : Number s.variance
  prevHigh : Number s.prevHigh
  prevLow : Number s.prevLow

/-- The performance of a strategy under a key: it names the key as its strategy. -/
structure PhiStateTyped (key : String) (state : PhiState) : Prop where
  text : Text key
  key_ne : key ≠ ""
  strategyId : state.strategyId = key
  pnlWindow : Numbers state.pnlWindow
  phi : Number state.phi

/-- The performance of all strategies. -/
structure PhiTyped (states : KeyedMap String PhiState) : Prop where
  length_lt : states.entries.length < 2 ^ 64
  states : ∀ e ∈ states.entries, PhiStateTyped e.1 e.2

section Limits

/-- The strings of a position are within the limit of the reader. -/
def PositionLimits (p : PortfolioManager.PositionSnapshot) : Prop :=
  p.position.symbol.length ≤ maxString ∧ p.strategyId.length ≤ maxString

/-- The strings of a record of the trade log are within the limit of the reader. -/
def TradeLimits (t : TradeRecord) : Prop :=
  t.symbol.length ≤ maxString ∧ t.strategyId.length ≤ maxString

/-- The string of a resting order is within the limit of the reader. -/
def OrderLimits (o : OrderRecord) : Prop := o.symbol.length ≤ maxString

/-- A list and what its entries need are within the limits of the reader. -/
def ListLimits {α : Type} (limit : α → Prop) (xs : List α) : Prop :=
  xs.length ≤ maxItems ∧ ∀ x ∈ xs, limit x

/-- A list of numbers is within the limit of the reader. -/
def NumbersLimits (values : List Double) : Prop := values.length ≤ maxItems

/-- The strings and lists of a portfolio snapshot are within the limits of the reader. -/
def PortfolioLimits (s : PortfolioManager.Snapshot) : Prop :=
  ListLimits PositionLimits s.positions ∧ ListLimits TradeLimits s.tradeLog ∧
    ListLimits OrderLimits s.pendingOrders

/-- The key and the list of an asset state are within the limits of the reader. -/
def AssetLimits (e : Sigma fun _ : String => AssetReturnState) : Prop :=
  e.1.length ≤ maxString ∧ NumbersLimits e.2.returnWindow

/-- The strings and lists of a risk snapshot are within the limits of the reader. -/
def RiskLimits (s : RiskMonitor.Snapshot) : Prop :=
  NumbersLimits s.returnWindow ∧ ListLimits AssetLimits s.assetStates.entries ∧
    NumbersLimits s.covarianceMatrix ∧
    ListLimits (fun symbol => symbol.length ≤ maxString) s.assetOrder ∧
    ListLimits (fun e => e.1.length ≤ maxString) s.syncedPositions.entries

/-- The list of a regime state is within the limit of the reader. -/
def RegimeLimits (s : RegimeDetector.State) : Prop := NumbersLimits s.returnWindow

/-- The key and the list of a strategy are within the limits of the reader. -/
def PhiStateLimits (e : Sigma fun _ : String => PhiState) : Prop :=
  e.1.length ≤ maxString ∧ NumbersLimits e.2.pnlWindow

/-- The strings and lists of the strategies are within the limits of the reader. -/
def PhiLimits (states : KeyedMap String PhiState) : Prop :=
  ListLimits PhiStateLimits states.entries

end Limits

section Fields

/-- A double comes back from its units exactly when it is steady. -/
theorem toDouble_alignedUnits_iff {tag : Tag} {value : Double} :
    (⟨alignedUnits (normalized tag value .rejectUnaligned)⟩ : Value tag).toDouble = value ↔
      value.Steady tag := by
  constructor
  · intro hback
    cases hread : normalized tag value .rejectUnaligned with
    | some v =>
      rw [hread, alignedUnits, Option.elim_some] at hback
      exact ⟨v, hread, hback⟩
    | none =>
      -- the double would be that of zero, which can be read
      rw [hread, alignedUnits, Option.elim_none] at hback
      have hzero : (0 : Value tag).toDouble = value := hback
      rw [← hzero, survives_zero.read (by decide)] at hread
      cases hread
  · rintro ⟨v, hread, hdouble⟩
    rw [hread, alignedUnits, Option.elim_some]
    exact hdouble

/-- A value that is read of its rewritten double survives. -/
theorem survives_of_rewritten {tag : Tag} {value : Value tag}
    (h : normalized tag
      (⟨alignedUnits (normalized tag value.toDouble .rejectUnaligned)⟩ : Value tag).toDouble
      .rejectUnaligned = some value) : value.Survives := by
  cases hread : normalized tag value.toDouble .rejectUnaligned with
  | some other =>
    rw [hread, alignedUnits, Option.elim_some] at h
    exact survives_of_read_back hread h
  | none =>
    -- what is not read is written as zero, which is read as zero
    rw [hread, alignedUnits, Option.elim_none] at h
    have hzero : normalized tag (0 : Value tag).toDouble .rejectUnaligned = some value := h
    rw [survives_zero.read (by decide), Option.some.injEq] at hzero
    rw [← hzero]
    exact survives_zero

/-- A text is read back when it is within the limit of the reader. -/
theorem Text.reads {s : String} (h : Text s) :
    Reader.ReadsWithin (s.length ≤ maxString) Reader.string (Writer.string s) s :=
  readsWithin_string h.bytes h.length_lt

/-- A finite double is read back from its 64 bits. -/
theorem Number.reads {value : Double} (h : Number value) :
    Reader.number.ReadsBack (Writer.number value) value :=
  readsBack_number h.binary64 h.finite

/-- A value of the source's `int` is read back. -/
theorem Int32Value.reads {n : ℤ} (h : Int32Value n) : Reader.i32.ReadsBack (Writer.i32 n) n :=
  readsBack_i32 h.le h.lt

/-- A list is read back entry by entry, when it and all its entries are within the limits. -/
theorem readsWithin_list {α γ : Type} {limit : α → Prop} {item : Reader UInt8 String γ}
    {write : α → List UInt8} {f : α → γ} {xs : List α} (hlength : xs.length < 2 ^ 64)
    (h : ∀ x ∈ xs, Reader.ReadsWithin (limit x) item (write x) (f x)) :
    Reader.ReadsWithin (ListLimits limit xs) (readList item)
      (Writer.u64 xs.length ++ xs.flatMap write) (xs.map f) :=
  (readsWithin_count hlength).bind (Reader.readsWithin_many h)

/-- A list of numbers is read back when it is within the limit of the reader. -/
theorem Numbers.reads {values : List Double} (h : Numbers values) :
    Reader.ReadsWithin (NumbersLimits values) readDoubles (writeDoubles values) values := by
  have hnumbers := readsWithin_list h.length_lt fun value hvalue =>
    (h.number value hvalue).reads.within
  rw [List.map_id'] at hnumbers
  exact hnumbers.congr (by simp [ListLimits, NumbersLimits])

/-- A map is read back with its sorted entries. -/
theorem readsWithin_map {α : Type} {limit : (Sigma fun _ : String => α) → Prop}
    {entry : Reader UInt8 String (String × α)}
    {write : (Sigma fun _ : String => α) → List UInt8} {m : KeyedMap String α}
    (hlength : m.entries.length < 2 ^ 64)
    (h : ∀ e ∈ m.entries, Reader.ReadsWithin (limit e) entry (write e) (e.1, e.2)) :
    Reader.ReadsWithin (ListLimits limit m.entries) (readMap entry)
      (Writer.u64 (KeyedMap.sortedEntries m).length ++ (KeyedMap.sortedEntries m).flatMap write)
      (KeyedMap.insertAll ∅ (KeyedMap.sortedEntries m)) := by
  have hperm := KeyedMap.sortedEntries_perm m
  have hentries : Reader.ReadsWithin (∀ e ∈ KeyedMap.sortedEntries m, limit e)
      (Reader.entries entry "" (KeyedMap.sortedEntries m).length ∅)
      ((KeyedMap.sortedEntries m).flatMap write)
      (KeyedMap.insertAll ∅ (KeyedMap.sortedEntries m)) :=
    Reader.readsWithin_entries ((List.perm_nodupKeys hperm).mpr m.nodupKeys)
      (fun _ _ => AList.notMem_empty _) fun e he => h e (hperm.mem_iff.mp he)
  rw [← hperm.length_eq] at hlength
  refine ((readsWithin_count hlength).bind hentries).congr ?_
  rw [ListLimits, hperm.length_eq]
  simp only [hperm.mem_iff]

end Fields

section Portfolio

/-- What a position is read back as: its amounts have gone through their units. -/
def rewrittenPosition (p : PortfolioManager.PositionSnapshot) :
    PortfolioManager.PositionSnapshot :=
  { p with
    position := { p.position with
      quantity := (⟨quantityUnits p.position.quantity⟩ : Quantity).toDouble
      entryPrice := (⟨priceUnits p.position.entryPrice⟩ : Price).toDouble }
    entryFee := (⟨moneyUnits p.entryFee⟩ : Money).toDouble
    costBasis := (⟨moneyUnits p.costBasis⟩ : Money).toDouble
    lastMarkPrice := (⟨priceUnits p.lastMarkPrice⟩ : Price).toDouble }

/-- What a record of the trade log is read back as. -/
def rewrittenTrade (t : TradeRecord) : TradeRecord :=
  { t with
    entryPrice := (⟨priceUnits t.entryPrice⟩ : Price).toDouble
    exitPrice := (⟨priceUnits t.exitPrice⟩ : Price).toDouble
    quantity := (⟨quantityUnits t.quantity⟩ : Quantity).toDouble
    totalFees := (⟨moneyUnits t.totalFees⟩ : Money).toDouble
    realizedPnL := (⟨moneyUnits t.realizedPnL⟩ : Money).toDouble
    grossPnL := (⟨moneyUnits t.grossPnL⟩ : Money).toDouble }

/-- What a resting order is read back as. -/
def rewrittenOrder (o : OrderRecord) : OrderRecord :=
  { o with
    limitPrice := (⟨priceUnits o.limitPrice⟩ : Price).toDouble
    trailOffset := (⟨priceUnits o.trailOffset⟩ : Price).toDouble
    trailBest := (⟨priceUnits o.trailBest⟩ : Price).toDouble
    quantity := (⟨quantityUnits o.quantity⟩ : Quantity).toDouble
    capitalToCommit := (⟨moneyUnits o.capitalToCommit⟩ : Money).toDouble }

/-- What a portfolio snapshot is read back as. -/
def rewrittenPortfolio (s : PortfolioManager.Snapshot) : PortfolioManager.Snapshot :=
  { s with
    cash := (⟨moneyUnits s.cash⟩ : Money).toDouble
    positions := s.positions.map rewrittenPosition
    unrealizedPnL := (⟨moneyUnits s.unrealizedPnL⟩ : Money).toDouble
    totalEquity := (⟨moneyUnits s.totalEquity⟩ : Money).toDouble
    maxEquity := (⟨moneyUnits s.maxEquity⟩ : Money).toDouble
    totalFeesPaid := (⟨moneyUnits s.totalFeesPaid⟩ : Money).toDouble
    tradeLog := s.tradeLog.map rewrittenTrade
    pendingOrders := s.pendingOrders.map rewrittenOrder }

/-- A position whose amounts come back from their units is read back as it was. -/
theorem rewrittenPosition_eq {p : PortfolioManager.PositionSnapshot} (h : PositionSteady p) :
    rewrittenPosition p = p := by
  obtain ⟨position, entryTimestamp, entryFee, costBasis, lastMarkPrice, strategyId⟩ := p
  simp only [rewrittenPosition, PortfolioManager.PositionSnapshot.mk.injEq, true_and, and_true]
  refine ⟨?_, toDouble_alignedUnits_iff.mpr h.entryFee, toDouble_alignedUnits_iff.mpr h.costBasis,
    toDouble_alignedUnits_iff.mpr h.lastMarkPrice⟩
  rw [show (⟨quantityUnits position.quantity⟩ : Quantity).toDouble = position.quantity from
      toDouble_alignedUnits_iff.mpr h.quantity,
    show (⟨priceUnits position.entryPrice⟩ : Price).toDouble = position.entryPrice from
      toDouble_alignedUnits_iff.mpr h.entryPrice]

/-- A record of the trade log is read back as it was exactly when its amounts come back. -/
theorem rewrittenTrade_eq_iff {t : TradeRecord} : rewrittenTrade t = t ↔ TradeSteady t := by
  obtain ⟨symbol, openTimestamp, closeTimestamp, entryPrice, exitPrice, quantity, totalFees,
    realizedPnL, grossPnL, strategyId⟩ := t
  simp only [rewrittenTrade, TradeRecord.mk.injEq, true_and, and_true]
  constructor
  · rintro ⟨hentry, hexit, hquantity, hfees, hrealized, hgross⟩
    exact ⟨toDouble_alignedUnits_iff.mp hentry, toDouble_alignedUnits_iff.mp hexit,
      toDouble_alignedUnits_iff.mp hquantity, toDouble_alignedUnits_iff.mp hfees,
      toDouble_alignedUnits_iff.mp hrealized, toDouble_alignedUnits_iff.mp hgross⟩
  · rintro ⟨hentry, hexit, hquantity, hfees, hrealized, hgross⟩
    exact ⟨toDouble_alignedUnits_iff.mpr hentry, toDouble_alignedUnits_iff.mpr hexit,
      toDouble_alignedUnits_iff.mpr hquantity, toDouble_alignedUnits_iff.mpr hfees,
      toDouble_alignedUnits_iff.mpr hrealized, toDouble_alignedUnits_iff.mpr hgross⟩

/-- A resting order is read back as it was exactly when its amounts come back. -/
theorem rewrittenOrder_eq_iff {o : OrderRecord} : rewrittenOrder o = o ↔ OrderSteady o := by
  obtain ⟨symbol, orderType, isBuy, limitPrice, trailOffset, trailBest, quantity,
    capitalToCommit, placedTimestamp, orderId⟩ := o
  simp only [rewrittenOrder, OrderRecord.mk.injEq, true_and, and_true]
  constructor
  · rintro ⟨hlimit, hoffset, hbest, hquantity, hcapital⟩
    exact ⟨toDouble_alignedUnits_iff.mp hlimit, toDouble_alignedUnits_iff.mp hoffset,
      toDouble_alignedUnits_iff.mp hbest, toDouble_alignedUnits_iff.mp hquantity,
      toDouble_alignedUnits_iff.mp hcapital⟩
  · rintro ⟨hlimit, hoffset, hbest, hquantity, hcapital⟩
    exact ⟨toDouble_alignedUnits_iff.mpr hlimit, toDouble_alignedUnits_iff.mpr hoffset,
      toDouble_alignedUnits_iff.mpr hbest, toDouble_alignedUnits_iff.mpr hquantity,
      toDouble_alignedUnits_iff.mpr hcapital⟩

/-- A list is unchanged exactly when each of its entries is. -/
theorem map_eq_self_iff {α : Type} {f : α → α} {xs : List α} :
    xs.map f = xs ↔ ∀ x ∈ xs, f x = x := by
  conv_lhs => rw [← List.map_id xs]
  rw [List.map_map, List.map_inj_left]
  exact Iff.rfl

/-- A snapshot is read back as it was when its amounts come back from their units. -/
theorem rewrittenPortfolio_eq {s : PortfolioManager.Snapshot} (h : PortfolioSteady s) :
    rewrittenPortfolio s = s := by
  obtain ⟨hcash, hprofit, hequity, hmaxEquity, hfees, hpositions, hlog, hpending⟩ := h
  have hpositions' := map_eq_self_iff.mpr fun p hp => rewrittenPosition_eq (hpositions p hp)
  have hlog' := map_eq_self_iff.mpr fun t ht => rewrittenTrade_eq_iff.mpr (hlog t ht)
  have hpending' := map_eq_self_iff.mpr fun o ho => rewrittenOrder_eq_iff.mpr (hpending o ho)
  have hmoney {value : Double} (h : value.Steady .money) :
      (⟨moneyUnits value⟩ : Money).toDouble = value := toDouble_alignedUnits_iff.mpr h
  rw [rewrittenPortfolio, hpositions', hlog', hpending', hmoney hcash, hmoney hprofit,
    hmoney hequity, hmoney hmaxEquity, hmoney hfees]

/-- A position is read back with the amounts that its units say. -/
theorem readsWithin_position {p : PortfolioManager.PositionSnapshot} (h : PositionTyped p) :
    Reader.ReadsWithin (PositionLimits p) readPosition (writePosition p) (rewrittenPosition p) := by
  have hreads : Reader.ReadsWithin
      (p.position.symbol.length ≤ maxString ∧ p.strategyId.length ≤ maxString ∧ True)
      readPosition (writePosition p) (rewrittenPosition p) := by
    apply h.symbol.reads.cons
    apply (readsBack_i64 _).cons
    apply (readsBack_i64 _).cons
    apply (readsBack_boolean _).cons
    apply (readsBack_u64 h.entryTimestamp).cons
    apply (readsBack_i64 _).cons
    apply (readsBack_i64 _).cons
    apply (readsBack_i64 _).cons
    apply h.strategyId.reads.cons
    exact Reader.readsWithin_last rfl
  exact hreads.congr (by rw [PositionLimits, and_true])

/-- A record of the trade log is read back with the amounts that its units say. -/
theorem readsWithin_trade {t : TradeRecord} (h : TradeTyped t) :
    Reader.ReadsWithin (TradeLimits t) readTrade (writeTrade t) (rewrittenTrade t) := by
  have hreads : Reader.ReadsWithin
      (t.symbol.length ≤ maxString ∧ t.strategyId.length ≤ maxString ∧ True)
      readTrade (writeTrade t) (rewrittenTrade t) := by
    apply h.symbol.reads.cons
    apply (readsBack_u64 h.openTimestamp).cons
    apply (readsBack_u64 h.closeTimestamp).cons
    apply (readsBack_i64 _).cons
    apply (readsBack_i64 _).cons
    apply (readsBack_i64 _).cons
    apply (readsBack_i64 _).cons
    apply (readsBack_i64 _).cons
    apply (readsBack_i64 _).cons
    apply h.strategyId.reads.cons
    exact Reader.readsWithin_last rfl
  exact hreads.congr (by rw [TradeLimits, and_true])

/-- A resting order is read back with the amounts that its units say. -/
theorem readsWithin_order {o : OrderRecord} (h : OrderTyped o) :
    Reader.ReadsWithin (OrderLimits o) readOrder (writeOrder o) (rewrittenOrder o) := by
  have hcode : decide (o.orderType.code ≤ OrderType.trailingStop.code) = true := by
    cases o.orderType <;> decide
  have htype : OrderType.ofCode o.orderType.code = o.orderType := by
    cases o.orderType <;> rfl
  have hreads : Reader.ReadsWithin (o.symbol.length ≤ maxString ∧ True)
      readOrder (writeOrder o) (rewrittenOrder o) := by
    apply h.symbol.reads.cons
    apply (readsBack_u8 _).cons
    apply Reader.ReadsWithin.require hcode
    apply (readsBack_boolean _).cons
    apply (readsBack_i64 _).cons
    apply (readsBack_i64 _).cons
    apply (readsBack_i64 _).cons
    apply (readsBack_i64 _).cons
    apply (readsBack_i64 _).cons
    apply (readsBack_u64 h.placedTimestamp).cons
    apply (readsBack_u64 h.orderId).cons
    apply Reader.readsWithin_last
    rw [htype, rewrittenOrder]
  exact hreads.congr (by rw [OrderLimits, and_true])

/-- **The portfolio section.** -/
theorem readsWithin_portfolio {s : PortfolioManager.Snapshot} (h : PortfolioTyped s) :
    Reader.ReadsWithin (PortfolioLimits s) readPortfolio (writePortfolio s)
      (rewrittenPortfolio s) := by
  have hpositions := readsWithin_list h.positions_length fun p hp =>
    readsWithin_position (h.positions p hp)
  have htrades := readsWithin_list h.tradeLog_length fun t ht =>
    readsWithin_trade (h.tradeLog t ht)
  have horders := readsWithin_list h.pendingOrders_length fun o ho =>
    readsWithin_order (h.pendingOrders o ho)
  have hreads : Reader.ReadsWithin
      (ListLimits PositionLimits s.positions ∧ ListLimits TradeLimits s.tradeLog ∧
        ListLimits OrderLimits s.pendingOrders ∧ True)
      readPortfolio (writePortfolio s) (rewrittenPortfolio s) := by
    apply (readsBack_i64 _).cons
    apply (readsBack_i64 _).cons
    apply (readsBack_i64 _).cons
    apply (readsBack_i64 _).cons
    apply h.currentDrawdown.reads.cons
    apply h.maxDrawdown.reads.cons
    apply h.tradeCount.reads.cons
    apply (readsBack_i64 _).cons
    apply h.roundTripCount.reads.cons
    apply hpositions.cons_cons
    apply htrades.cons_cons
    apply horders.cons_cons
    apply (readsBack_u64 h.nextOrderId).cons
    exact Reader.readsWithin_last rfl
  exact hreads.congr (by rw [PortfolioLimits, and_true])

end Portfolio

section Risk

/-- An asset state is read back under its key. -/
theorem readsWithin_asset {e : Sigma fun _ : String => AssetReturnState}
    (h : AssetTyped e.1 e.2) :
    Reader.ReadsWithin (AssetLimits e) readAsset (writeAsset e) (e.1, e.2) := by
  have hkey : decide (e.1 ≠ "") = true := decide_eq_true h.key_ne
  have hreads : Reader.ReadsWithin
      (e.1.length ≤ maxString ∧ NumbersLimits e.2.returnWindow ∧ True)
      readAsset (writeAsset e) (e.1, e.2) := by
    apply h.text.reads.cons
    apply Reader.ReadsWithin.require hkey
    apply h.returnWindow.reads.cons
    apply h.prevPrice.reads.cons
    apply (readsBack_boolean _).cons
    apply h.positionValue.reads.cons
    apply Reader.readsWithin_last
    rw [← h.symbol]
  exact hreads.congr (by rw [AssetLimits, and_true])

/-- A synchronised position is read back under its key. -/
theorem readsWithin_synced {e : Sigma fun _ : String => Double} (h : SyncedTyped e.1 e.2) :
    Reader.ReadsWithin (e.1.length ≤ maxString) readSynced (writeSynced e) (e.1, e.2) := by
  have hkey : decide (e.1 ≠ "") = true := decide_eq_true h.key_ne
  have hreads : Reader.ReadsWithin (e.1.length ≤ maxString ∧ True)
      readSynced (writeSynced e) (e.1, e.2) := by
    apply h.text.reads.cons
    apply Reader.ReadsWithin.require hkey
    apply h.quantity.reads.cons
    exact Reader.readsWithin_last rfl
  exact hreads.congr (by rw [and_true])

/-- A risk snapshot whose maps list their entries in the order of the keys. -/
def sortedRisk (s : RiskMonitor.Snapshot) : RiskMonitor.Snapshot :=
  { s with
    assetStates := KeyedMap.insertAll ∅ (KeyedMap.sortedEntries s.assetStates)
    syncedPositions := KeyedMap.insertAll ∅ (KeyedMap.sortedEntries s.syncedPositions) }

/-- **The risk section.** -/
theorem readsWithin_risk {s : RiskMonitor.Snapshot} (h : RiskTyped s) :
    Reader.ReadsWithin (RiskLimits s) readRisk (writeRisk s) (sortedRisk s) := by
  have hassets := readsWithin_map h.assetStates_length fun e he =>
    readsWithin_asset (h.assetStates e he)
  have horder := readsWithin_list h.assetOrder_length fun symbol hsymbol =>
    (h.assetOrder symbol hsymbol).reads
  rw [List.map_id'] at horder
  have hsynced := readsWithin_map h.syncedPositions_length fun e he =>
    readsWithin_synced (h.syncedPositions e he)
  have hreads : Reader.ReadsWithin
      (NumbersLimits s.returnWindow ∧ ListLimits AssetLimits s.assetStates.entries ∧
        NumbersLimits s.covarianceMatrix ∧
        ListLimits (fun symbol => symbol.length ≤ maxString) s.assetOrder ∧
        ListLimits (fun e => e.1.length ≤ maxString) s.syncedPositions.entries ∧ True)
      readRisk (writeRisk s) (sortedRisk s) := by
    apply (readsBack_u64 h.configuredMaxPositions).cons
    apply h.configuredVarLimit.reads.cons
    apply (readsBack_u64 h.configuredVarWindow).cons
    apply h.totalDrawdown.reads.cons
    apply h.dailyDrawdown.reads.cons
    apply h.prevEquity.reads.cons
    apply (readsBack_boolean _).cons
    apply h.returnWindow.reads.cons
    apply h.currentVaR95.reads.cons
    apply h.returnStdDev.reads.cons
    apply hassets.cons_cons
    apply h.covarianceMatrix.reads.cons
    apply horder.cons_cons
    apply (readsBack_boolean _).cons
    apply (readsBack_boolean _).cons
    apply (readsBack_u32 h.lastLatencyMs).cons
    apply (readsBack_boolean _).cons
    apply hsynced.cons_cons
    apply (readsBack_u64 h.effectiveMaxPositions).cons
    apply h.effectiveVarLimit.reads.cons
    apply (readsBack_boolean _).cons
    exact Reader.readsWithin_last rfl
  exact hreads.congr (by rw [RiskLimits, and_true])

end Risk

section Strategies

/-- **The regime section.** -/
theorem readsWithin_regime {s : RegimeDetector.State} (h : RegimeTyped s) :
    Reader.ReadsWithin (RegimeLimits s) readRegime (writeRegime s) s := by
  have hcode : decide (s.regime.code ≤ MarketRegime.chaos.code) = true := by
    cases s.regime <;> decide
  have hregime : MarketRegime.ofCode s.regime.code = s.regime := by
    cases s.regime <;> rfl
  have hreads : Reader.ReadsWithin (NumbersLimits s.returnWindow ∧ True)
      readRegime (writeRegime s) s := by
    apply h.smoothTR.reads.cons
    apply h.smoothDMPlus.reads.cons
    apply h.smoothDMMinus.reads.cons
    apply h.adx.reads.cons
    apply h.adxObservations.reads.cons
    apply h.returnWindow.reads.cons
    apply h.prevClose.reads.cons
    apply (readsBack_boolean _).cons
    apply h.variance.reads.cons
    apply h.prevHigh.reads.cons
    apply h.prevLow.reads.cons
    apply (readsBack_boolean _).cons
    apply (readsBack_u8 _).cons
    apply Reader.ReadsWithin.require hcode
    apply Reader.readsWithin_last
    rw [hregime]
  exact hreads.congr (by rw [RegimeLimits, and_true])

/-- The performance of a strategy is read back under its key. -/
theorem readsWithin_phiState {e : Sigma fun _ : String => PhiState}
    (h : PhiStateTyped e.1 e.2) :
    Reader.ReadsWithin (PhiStateLimits e) readPhiState (writePhiState e) (e.1, e.2) := by
  have hkey : decide (e.1 ≠ "") = true := decide_eq_true h.key_ne
  have hreads : Reader.ReadsWithin (e.1.length ≤ maxString ∧ NumbersLimits e.2.pnlWindow ∧ True)
      readPhiState (writePhiState e) (e.1, e.2) := by
    apply h.text.reads.cons
    apply Reader.ReadsWithin.require hkey
    apply h.pnlWindow.reads.cons
    apply h.phi.reads.cons
    apply Reader.readsWithin_last
    rw [← h.strategyId]
  exact hreads.congr (by rw [PhiStateLimits, and_true])

/-- **The section of the strategies.** -/
theorem readsWithin_phi {states : KeyedMap String PhiState} (h : PhiTyped states) :
    Reader.ReadsWithin (PhiLimits states) readPhi (writePhi states)
      (KeyedMap.insertAll ∅ (KeyedMap.sortedEntries states)) := by
  have hmap := readsWithin_map h.length_lt fun e he => readsWithin_phiState (h.states e he)
  rw [writePhi, List.flatten_cons, List.flatten_cons, List.flatten_nil, List.append_nil]
  exact hmap

end Strategies

section Snapshots

/-- A section is decoded: its reader gives a snapshot with a property and leaves exactly the
bytes that follow, so that it is at its end when there are none. -/
def Decodes {α : Type} (r : Reader UInt8 String α) (written : List UInt8) (P : α → Prop) : Prop :=
  ∀ rest, ∃ a, r (written ++ rest) = .ok (a, rest) ∧ P a ∧ (Reader.done rest = true ↔ rest = [])

/-- A section that is read back is decoded, and leaves what follows it. -/
theorem decodes_of_readsBack {α : Type} {r : Reader UInt8 String α} {written : List UInt8}
    {P : α → Prop} {a : α} (h : r.ReadsBack written a) (ha : P a) : Decodes r written P :=
  fun rest => ⟨a, h rest, ha, List.isEmpty_iff⟩

/-- A portfolio snapshot with values of its types, within the limits of the reader, whose amounts
come back from their units. -/
structure PortfolioFits (s : PortfolioManager.Snapshot) : Prop where
  typed : PortfolioTyped s
  steady : PortfolioSteady s
  limits : PortfolioLimits s

/-- A risk snapshot with values of its types, within the limits of the reader. -/
structure RiskFits (s : RiskMonitor.Snapshot) : Prop where
  typed : RiskTyped s
  limits : RiskLimits s

/-- A regime state with values of its types, within the limit of the reader. -/
structure RegimeFits (s : RegimeDetector.State) : Prop where
  typed : RegimeTyped s
  limits : RegimeLimits s

/-- Strategies with values of their types, within the limits of the reader. -/
structure PhiFits (states : KeyedMap String PhiState) : Prop where
  typed : PhiTyped states
  limits : PhiLimits states

/-- Two risk snapshots are equal in every field; their maps may list their entries in another
order. -/
structure SameRisk (s s' : RiskMonitor.Snapshot) : Prop where
  fields : { s with
    assetStates := s'.assetStates
    syncedPositions := s'.syncedPositions } = s'
  assetStates : ∀ key, s.assetStates.lookup key = s'.assetStates.lookup key
  syncedPositions : ∀ key, s.syncedPositions.lookup key = s'.syncedPositions.lookup key

/-- Sorting the maps of a risk snapshot changes the order of their entries only. -/
theorem sameRisk_sortedRisk (s : RiskMonitor.Snapshot) : SameRisk (sortedRisk s) s where
  fields := rfl
  assetStates := KeyedMap.lookup_insertAll (KeyedMap.sortedEntries_perm _)
  syncedPositions := KeyedMap.lookup_insertAll (KeyedMap.sortedEntries_perm _)

/-- The bytes of the risk section do not depend on the order in which maps list their entries. -/
theorem writeRisk_eq_of_same {s s' : RiskMonitor.Snapshot} (h : SameRisk s s') :
    writeRisk s = writeRisk s' := by
  obtain ⟨hfields, hassets, hsynced⟩ := h
  rw [← hfields]
  unfold writeRisk
  dsimp only
  rw [KeyedMap.sortedEntries_eq_of_lookup hassets, KeyedMap.sortedEntries_eq_of_lookup hsynced]

/-- **Codec round trip.** Every snapshot within the limits of the readers whose amounts come back
from their units is decoded from the bytes of its sections, whatever follows them; the text of a
payload is decoded to the payload exactly when the payload is within its limit; and equal maps are
written alike. -/
theorem sections_decode {portfolio : PortfolioManager.Snapshot} {risk : RiskMonitor.Snapshot}
    {regime : RegimeDetector.State} {phi : KeyedMap String PhiState}
    (hportfolio : PortfolioFits portfolio) (hrisk : RiskFits risk) (hregime : RegimeFits regime)
    (hphi : PhiFits phi) :
    Decodes readPortfolio (writePortfolio portfolio) (· = portfolio) ∧
      Decodes readRisk (writeRisk risk) (SameRisk · risk) ∧
      Decodes readRegime (writeRegime regime) (· = regime) ∧
      Decodes readPhi (writePhi phi) (fun states => ∀ key, states.lookup key = phi.lookup key) ∧
      (∀ bytes, hexDecode (hexEncode bytes) =
        if bytes.length ≤ maxPayload then some bytes else none) ∧
      (∀ other, SameRisk other risk → writeRisk other = writeRisk risk) ∧
      ∀ other : KeyedMap String PhiState, (∀ key, other.lookup key = phi.lookup key) →
        writePhi other = writePhi phi := by
  refine ⟨?_, ?_, ?_, ?_, hexDecode_hexEncode, fun other => writeRisk_eq_of_same, ?_⟩
  · exact decodes_of_readsBack ((readsWithin_portfolio hportfolio.typed).1 hportfolio.limits)
      (rewrittenPortfolio_eq hportfolio.steady)
  · exact decodes_of_readsBack ((readsWithin_risk hrisk.typed).1 hrisk.limits)
      (sameRisk_sortedRisk risk)
  · exact decodes_of_readsBack ((readsWithin_regime hregime.typed).1 hregime.limits) rfl
  · exact decodes_of_readsBack ((readsWithin_phi hphi.typed).1 hphi.limits)
      (KeyedMap.lookup_insertAll (KeyedMap.sortedEntries_perm phi))
  · intro other hsame
    rw [writePhi, writePhi, KeyedMap.sortedEntries_eq_of_lookup hsame]

/-- Zero is a number that a snapshot can hold. -/
theorem number_zero : Number 0 := by
  refine ⟨⟨0, ?_⟩, rfl⟩
  have hword := (@Double.ofBits_word 0 (by norm_num)).1
  rw [(Binary64.magnitude_eq_zero_iff 0).mpr rfl] at hword
  exact hword

/-- The empty list is a list of numbers. -/
theorem numbers_nil : Numbers [] := ⟨by decide, fun _ h => by cases h⟩

/-- The empty list of numbers is within every limit. -/
theorem numbersLimits_nil : NumbersLimits [] := Nat.zero_le _

/-- The empty list is within every limit. -/
theorem listLimits_nil {α : Type} (limit : α → Prop) : ListLimits limit [] :=
  ⟨Nat.zero_le _, fun _ h => by cases h⟩

/-- A risk snapshot without observations, for symbols in the order of a covariance matrix. -/
def quietRisk (symbols : List String) : RiskMonitor.Snapshot :=
  { (RiskMonitor.create 2 0).snapshotState with assetOrder := symbols }

/-- A risk snapshot without observations has values of its types. -/
theorem riskTyped_quietRisk {symbols : List String} (hlength : symbols.length < 2 ^ 64)
    (h : ∀ symbol ∈ symbols, Text symbol) : RiskTyped (quietRisk symbols) where
  configuredMaxPositions := by norm_num [quietRisk, RiskMonitor.snapshotState, RiskMonitor.create]
  configuredVarLimit := number_zero
  configuredVarWindow := by norm_num [quietRisk, RiskMonitor.snapshotState, RiskMonitor.create]
  totalDrawdown := number_zero
  dailyDrawdown := number_zero
  prevEquity := number_zero
  returnWindow := numbers_nil
  currentVaR95 := number_zero
  returnStdDev := number_zero
  assetStates_length := Nat.two_pow_pos 64
  assetStates := fun _ h => by cases h
  covarianceMatrix := numbers_nil
  assetOrder_length := hlength
  assetOrder := h
  lastLatencyMs := by norm_num [quietRisk, RiskMonitor.snapshotState, RiskMonitor.create]
  syncedPositions_length := Nat.two_pow_pos 64
  syncedPositions := fun _ h => by cases h
  effectiveMaxPositions := by norm_num [quietRisk, RiskMonitor.snapshotState, RiskMonitor.create]
  effectiveVarLimit := number_zero

/-- A risk snapshot without observations is within the limits when its symbols are. -/
theorem riskFits_quietRisk {symbols : List String} (hlength : symbols.length ≤ maxItems)
    (h : ∀ symbol ∈ symbols, Text symbol ∧ symbol.length ≤ maxString) :
    RiskFits (quietRisk symbols) where
  typed := riskTyped_quietRisk (by rw [maxItems] at hlength; omega) fun symbol hsymbol =>
    (h symbol hsymbol).1
  limits := ⟨numbersLimits_nil, listLimits_nil _, numbersLimits_nil,
    ⟨hlength, fun symbol hsymbol => (h symbol hsymbol).2⟩, listLimits_nil _⟩

/-- The snapshot of a fresh portfolio has values of its types. -/
theorem portfolioTyped_fresh : PortfolioTyped (PortfolioManager.fresh).snapshotState where
  currentDrawdown := number_zero
  maxDrawdown := number_zero
  tradeCount := ⟨by decide, by decide⟩
  roundTripCount := ⟨by decide, by decide⟩
  positions_length := by decide
  positions := fun _ h => by cases h
  tradeLog_length := by decide
  tradeLog := fun _ h => by cases h
  pendingOrders_length := by decide
  pendingOrders := fun _ h => by cases h
  nextOrderId := by decide

/-- A hundred thousand of cash is far below the amounts that a double rounds. -/
theorem portfolioSteady_fresh : PortfolioSteady (PortfolioManager.fresh).snapshotState where
  cash := (survives_of_le (by decide)).steady
  unrealizedPnL := survives_zero.steady
  totalEquity := (survives_of_le (by decide)).steady
  maxEquity := (survives_of_le (by decide)).steady
  totalFeesPaid := survives_zero.steady
  positions := fun _ h => by cases h
  tradeLog := fun _ h => by cases h
  pendingOrders := fun _ h => by cases h

/-- The snapshot of a fresh portfolio is within the limits and comes back. -/
theorem portfolioFits_fresh : PortfolioFits (PortfolioManager.fresh).snapshotState where
  typed := portfolioTyped_fresh
  steady := portfolioSteady_fresh
  limits := ⟨listLimits_nil _, listLimits_nil _, listLimits_nil _⟩

/-- A detector that has seen no candle has values of its types. -/
theorem regimeTyped_initial : RegimeTyped {} where
  smoothTR := number_zero
  smoothDMPlus := number_zero
  smoothDMMinus := number_zero
  adx := number_zero
  adxObservations := ⟨by decide, by decide⟩
  returnWindow := numbers_nil
  prevClose := number_zero
  variance := number_zero
  prevHigh := number_zero
  prevLow := number_zero

/-- A detector that has seen no candle is within the limits. -/
theorem regimeFits_initial : RegimeFits {} where
  typed := regimeTyped_initial
  limits := numbersLimits_nil

/-- One strategy without trades is within the limits. -/
theorem phiFits_single : PhiFits (AList.singleton "SMA_01" { strategyId := "SMA_01" }) where
  typed :=
    { length_lt := by decide
      states := by
        intro e he
        rw [List.mem_singleton.mp he]
        exact ⟨⟨by decide, by decide⟩, by decide, rfl, numbers_nil, number_zero⟩ }
  limits := by
    refine ⟨by decide, fun e he => ?_⟩
    rw [List.mem_singleton.mp he]
    exact ⟨by decide, numbersLimits_nil⟩

/-- The snapshots of fresh components, and one strategy without trades. -/
theorem sections_decode_fresh :
    Decodes readPortfolio (writePortfolio (PortfolioManager.fresh).snapshotState)
      (· = (PortfolioManager.fresh).snapshotState) ∧
      Decodes readRisk (writeRisk (quietRisk [])) (SameRisk · (quietRisk [])) := by
  have hquiet : RiskFits (quietRisk []) :=
    riskFits_quietRisk (Nat.zero_le _) fun _ h => by cases h
  obtain ⟨hportfolio, hrisk, -⟩ :=
    sections_decode portfolioFits_fresh hquiet regimeFits_initial phiFits_single
  exact ⟨hportfolio, hrisk⟩

/-- The longest string that the reader accepts. -/
def longSymbol : String := String.ofList (List.replicate maxString 'A')

/-- The longest string is one of bytes. -/
theorem text_longSymbol : Text longSymbol where
  bytes := by
    intro c hc
    rw [longSymbol, String.toList_ofList] at hc
    rw [(List.mem_replicate.mp hc).2]
    decide
  length_lt := by
    rw [longSymbol, String.length_ofList, List.length_replicate]
    decide

/-- The longest string has the length of the limit. -/
theorem length_longSymbol : longSymbol.length = maxString := by
  rw [longSymbol, String.length_ofList, List.length_replicate]

/-- A section is at least as long as what it writes for a list of symbols. -/
theorem length_writeRisk_ge (s : RiskMonitor.Snapshot) :
    (s.assetOrder.flatMap Writer.string).length ≤ (writeRisk s).length := by
  unfold writeRisk
  apply List.Sublist.length_le
  apply List.sublist_flatten_of_mem
  simp

/-- A risk section within the limits of the readers can be too large to be decoded. -/
theorem hexDecode_hexEncode_ne :
    ∃ s, RiskFits s ∧ hexDecode (hexEncode (writeRisk s)) ≠ some (writeRisk s) := by
  refine ⟨quietRisk (List.replicate 129 longSymbol), riskFits_quietRisk ?_ ?_, ?_⟩
  · rw [List.length_replicate]
    decide
  · intro symbol hsymbol
    rw [(List.mem_replicate.mp hsymbol).2]
    exact ⟨text_longSymbol, length_longSymbol.le⟩
  · have hle := length_writeRisk_ge (quietRisk (List.replicate 129 longSymbol))
    have hsymbol : (Writer.string longSymbol).length = 8 + maxString := by
      rw [Writer.string, List.length_append, List.length_map, String.length_toList, Writer.u64,
        length_littleEndian, length_longSymbol]
    have hlarge : ¬(writeRisk (quietRisk (List.replicate 129 longSymbol))).length ≤ maxPayload := by
      change (List.flatMap Writer.string (List.replicate 129 longSymbol)).length ≤ _ at hle
      rw [List.length_flatMap, List.map_replicate, List.sum_replicate, hsymbol, smul_eq_mul] at hle
      rw [maxString] at hle
      rw [maxPayload]
      omega
    rw [hexDecode_hexEncode, if_neg hlarge]
    exact (Option.some_ne_none _).symm

/-- A fresh portfolio with 92,433,008.54609502 of cash, which no double holds to the unit. -/
def wealthySnapshot : PortfolioManager.Snapshot :=
  { (PortfolioManager.fresh).snapshotState with cash := (⟨9243300854609502⟩ : Money).toDouble }

/-- The snapshot has values of its types: only its cash is unusual. -/
theorem portfolioTyped_wealthySnapshot : PortfolioTyped wealthySnapshot :=
  { portfolioTyped_fresh with }

/-- Its cash is written as one unit less, and read as another double. -/
theorem rewritten_wealthySnapshot : rewrittenPortfolio wealthySnapshot ≠ wealthySnapshot := by
  intro h
  have hcash : (⟨moneyUnits wealthySnapshot.cash⟩ : Money).toDouble = wealthySnapshot.cash :=
    congrArg PortfolioManager.Snapshot.cash h
  revert hcash
  decide +kernel

/-- Snapshots within the limits of the readers that do not come back: a payload that is too large
to be decoded, and an amount of which a double loses a unit. -/
theorem not_sections_decode :
    (∃ s, RiskFits s ∧ hexDecode (hexEncode (writeRisk s)) ≠ some (writeRisk s)) ∧
      ∃ s, PortfolioTyped s ∧ PortfolioLimits s ∧
        s.cash = (⟨9243300854609502⟩ : Money).toDouble ∧
        ¬Decodes readPortfolio (writePortfolio s) (· = s) := by
  refine ⟨hexDecode_hexEncode_ne, wealthySnapshot, portfolioTyped_wealthySnapshot,
    portfolioFits_fresh.limits, rfl, fun hdecodes => ?_⟩
  obtain ⟨s, hread, rfl, -⟩ := hdecodes []
  have hback := (readsWithin_portfolio portfolioTyped_wealthySnapshot).1
    portfolioFits_fresh.limits []
  rw [hback, Except.ok.injEq, Prod.mk.injEq] at hread
  exact rewritten_wealthySnapshot hread.1

end Snapshots

end StateSerializer

end TradeBot
