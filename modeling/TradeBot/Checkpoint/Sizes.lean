import TradeBot.Checkpoint.Serializer

/-!
# Sizes of payloads

How many bytes the section writers write, by the numbers of entries and the lengths of the
strings of a snapshot.
-/

namespace TradeBot

open Library

namespace StateSerializer

section Entries

/-- The bytes of a list of numbers. -/
def numbersSize (values : List Double) : ℕ := 8 + 8 * values.length

/-- The bytes of a position. -/
def positionSize (p : PortfolioManager.PositionSnapshot) : ℕ :=
  65 + p.position.symbol.length + p.strategyId.length

/-- The bytes of a record of the trade log. -/
def tradeSize (t : TradeRecord) : ℕ := 80 + t.symbol.length + t.strategyId.length

/-- The bytes of a resting order. -/
def orderSize (o : OrderRecord) : ℕ := 66 + o.symbol.length

/-- The bytes of an asset state. -/
def assetSize (e : Sigma fun _ : String => AssetReturnState) : ℕ :=
  25 + e.1.length + numbersSize e.2.returnWindow

/-- The bytes of a synchronised position. -/
def syncedSize (e : Sigma fun _ : String => Double) : ℕ := 16 + e.1.length

/-- The bytes of a strategy. -/
def phiStateSize (e : Sigma fun _ : String => PhiState) : ℕ :=
  16 + e.1.length + numbersSize e.2.pnlWindow

/-- A string is written as its length and its bytes. -/
theorem length_string (s : String) : (Writer.string s).length = 8 + s.length := by
  rw [Writer.string, List.length_append, List.length_map, String.length_toList, Writer.u64,
    length_littleEndian]

/-- The bytes of a list are those of its entries. -/
theorem length_flatMap_of_size {α : Type} {write : α → List UInt8} {size : α → ℕ}
    (h : ∀ a, (write a).length = size a) (xs : List α) :
    (xs.flatMap write).length = (xs.map size).sum := by
  rw [List.length_flatMap]
  congr 1
  exact List.map_congr_left fun a _ => h a

/-- The size of a list of numbers. -/
theorem length_writeDoubles (values : List Double) :
    (writeDoubles values).length = numbersSize values := by
  have hnumber (value : Double) : (Writer.number value).length = 8 := length_littleEndian 8 _
  rw [writeDoubles, List.length_append, length_flatMap_of_size hnumber, List.map_const',
    List.sum_replicate, Writer.u64, length_littleEndian, numbersSize, smul_eq_mul, mul_comm]

/-- The widths of the fields of an entry. -/
theorem length_fields : (∀ n, (Writer.u64 n).length = 8) ∧ (∀ n, (Writer.u32 n).length = 4) ∧
    (∀ v, (Writer.i64 v).length = 8) ∧ (∀ n, (Writer.i32 n).length = 4) ∧
    (∀ v, (Writer.number v).length = 8) ∧ (∀ b, (Writer.boolean b).length = 1) ∧
    ∀ b, (Writer.u8 b).length = 1 :=
  ⟨fun _ => length_littleEndian 8 _, fun _ => length_littleEndian 4 _,
    fun _ => length_littleEndian 8 _, fun _ => length_littleEndian 4 _,
    fun _ => length_littleEndian 8 _, fun _ => rfl, fun _ => rfl⟩

/-- The size of a position. -/
theorem length_writePosition (p : PortfolioManager.PositionSnapshot) :
    (writePosition p).length = positionSize p := by
  obtain ⟨hu64, -, hi64, -, -, hboolean, -⟩ := length_fields
  simp only [writePosition, List.length_flatten, List.map_cons, List.map_nil, List.sum_cons,
    List.sum_nil, length_string, hu64, hi64, hboolean, positionSize]
  omega

/-- The size of a record of the trade log. -/
theorem length_writeTrade (t : TradeRecord) : (writeTrade t).length = tradeSize t := by
  obtain ⟨hu64, -, hi64, -, -, -, -⟩ := length_fields
  simp only [writeTrade, List.length_flatten, List.map_cons, List.map_nil, List.sum_cons,
    List.sum_nil, length_string, hu64, hi64, tradeSize]
  omega

/-- The size of a resting order. -/
theorem length_writeOrder (o : OrderRecord) : (writeOrder o).length = orderSize o := by
  obtain ⟨hu64, -, hi64, -, -, hboolean, hu8⟩ := length_fields
  simp only [writeOrder, List.length_flatten, List.map_cons, List.map_nil, List.sum_cons,
    List.sum_nil, length_string, hu64, hi64, hboolean, hu8, orderSize]
  omega

/-- The size of an asset state. -/
theorem length_writeAsset (e : Sigma fun _ : String => AssetReturnState) :
    (writeAsset e).length = assetSize e := by
  obtain ⟨-, -, -, -, hnumber, hboolean, -⟩ := length_fields
  simp only [writeAsset, List.length_flatten, List.map_cons, List.map_nil, List.sum_cons,
    List.sum_nil, length_string, length_writeDoubles, hnumber, hboolean, assetSize]
  omega

/-- The size of a synchronised position. -/
theorem length_writeSynced (e : Sigma fun _ : String => Double) :
    (writeSynced e).length = syncedSize e := by
  obtain ⟨-, -, -, -, hnumber, -, -⟩ := length_fields
  simp only [writeSynced, List.length_flatten, List.map_cons, List.map_nil, List.sum_cons,
    List.sum_nil, length_string, hnumber, syncedSize]
  omega

/-- The size of the performance of a strategy. -/
theorem length_writePhiState (e : Sigma fun _ : String => PhiState) :
    (writePhiState e).length = phiStateSize e := by
  obtain ⟨-, -, -, -, hnumber, -, -⟩ := length_fields
  simp only [writePhiState, List.length_flatten, List.map_cons, List.map_nil, List.sum_cons,
    List.sum_nil, length_string, length_writeDoubles, hnumber, phiStateSize]
  omega

end Entries

section Sections

/-- The bytes of the portfolio section. -/
def portfolioSize (s : PortfolioManager.Snapshot) : ℕ :=
  96 + (s.positions.map positionSize).sum + (s.tradeLog.map tradeSize).sum +
    (s.pendingOrders.map orderSize).sum

/-- The bytes of the risk section. -/
def riskSize (s : RiskMonitor.Snapshot) : ℕ :=
  113 + numbersSize s.returnWindow + (s.assetStates.entries.map assetSize).sum +
    numbersSize s.covarianceMatrix + (s.assetOrder.map fun symbol => 8 + symbol.length).sum +
    (s.syncedPositions.entries.map syncedSize).sum

/-- The bytes of the regime section. -/
def regimeSize (s : RegimeDetector.State) : ℕ := 71 + numbersSize s.returnWindow

/-- The bytes of the section of the strategies. -/
def phiSize (states : KeyedMap String PhiState) : ℕ := 8 + (states.entries.map phiStateSize).sum

/-- The entries of a map have the same size in every order. -/
theorem sum_sortedEntries {α : Type} (m : KeyedMap String α)
    (size : (Sigma fun _ : String => α) → ℕ) :
    ((KeyedMap.sortedEntries m).map size).sum = (m.entries.map size).sum :=
  ((KeyedMap.sortedEntries_perm m).map size).sum_eq

/-- The size of the portfolio section. -/
theorem length_writePortfolio (s : PortfolioManager.Snapshot) :
    (writePortfolio s).length = portfolioSize s := by
  obtain ⟨hu64, -, hi64, hi32, hnumber, -, -⟩ := length_fields
  simp only [writePortfolio, List.length_flatten, List.map_cons, List.map_nil, List.sum_cons,
    List.sum_nil, length_flatMap_of_size length_writePosition,
    length_flatMap_of_size length_writeTrade, length_flatMap_of_size length_writeOrder,
    hu64, hi64, hi32, hnumber, portfolioSize]
  omega

/-- The size of the risk section. -/
theorem length_writeRisk (s : RiskMonitor.Snapshot) : (writeRisk s).length = riskSize s := by
  obtain ⟨hu64, hu32, -, -, hnumber, hboolean, -⟩ := length_fields
  simp only [writeRisk, List.length_flatten, List.map_cons, List.map_nil, List.sum_cons,
    List.sum_nil, length_flatMap_of_size length_writeAsset,
    length_flatMap_of_size length_writeSynced, length_flatMap_of_size length_string,
    sum_sortedEntries, length_writeDoubles, hu64, hu32, hnumber, hboolean, riskSize]
  omega

/-- The size of the regime section. -/
theorem length_writeRegime (s : RegimeDetector.State) :
    (writeRegime s).length = regimeSize s := by
  obtain ⟨-, -, -, hi32, hnumber, hboolean, hu8⟩ := length_fields
  simp only [writeRegime, List.length_flatten, List.map_cons, List.map_nil, List.sum_cons,
    List.sum_nil, length_writeDoubles, hi32, hnumber, hboolean, hu8, regimeSize]
  omega

/-- The size of the section of the strategies. -/
theorem length_writePhi (states : KeyedMap String PhiState) :
    (writePhi states).length = phiSize states := by
  obtain ⟨hu64, -, -, -, -, -, -⟩ := length_fields
  simp only [writePhi, List.length_flatten, List.map_cons, List.map_nil, List.sum_cons,
    List.sum_nil, length_flatMap_of_size length_writePhiState, sum_sortedEntries, hu64, phiSize]
  omega

/-- **Size.** The bytes of a payload. -/
theorem length_payloadOf (portfolio : PortfolioManager) (risk : RiskMonitor)
    (regime : RegimeDetector) (allocator : PortfolioAllocator) (checkpointTs : ℕ) :
    (payloadOf portfolio risk (some (regime, allocator)) checkpointTs).length =
      30 + portfolioSize portfolio.snapshotState + riskSize risk.snapshotState +
        regimeSize regime.state + phiSize allocator.phiStates := by
  obtain ⟨hu64, -, -, -, -, hboolean, -⟩ := length_fields
  have hmagic : "TradeBotState".length = 13 := rfl
  simp only [payloadOf, stateOf, extendedOf, Option.map_some, Option.elim_some, writeState,
    writeExtended, List.length_append, List.length_flatten, List.map_cons, List.map_nil,
    List.sum_cons, List.sum_nil, length_string, length_writePortfolio, length_writeRisk,
    length_writeRegime, length_writePhi, hu64, hboolean, hmagic]
  omega

end Sections

end StateSerializer

end TradeBot
