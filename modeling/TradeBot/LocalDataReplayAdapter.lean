import TradeBot.Library.Bytes
import TradeBot.Library.Fallible
import TradeBot.Library.FixedRecords

/-!
# Recorded ticks

`LocalDataReplayAdapter.cpp`: ticks in a binary file of packed records, which are written, loaded
and replayed in order. Doubles are their 64-bit patterns. What the memory holds after the records
of a file is left to the run, and so is whether the file can be opened, read and written.
-/

namespace TradeBot

open Library

/-- `ReplayTick` -/
structure ReplayTick where
  timestampNs : UInt64 := 0
  symbol : Bytes := []
  bidPrice : UInt64 := 0
  bidSize : UInt64 := 0
  askPrice : UInt64 := 0
  askSize : UInt64 := 0
  tradePrice : UInt64 := 0
  tradeSize : UInt64 := 0
  flags : UInt8 := 0
  deriving DecidableEq

/-- `sizeof(rec.symbol)` -/
def symbolBytes : ℕ := 16

/-- The offset of the symbol in a record. -/
def symbolOffset : ℕ := 57

/-- `sizeof(BinaryTickRecord)` -/
def recordBytes : ℕ := symbolOffset + symbolBytes

/-- `BinaryTickRecord`: a packed record, the symbol at its end. -/
structure BinaryTickRecord where
  timestampNs : UInt64
  bidPrice : UInt64
  bidSize : UInt64
  askPrice : UInt64
  askSize : UInt64
  tradePrice : UInt64
  tradeSize : UInt64
  flags : UInt8
  symbol : Bytes
  length_symbol : symbol.length = symbolBytes

/-- A double word in memory. -/
def wordBytes (word : UInt64) : Bytes := littleEndian 8 word.toNat

/-- The bytes of a record. -/
def BinaryTickRecord.bytes (r : BinaryTickRecord) : Bytes :=
  wordBytes r.timestampNs ++ (wordBytes r.bidPrice ++ (wordBytes r.bidSize ++
    (wordBytes r.askPrice ++ (wordBytes r.askSize ++ (wordBytes r.tradePrice ++
      (wordBytes r.tradeSize ++ ([r.flags] ++ r.symbol)))))))

/-- The symbol field of a record: as much of the symbol as fits before a zero. -/
def symbolField (symbol : Bytes) : Bytes :=
  let n := min symbol.length (symbolBytes - 1)
  symbol.take n ++ List.replicate (symbolBytes - n) 0

/-- The symbol field has one size. -/
theorem length_symbolField (symbol : Bytes) : (symbolField symbol).length = symbolBytes := by
  have hpos : 0 < symbolBytes := by decide
  unfold symbolField
  dsimp only
  rw [List.length_append, List.length_take, List.length_replicate]
  omega

/-- The record of a tick. -/
def ReplayTick.record (tick : ReplayTick) : BinaryTickRecord where
  timestampNs := tick.timestampNs
  bidPrice := tick.bidPrice
  bidSize := tick.bidSize
  askPrice := tick.askPrice
  askSize := tick.askSize
  tradePrice := tick.tradePrice
  tradeSize := tick.tradeSize
  flags := tick.flags
  symbol := symbolField tick.symbol
  length_symbol := length_symbolField tick.symbol

/-- The loop of `writeBinary`, with the state of the stream after each write. -/
def writeRecords (path : String) (good : ℕ → Bool) : ℕ → List ReplayTick → Except String Bytes
  | _, [] => .ok []
  | i, tick :: ticks =>
    if good i then do
      let rest ← writeRecords path good (i + 1) ticks
      return tick.record.bytes ++ rest
    else .error ("LocalDataReplayAdapter::writeBinary failed while writing path: " ++ path)

/-- `writeBinary`: the file, or the error. -/
def writeBinary (path : String) (opened : Bool) (good : ℕ → Bool) (ticks : List ReplayTick) :
    Except String Bytes :=
  if ticks.isEmpty then
    .error "LocalDataReplayAdapter::writeBinary requires non-empty ticks"
  else if !opened then
    .error ("LocalDataReplayAdapter::writeBinary failed to open path: " ++ path)
  else writeRecords path good 0 ticks

/-- A word at the offset of memory. -/
def wordAt (memory : Bytes) (offset : ℕ) : UInt64 :=
  UInt64.ofNat (ofLittleEndian ((memory.drop offset).take 8))

/-- `rec.symbol[0] ? std::string(rec.symbol) : defaultSymbol`, with the number of bytes that are
looked at. -/
def readSymbol (defaultSymbol field : Bytes) : Bytes × ℕ :=
  if field.headD 0 ≠ 0 then zeroTerminated 0 field else (defaultSymbol, 1)

/-- The tick of the record at the start of memory, and the number of bytes that are looked at
for its symbol. -/
def readRecord (defaultSymbol : Bytes) (memory : Bytes) : ReplayTick × ℕ :=
  let found := readSymbol defaultSymbol (memory.drop symbolOffset)
  ({ timestampNs := wordAt memory 0
     bidPrice := wordAt memory 8
     bidSize := wordAt memory 16
     askPrice := wordAt memory 24
     askSize := wordAt memory 32
     tradePrice := wordAt memory 40
     tradeSize := wordAt memory 48
     flags := (memory.drop 56).headD 0
     symbol := if found.1.isEmpty then ascii "UNKNOWN" else found.1 }, found.2)

/-- The records of a file in memory, with what follows them there. -/
def readRecords (defaultSymbol file beyond : Bytes) : List (ReplayTick × ℕ) :=
  readEach recordBytes (readRecord defaultSymbol) (file.length / recordBytes) (file ++ beyond)

/-- `LocalDataReplayAdapter` -/
structure LocalDataReplayAdapter where
  ticks : List ReplayTick := []
  cursor : ℕ := 0
  lastError : String := ""

namespace LocalDataReplayAdapter

/-- `setLastError` before a load fails. -/
def fail (adapter : LocalDataReplayAdapter) (msg : String) : LocalDataReplayAdapter × Bool :=
  ({ adapter with lastError := msg }, false)

/-- `loadBinary` of a file that is there or not, and that is read as a whole or not. -/
def loadBinary (adapter : LocalDataReplayAdapter) (path : String) (file : Option Bytes)
    (readable : Bool) (beyond : Bytes) (defaultSymbol : Bytes) : LocalDataReplayAdapter × Bool :=
  match file with
  | none => adapter.fail ("LocalDataReplayAdapter: unable to open binary path: " ++ path)
  | some file =>
    if file.length = 0 ∨ file.length % recordBytes ≠ 0 then
      adapter.fail
        ("LocalDataReplayAdapter: binary size is invalid for tick record layout: " ++ path)
    else if !readable then
      adapter.fail ("LocalDataReplayAdapter: failed to read binary payload: " ++ path)
    else
      let ticks := (readRecords defaultSymbol file beyond).map Prod.fst
      if ticks.isEmpty then
        adapter.fail ("LocalDataReplayAdapter: binary contained zero ticks: " ++ path)
      else ({ adapter with ticks, cursor := 0 }, true)

/-- `nextTick` -/
def nextTick (adapter : LocalDataReplayAdapter) : LocalDataReplayAdapter × Option ReplayTick :=
  match adapter.ticks[adapter.cursor]? with
  | none => (adapter, none)
  | some tick => ({ adapter with cursor := adapter.cursor + 1 }, some tick)

/-- The ticks that a number of calls of `nextTick` give. -/
def replay : ℕ → LocalDataReplayAdapter → List ReplayTick
  | 0, _ => []
  | calls + 1, adapter =>
    match adapter.nextTick with
    | (_, none) => []
    | (adapter, some tick) => tick :: replay calls adapter

/-- Calls of `nextTick` give the ticks from the cursor on, in their order. -/
theorem replay_eq (calls : ℕ) (adapter : LocalDataReplayAdapter) :
    replay calls adapter = (adapter.ticks.drop adapter.cursor).take calls := by
  induction calls generalizing adapter with
  | zero => rfl
  | succ calls ih =>
    unfold replay nextTick
    cases htick : adapter.ticks[adapter.cursor]? with
    | none =>
      rw [List.drop_eq_nil_of_le (List.getElem?_eq_none_iff.mp htick), List.take_nil]
    | some tick =>
      obtain ⟨hlt, rfl⟩ := List.getElem?_eq_some_iff.mp htick
      dsimp only
      rw [ih, List.drop_eq_getElem_cons hlt, List.take_succ_cons]

/-- A load that fails leaves the ticks and the cursor. -/
theorem loadBinary_of_fails {adapter : LocalDataReplayAdapter} {path : String}
    {file : Option Bytes} {readable : Bool} {beyond defaultSymbol : Bytes}
    (h : (adapter.loadBinary path file readable beyond defaultSymbol).2 = false) :
    (adapter.loadBinary path file readable beyond defaultSymbol).1.ticks = adapter.ticks ∧
      (adapter.loadBinary path file readable beyond defaultSymbol).1.cursor = adapter.cursor := by
  unfold loadBinary at h ⊢
  cases file with
  | none => exact ⟨rfl, rfl⟩
  | some file =>
    dsimp only at h ⊢
    split
    · exact ⟨rfl, rfl⟩
    · split
      · exact ⟨rfl, rfl⟩
      · next hsize hreadable =>
        rw [if_neg hsize, if_neg hreadable] at h
        split
        · exact ⟨rfl, rfl⟩
        · next hticks =>
          rw [if_neg hticks] at h
          cases h

end LocalDataReplayAdapter

end TradeBot
