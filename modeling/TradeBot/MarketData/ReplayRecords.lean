import TradeBot.LocalDataReplayAdapter
import Mathlib.Data.List.TakeWhile

/-!
# What a binary replay file keeps

Every field of a tick but the symbol is read back from its record. The symbol is cut to fifteen
bytes when it is written and at its first zero when it is read, and an empty one is replaced. The
search for that zero stays in the record only if the record has one.
-/

namespace TradeBot

open Library

section Records

variable {memory : Bytes} {word : UInt64} {offset : ℕ}

/-- A word takes eight bytes. -/
@[simp] theorem length_wordBytes (word : UInt64) : (wordBytes word).length = 8 :=
  length_littleEndian 8 word.toNat

/-- Skipping a word and more skips the word first. -/
theorem drop_wordBytes (h : 8 ≤ offset) :
    (wordBytes word ++ memory).drop offset = memory.drop (offset - 8) := by
  rw [List.drop_append, length_wordBytes, List.drop_eq_nil_of_le (by simpa using h),
    List.nil_append]

/-- A word that is read beyond another one does not depend on it. -/
theorem wordAt_skip (h : 8 ≤ offset) :
    wordAt (wordBytes word ++ memory) offset = wordAt memory (offset - 8) := by
  unfold wordAt
  rw [drop_wordBytes h]

/-- The first word of memory is read back. -/
theorem wordAt_zero : wordAt (wordBytes word ++ memory) 0 = word := by
  unfold wordAt
  rw [List.drop_zero, List.take_left' (length_wordBytes word)]
  unfold wordBytes
  rw [ofLittleEndian_littleEndian, show 256 ^ 8 = 2 ^ 64 from rfl,
    Nat.mod_eq_of_lt (UInt64.toNat_lt word), UInt64.ofNat_toNat]

/-- Records have one size. -/
theorem BinaryTickRecord.length_bytes (r : BinaryTickRecord) : r.bytes.length = recordBytes := by
  simp only [BinaryTickRecord.bytes, List.length_append, length_wordBytes, List.length_cons,
    List.length_nil, r.length_symbol]
  rfl

/-- **A record is read back.** All fields of a record come back but its symbol, which the search
for a zero finds. -/
theorem readRecord_bytes (r : BinaryTickRecord) (defaultSymbol rest : Bytes) :
    let found := readSymbol defaultSymbol (r.symbol ++ rest)
    readRecord defaultSymbol (r.bytes ++ rest) =
      ({ timestampNs := r.timestampNs
         bidPrice := r.bidPrice
         bidSize := r.bidSize
         askPrice := r.askPrice
         askSize := r.askSize
         tradePrice := r.tradePrice
         tradeSize := r.tradeSize
         flags := r.flags
         symbol := if found.1.isEmpty then ascii "UNKNOWN" else found.1 }, found.2) := by
  intro found
  have hsymbol : (r.bytes ++ rest).drop symbolOffset = r.symbol ++ rest := by
    unfold BinaryTickRecord.bytes symbolOffset
    simp only [List.append_assoc]
    rw [drop_wordBytes (by decide), drop_wordBytes (by decide), drop_wordBytes (by decide),
      drop_wordBytes (by decide), drop_wordBytes (by decide), drop_wordBytes (by decide),
      drop_wordBytes (by decide)]
    rfl
  have hflags : ((r.bytes ++ rest).drop 56).headD 0 = r.flags := by
    unfold BinaryTickRecord.bytes
    simp only [List.append_assoc]
    rw [drop_wordBytes (by decide), drop_wordBytes (by decide), drop_wordBytes (by decide),
      drop_wordBytes (by decide), drop_wordBytes (by decide), drop_wordBytes (by decide),
      drop_wordBytes (by decide)]
    rfl
  unfold readRecord
  dsimp only
  rw [hsymbol, hflags]
  unfold BinaryTickRecord.bytes
  simp only [List.append_assoc]
  simp only [wordAt_zero, wordAt_skip, Nat.le_refl, Nat.reduceLeDiff, Nat.reduceSub, Nat.sub_self]
  rfl

end Records

section Symbols

/-- A symbol that its field holds: not empty, of at most fifteen bytes, and without a zero. -/
def Storable (symbol : Bytes) : Prop :=
  symbol ≠ [] ∧ symbol.length ≤ symbolBytes - 1 ∧ 0 ∉ symbol

instance (symbol : Bytes) : Decidable (Storable symbol) :=
  inferInstanceAs (Decidable (_ ∧ _ ∧ _))

/-- The text of a symbol that its field keeps. -/
def keptText (symbol : Bytes) : Bytes :=
  (symbol.take (symbolBytes - 1)).takeWhile (· ≠ 0)

/-- The symbol that is read back. -/
def keptSymbol (defaultSymbol symbol : Bytes) : Bytes :=
  if keptText symbol = [] then
    if defaultSymbol = [] then ascii "UNKNOWN" else defaultSymbol
  else keptText symbol

/-- A symbol that can be stored is kept as it is. -/
theorem keptText_eq_self {symbol : Bytes} (h : Storable symbol) : keptText symbol = symbol := by
  obtain ⟨-, hlength, hzero⟩ := h
  unfold keptText
  rw [List.take_of_length_le hlength, List.takeWhile_eq_self_iff]
  exact fun x hx => decide_eq_true (ne_of_mem_of_not_mem hx hzero)

/-- What is kept of a symbol is again storable. -/
theorem storable_keptSymbol (symbol : Bytes) : Storable (keptSymbol [] symbol) := by
  unfold keptSymbol
  split
  · rw [if_pos rfl]
    decide
  · next hkept =>
    refine ⟨hkept, ?_, fun hzero => ?_⟩
    · unfold keptText
      exact ((List.takeWhile_sublist _).length_le).trans (List.length_take_le _ _)
    · have hne := List.mem_takeWhile_imp hzero
      simp at hne

/-- **Which symbols are kept.** A symbol is read back, whatever the default one, exactly when it
is storable. -/
theorem keptSymbol_eq_self_iff (symbol : Bytes) :
    (∀ defaultSymbol, keptSymbol defaultSymbol symbol = symbol) ↔ Storable symbol := by
  constructor
  · intro h
    rw [← h []]
    exact storable_keptSymbol symbol
  · intro h defaultSymbol
    unfold keptSymbol
    rw [keptText_eq_self h, if_neg h.1]

/-- A search that meets the zero after a text ends there or before. -/
theorem takeWhile_append_zero (text rest : Bytes) :
    (text ++ 0 :: rest).takeWhile (· ≠ 0) = text.takeWhile (· ≠ 0) := by
  induction text with
  | nil => exact List.takeWhile_cons_of_neg (by simp)
  | cons c text ih =>
    rw [List.cons_append, List.takeWhile_cons, List.takeWhile_cons, ih]

/-- The symbol field ends in a zero, and what stands before it is kept. -/
theorem zeroTerminated_symbolField (symbol rest : Bytes) :
    zeroTerminated 0 (symbolField symbol ++ rest) =
      (keptText symbol, (keptText symbol).length + 1) := by
  have hpos : 0 < symbolBytes := by decide
  have hcount : symbolBytes - min symbol.length (symbolBytes - 1) =
      (symbolBytes - 1 - min symbol.length (symbolBytes - 1)) + 1 := by omega
  have htake : symbol.take (min symbol.length (symbolBytes - 1)) =
      symbol.take (symbolBytes - 1) := by
    rw [Nat.min_comm, ← List.take_take, List.take_length]
  have htext : (symbolField symbol ++ rest).takeWhile (· ≠ 0) = keptText symbol := by
    unfold symbolField keptText
    dsimp only
    rw [hcount, List.replicate_succ, htake, List.append_assoc, List.cons_append,
      takeWhile_append_zero]
  unfold zeroTerminated
  dsimp only
  rw [htext]

/-- The text that is found in the field of a symbol. -/
theorem readSymbol_symbolField (defaultSymbol symbol rest : Bytes) :
    (readSymbol defaultSymbol (symbolField symbol ++ rest)).1 =
      if keptText symbol = [] then defaultSymbol else keptText symbol := by
  have hfound := zeroTerminated_symbolField symbol rest
  -- the first byte is zero exactly when nothing of the symbol is kept
  have hhead : (symbolField symbol ++ rest).headD 0 ≠ 0 ↔ keptText symbol ≠ [] := by
    have htext := congrArg Prod.fst hfound
    change (symbolField symbol ++ rest).takeWhile (· ≠ 0) = keptText symbol at htext
    rw [← htext]
    cases symbolField symbol ++ rest with
    | nil => exact ⟨fun h => (h rfl).elim, fun h => (h rfl).elim⟩
    | cons c bytes =>
      rw [List.headD_cons, List.takeWhile_cons]
      by_cases hc : c = 0 <;> simp [hc]
  unfold readSymbol
  by_cases htext : keptText symbol = []
  · rw [if_neg fun h => hhead.mp h htext, if_pos htext]
  · rw [if_pos (hhead.mpr htext), if_neg htext, hfound]

/-- **A tick is read back.** Its record gives the tick, with what is kept of its symbol. -/
theorem readRecord_record (tick : ReplayTick) (defaultSymbol rest : Bytes) :
    (readRecord defaultSymbol (tick.record.bytes ++ rest)).1 =
      { tick with symbol := keptSymbol defaultSymbol tick.symbol } := by
  have hfound := readSymbol_symbolField defaultSymbol tick.symbol rest
  have hsymbol : (if (readSymbol defaultSymbol (symbolField tick.symbol ++ rest)).1.isEmpty then
      ascii "UNKNOWN" else (readSymbol defaultSymbol (symbolField tick.symbol ++ rest)).1) =
        keptSymbol defaultSymbol tick.symbol := by
    simp only [hfound, List.isEmpty_iff]
    unfold keptSymbol
    by_cases htext : keptText tick.symbol = []
    · rw [if_pos htext, if_pos htext]
    · rw [if_neg htext, if_neg htext, if_neg htext]
  rw [readRecord_bytes, ← hsymbol]
  rfl

end Symbols

section RoundTrip

variable {path : String} {good : ℕ → Bool}

/-- What the loop writes, when every write leaves the stream good. -/
theorem writeRecords_eq_ok {ticks : List ReplayTick} {i : ℕ} {file : Bytes} :
    writeRecords path good i ticks = .ok file ↔
      (∀ k < ticks.length, good (i + k) = true) ∧
        file = ticks.flatMap fun tick => tick.record.bytes := by
  induction ticks generalizing i file with
  | nil =>
    unfold writeRecords
    rw [Except.ok.injEq, eq_comm]
    exact ⟨fun h => ⟨nofun, h⟩, And.right⟩
  | cons tick ticks ih =>
    unfold writeRecords
    by_cases hgood : good i = true
    · rw [if_pos hgood, bind_eq_ok]
      constructor
      · rintro ⟨rest, hrest, hfile⟩
        obtain ⟨hwrites, rfl⟩ := ih.mp hrest
        rw [pure_eq_ok] at hfile
        refine ⟨fun k hk => ?_, hfile.symm⟩
        cases k with
        | zero => exact hgood
        | succ k =>
          have hnext := hwrites k (by rw [List.length_cons] at hk; omega)
          rwa [Nat.add_right_comm, Nat.add_assoc] at hnext
      · rintro ⟨hwrites, rfl⟩
        refine ⟨_, ih.mpr ⟨fun k hk => ?_, rfl⟩, rfl⟩
        have hnext := hwrites (k + 1) (by rw [List.length_cons]; omega)
        rwa [← Nat.add_assoc, Nat.add_right_comm] at hnext
    · rw [if_neg hgood]
      constructor
      · intro h
        cases h
      · rintro ⟨hwrites, -⟩
        exact (hgood (hwrites 0 (by rw [List.length_cons]; omega))).elim

/-- What a file is, when `writeBinary` succeeds. -/
theorem writeBinary_eq_ok {opened : Bool} {ticks : List ReplayTick} {file : Bytes} :
    writeBinary path opened good ticks = .ok file ↔
      ticks ≠ [] ∧ opened = true ∧ (∀ k < ticks.length, good k = true) ∧
        file = ticks.flatMap fun tick => tick.record.bytes := by
  unfold writeBinary
  by_cases hempty : ticks = []
  · rw [if_pos (by rw [hempty]; rfl)]
    exact ⟨nofun, fun h => (h.1 hempty).elim⟩
  · rw [if_neg (by rwa [List.isEmpty_iff])]
    cases opened with
    | false => exact ⟨nofun, fun h => absurd h.2.1 Bool.false_ne_true⟩
    | true =>
      rw [if_neg (by decide), writeRecords_eq_ok]
      simp only [Nat.zero_add]
      exact ⟨fun h => ⟨hempty, trivial, h⟩, fun h => h.2.2⟩

/-- **What is loaded.** A file of ticks loads, and gives every tick with what is kept of its
symbol. -/
theorem loadBinary_written (adapter : LocalDataReplayAdapter) (path : String)
    {ticks : List ReplayTick} (hticks : ticks ≠ []) (beyond defaultSymbol : Bytes) :
    adapter.loadBinary path (some (ticks.flatMap fun tick => tick.record.bytes)) true beyond
        defaultSymbol =
      ({ adapter with
        ticks := ticks.map fun tick =>
          { tick with symbol := keptSymbol defaultSymbol tick.symbol }
        cursor := 0 }, true) := by
  have hsize := length_flatMap_of_size fun tick (_ : tick ∈ ticks) => tick.record.length_bytes
  have hpos : 0 < recordBytes := by decide
  have hlength : 0 < ticks.length := List.length_pos_iff.mpr hticks
  have hread : (readRecords defaultSymbol (ticks.flatMap fun tick => tick.record.bytes)
      beyond).map Prod.fst =
        ticks.map fun tick => { tick with symbol := keptSymbol defaultSymbol tick.symbol } := by
    unfold readRecords
    rw [hsize, Nat.mul_div_cancel_left _ hpos, map_readEach]
    exact readEach_flatMap (fun tick _ => tick.record.length_bytes)
      (fun tick _ rest => readRecord_record tick defaultSymbol rest) beyond
  unfold LocalDataReplayAdapter.loadBinary
  dsimp only
  rw [hsize, Nat.mul_mod_right, if_neg, if_neg (by decide), hread, if_neg]
  · rwa [List.isEmpty_iff, List.map_eq_nil_iff]
  · have hproduct := Nat.mul_pos hpos hlength
    omega

/-- A file loads as a list of ticks: the load succeeds, and the ticks that are replayed
afterwards are these, in their order. -/
def LoadsAs (path : String) (file : Bytes) (ticks : List ReplayTick) : Prop :=
  ∀ (adapter : LocalDataReplayAdapter) (beyond defaultSymbol : Bytes),
    let loaded := adapter.loadBinary path (some file) true beyond defaultSymbol
    loaded.2 = true ∧ loaded.1.ticks = ticks ∧ loaded.1.replay ticks.length = ticks

/-- **Round trip.** Where the file can be written, it loads as the list that was written exactly
when the symbol of every tick is storable: a list with another symbol is not refused. -/
theorem binary_roundTrip_iff (path : String) (opened : Bool) (good : ℕ → Bool)
    (ticks : List ReplayTick) :
    (∀ file, writeBinary path opened good ticks = .ok file → LoadsAs path file ticks) ↔
      (opened = true → (∀ k < ticks.length, good k = true) →
        ∀ tick ∈ ticks, Storable tick.symbol) := by
  constructor
  · intro h hopened hgood tick htick
    have hticks := List.ne_nil_of_mem htick
    have hloads := h _ (writeBinary_eq_ok.mpr ⟨hticks, hopened, hgood, rfl⟩) {} [] []
    have hsame := hloads.2.1
    rw [loadBinary_written {} path hticks] at hsame
    obtain ⟨k, hk, rfl⟩ := List.getElem_of_mem htick
    have hkept := congrArg (fun loaded => loaded[k]?.map ReplayTick.symbol) hsame
    simp only [List.getElem?_map, List.getElem?_eq_getElem hk, Option.map_some,
      Option.some.injEq] at hkept
    rw [← hkept]
    exact storable_keptSymbol _
  · rintro h file hwrite adapter beyond defaultSymbol
    obtain ⟨hticks, hopened, hgood, rfl⟩ := writeBinary_eq_ok.mp hwrite
    have hsame : (ticks.map fun tick =>
        { tick with symbol := keptSymbol defaultSymbol tick.symbol }) = ticks := by
      conv_rhs => rw [← List.map_id ticks]
      apply List.map_congr_left
      intro tick htick
      rw [(keptSymbol_eq_self_iff tick.symbol).mpr (h hopened hgood tick htick) defaultSymbol]
      rfl
    rw [loadBinary_written adapter path hticks, hsame]
    refine ⟨rfl, rfl, ?_⟩
    rw [LocalDataReplayAdapter.replay_eq]
    exact List.take_length

/-- A tick of a symbol with sixteen letters. -/
def longSymbolTick : ReplayTick := { timestampNs := 1, symbol := ascii "BTCUSDTPERPETUAL" }

/-- The last letter of a symbol with sixteen letters is lost. -/
theorem binary_cuts_symbol : ∃ file,
    writeBinary "./ticks.bin" true (fun _ => true) [longSymbolTick] = .ok file ∧
    ((({} : LocalDataReplayAdapter).loadBinary "./ticks.bin" (some file) true [] []).1.ticks.map
      ReplayTick.symbol) = [ascii "BTCUSDTPERPETUA"] ∧
    ¬LoadsAs "./ticks.bin" file [longSymbolTick] := by
  have hloaded : (({} : LocalDataReplayAdapter).loadBinary "./ticks.bin"
      (some longSymbolTick.record.bytes) true [] []).1.ticks.map ReplayTick.symbol =
        [ascii "BTCUSDTPERPETUA"] := by decide +kernel
  refine ⟨longSymbolTick.record.bytes, rfl, hloaded, fun h => ?_⟩
  rw [(h {} [] []).2.1] at hloaded
  exact absurd hloaded (by decide)

end RoundTrip

section Bounds

/-- The symbol field of a record of a file. -/
def symbolFieldAt (file : Bytes) (i : ℕ) : Bytes :=
  (file.drop (recordBytes * i + symbolOffset)).take symbolBytes

/-- The search for the end of a symbol stays in its field exactly when the field has a zero. -/
theorem readSymbol_le_iff (defaultSymbol : Bytes) {field : Bytes}
    (hfield : field.length = symbolBytes) (rest : Bytes) :
    (readSymbol defaultSymbol (field ++ rest)).2 ≤ symbolBytes ↔ 0 ∈ field := by
  have hpos : 0 < field.length := by
    rw [hfield]
    decide
  unfold readSymbol
  split
  · rw [← hfield]
    exact zeroTerminated_le_iff 0 hpos rest
  · next hhead =>
    rw [not_not] at hhead
    cases field with
    | nil => exact absurd hpos (lt_irrefl 0)
    | cons c field =>
      rw [List.cons_append, List.headD_cons] at hhead
      rw [hhead]
      exact ⟨fun _ => List.mem_cons_self, fun _ => (by decide : 1 ≤ symbolBytes)⟩

/-- What is in memory at the symbol of a record. -/
theorem drop_symbol {file : Bytes} {i : ℕ} (hi : i < file.length / recordBytes)
    (beyond : Bytes) :
    (((file ++ beyond).drop (recordBytes * i)).drop symbolOffset) =
        symbolFieldAt file i ++ (file.drop (recordBytes * (i + 1)) ++ beyond) ∧
      (symbolFieldAt file i).length = symbolBytes := by
  have hsize : recordBytes = symbolOffset + symbolBytes := rfl
  have hend : recordBytes * (i + 1) ≤ file.length := by
    have hle := Nat.mul_le_mul_left recordBytes (Nat.succ_le_of_lt hi)
    exact hle.trans (Nat.mul_div_le file.length recordBytes)
  have hnext : recordBytes * (i + 1) = recordBytes * i + symbolOffset + symbolBytes := by
    rw [Nat.mul_succ, hsize, Nat.add_assoc]
  constructor
  · have hsplit := List.take_append_drop symbolBytes (file.drop (recordBytes * i + symbolOffset))
    rw [List.drop_drop] at hsplit
    unfold symbolFieldAt
    rw [List.drop_drop, List.drop_append_of_le_length (by omega), hnext, ← List.append_assoc,
      hsplit]
  · unfold symbolFieldAt
    rw [List.length_take, List.length_drop]
    omega

/-- **The search for a symbol's end.** In a file of complete records it stays in every field, with
whatever follows the records in memory, exactly when every symbol field has a zero. -/
theorem symbol_reads_bounded_iff (defaultSymbol file beyond : Bytes) :
    (∀ r ∈ readRecords defaultSymbol file beyond, r.2 ≤ symbolBytes) ↔
      ∀ i < file.length / recordBytes, 0 ∈ symbolFieldAt file i := by
  unfold readRecords
  rw [readEach_eq_map]
  simp only [List.forall_mem_map, List.mem_range]
  refine forall₂_congr fun i hi => ?_
  obtain ⟨hdrop, hlength⟩ := drop_symbol hi beyond
  change (readSymbol defaultSymbol (((file ++ beyond).drop (recordBytes * i)).drop
    symbolOffset)).2 ≤ symbolBytes ↔ _
  rw [hdrop]
  exact readSymbol_le_iff defaultSymbol hlength _

/-- A file of one record without a zero is loaded with a symbol of three bytes that follow the
file in memory. -/
theorem symbol_read_beyond_field :
    let file := List.replicate recordBytes 65
    let beyond := ascii "KEY" ++ [0]
    (readRecords [] file beyond).map Prod.snd = [20] ∧
      (({} : LocalDataReplayAdapter).loadBinary "./ticks.bin" (some file) true beyond
        []).1.ticks.map ReplayTick.symbol = [ascii "AAAAAAAAAAAAAAAAKEY"] ∧
      ¬∀ r ∈ readRecords [] file beyond, r.2 ≤ symbolBytes := by
  intro file beyond
  have hreads : (readRecords [] file beyond).map Prod.snd = [20] := by decide +kernel
  refine ⟨hreads, by decide +kernel, fun h => ?_⟩
  have hall : ∀ n ∈ (readRecords [] file beyond).map Prod.snd, n ≤ symbolBytes :=
    List.forall_mem_map.mpr h
  rw [hreads] at hall
  exact absurd (hall 20 List.mem_cons_self) (by decide)

end Bounds

end TradeBot
