import TradeBot.Double
import TradeBot.Library.Binary64
import TradeBot.Library.ByteCodec

/-!
# Words, numbers and strings of a snapshot

`Writer` and `Reader` of `StateSerializer.cpp`, and the hexadecimal text of a payload. A
`std::string` is a sequence of bytes, each of which is a character below 256 here. The
error of a reader is its first message, empty for the checks that set none.
-/

namespace TradeBot

open Library

namespace Double

/-- The double of a 64-bit pattern. Both zeros are one value. -/
def ofBits (bits : UInt64) : Double :=
  let negative := decide (2 ^ 63 ≤ bits.toNat)
  let word := bits.toNat % 2 ^ 63
  if word < 2047 * 2 ^ 52 then
    .finite (if negative then -Binary64.magnitude word else Binary64.magnitude word)
  else if word = 2047 * 2 ^ 52 then .infinite negative
  else .nan

/-- The 64-bit pattern of a double. -/
def toBits : Double → UInt64
  | .finite value =>
    UInt64.ofNat ((if value < 0 then 2 ^ 63 else 0) + Binary64.magnitudeBits |value|)
  | .infinite negative => UInt64.ofNat ((if negative then 2 ^ 63 else 0) + 2047 * 2 ^ 52)
  | .nan => UInt64.ofNat (2047 * 2 ^ 52 + 2 ^ 51)

/-- A double that some 64-bit pattern stands for. -/
def IsBinary64 (value : Double) : Prop := ∃ bits, ofBits bits = value

/-- The double of a sign and a finite word. -/
theorem ofBits_word {word : ℕ} (hword : word < 2047 * 2 ^ 52) :
    ofBits (UInt64.ofNat word) = .finite (Binary64.magnitude word) ∧
      ofBits (UInt64.ofNat (2 ^ 63 + word)) = .finite (-Binary64.magnitude word) := by
  have htoNat : (UInt64.ofNat word).toNat = word :=
    UInt64.toNat_ofNat_of_lt' (by change word < 2 ^ 64; omega)
  have htoNat' : (UInt64.ofNat (2 ^ 63 + word)).toNat = 2 ^ 63 + word :=
    UInt64.toNat_ofNat_of_lt' (by change 2 ^ 63 + word < 2 ^ 64; omega)
  have hmod : word % 2 ^ 63 = word := Nat.mod_eq_of_lt (by omega)
  unfold ofBits
  dsimp only
  rw [htoNat, htoNat', Nat.add_mod_left, hmod, if_pos hword, if_pos hword,
    decide_eq_false (by omega), decide_eq_true (by omega)]
  exact ⟨rfl, rfl⟩

/-- The pattern of a finite double stands for it. -/
theorem ofBits_toBits {value : Double} (h : value.IsBinary64) (hfinite : value.isFinite = true) :
    ofBits value.toBits = value := by
  obtain ⟨bits, rfl⟩ := h
  unfold ofBits at hfinite
  dsimp only at hfinite
  split at hfinite
  · next hword =>
    have hvalue : ofBits bits = .finite (if decide (2 ^ 63 ≤ bits.toNat) then
        -Binary64.magnitude (bits.toNat % 2 ^ 63)
        else Binary64.magnitude (bits.toNat % 2 ^ 63)) := if_pos hword
    generalize bits.toNat % 2 ^ 63 = word at hword hvalue
    have hnonneg := Binary64.magnitude_nonneg word
    obtain ⟨hplus, hminus⟩ := ofBits_word hword
    have hword' := Binary64.magnitudeBits_magnitude hword
    rw [hvalue]
    by_cases hsign : decide (2 ^ 63 ≤ bits.toNat) = true
    · rw [if_pos hsign, toBits, abs_neg, abs_of_nonneg hnonneg, hword']
      by_cases hzero : word = 0
      · rw [(Binary64.magnitude_eq_zero_iff word).mpr hzero] at hplus ⊢
        rw [neg_zero, if_neg (lt_irrefl 0), Nat.zero_add, hplus]
      · have hne := mt (Binary64.magnitude_eq_zero_iff word).mp hzero
        rw [if_pos (neg_lt_zero.mpr (lt_of_le_of_ne hnonneg (Ne.symm hne))), hminus]
    · rw [if_neg hsign, toBits, abs_of_nonneg hnonneg, hword', if_neg (not_lt.mpr hnonneg),
        Nat.zero_add, hplus]
  · split at hfinite <;> cases hfinite

end Double

namespace StateSerializer

/-- `MAX_ITEMS` -/
def maxItems : ℕ := 1000000

/-- `MAX_STRING` -/
def maxString : ℕ := 1048576

/-- `MAX_PAYLOAD` -/
def maxPayload : ℕ := 128 * 1024 * 1024

/-- The characters of a string are bytes. -/
def IsBytes (s : String) : Prop := ∀ c ∈ s.toList, c.toNat < 256

instance (s : String) : Decidable (IsBytes s) :=
  List.decidableBAll (fun c : Char => c.toNat < 256) s.toList

namespace Writer

/-- `u8` -/
def u8 (value : UInt8) : List UInt8 := [value]

/-- `u32` -/
def u32 (value : ℕ) : List UInt8 := littleEndian 4 value

/-- `u64` -/
def u64 (value : ℕ) : List UInt8 := littleEndian 8 value

/-- `i64` -/
def i64 (value : Int64) : List UInt8 := u64 value.toUInt64.toNat

/-- `i32` -/
def i32 (value : ℤ) : List UInt8 := u32 (value % 2 ^ 32).toNat

/-- `boolean` -/
def boolean (value : Bool) : List UInt8 := u8 (if value then 1 else 0)

/-- `number` -/
def number (value : Double) : List UInt8 := u64 value.toBits.toNat

/-- `string` -/
def string (value : String) : List UInt8 :=
  u64 value.length ++ value.toList.map fun c => UInt8.ofNat c.toNat

end Writer

namespace Reader

/-- `u8` -/
def u8 : Reader UInt8 String UInt8 := fun bytes =>
  match bytes with
  | [] => .error "truncated payload"
  | b :: rest => .ok (b, rest)

/-- `integer`, of a width in bytes. -/
def integer (width : ℕ) : Reader UInt8 String ℕ := fun bytes =>
  if bytes.length < width then .error "truncated payload"
  else .ok (ofLittleEndian (bytes.take width), bytes.drop width)

/-- `u32` -/
def u32 : Reader UInt8 String ℕ := integer 4

/-- `u64` -/
def u64 : Reader UInt8 String ℕ := integer 8

/-- `i64` -/
def i64 : Reader UInt8 String Int64 := do
  let bits ← u64
  return (UInt64.ofNat bits).toInt64

/-- `i32` -/
def i32 : Reader UInt8 String ℤ := do
  let value ← u32
  return if value < 2 ^ 31 then value else value - 2 ^ 32

/-- `boolean` -/
def boolean : Reader UInt8 String Bool := do
  let value ← u8
  Reader.require (decide (value ≤ 1)) "invalid boolean"
  return decide (value ≠ 0)

/-- `number` -/
def number : Reader UInt8 String Double := do
  let bits ← u64
  let value := Double.ofBits (UInt64.ofNat bits)
  Reader.require value.isFinite "non-finite number"
  return value

/-- A number of bytes as characters. -/
def characters (size : ℕ) : Reader UInt8 String String := fun bytes =>
  if maxString < size ∨ bytes.length < size then .error "invalid string length"
  else .ok (String.ofList ((bytes.take size).map fun b => Char.ofNat b.toNat), bytes.drop size)

/-- `string` -/
def string : Reader UInt8 String String := do
  let size ← u64
  characters size

/-- `count` -/
def count : Reader UInt8 String ℕ := do
  let value ← u64
  Reader.require (decide (value ≤ maxItems)) "invalid item count"
  return value

/-- `done`: nothing is left to read. -/
def done (rest : List UInt8) : Bool := rest.isEmpty

end Reader

section RoundTrips

/-- A byte is read back. -/
theorem readsBack_u8 (value : UInt8) : Reader.u8.ReadsBack (Writer.u8 value) value := fun _ => rfl

/-- A number is read back from its bytes when they are enough for it. -/
theorem readsBack_integer {width n : ℕ} (h : n < 256 ^ width) :
    (Reader.integer width).ReadsBack (littleEndian width n) n := by
  intro rest
  have hlength : ¬(littleEndian width n ++ rest).length < width := by
    rw [List.length_append, length_littleEndian]
    omega
  have htake : (littleEndian width n ++ rest).take width = littleEndian width n :=
    List.take_left' (length_littleEndian width n)
  have hdrop : (littleEndian width n ++ rest).drop width = rest :=
    List.drop_left' (length_littleEndian width n)
  rw [Reader.integer, if_neg hlength, htake, hdrop, ofLittleEndian_littleEndian,
    Nat.mod_eq_of_lt h]

/-- A word of 32 bits is read back. -/
theorem readsBack_u32 {n : ℕ} (h : n < 2 ^ 32) : Reader.u32.ReadsBack (Writer.u32 n) n :=
  readsBack_integer (by omega)

/-- A word of 64 bits is read back. -/
theorem readsBack_u64 {n : ℕ} (h : n < 2 ^ 64) : Reader.u64.ReadsBack (Writer.u64 n) n :=
  readsBack_integer (by omega)

/-- A reader that converts what it read reads back what the conversion gives. -/
theorem ReadsBack.convert {α γ : Type} {r : Reader UInt8 String α} {f : α → γ}
    {written : List UInt8} {a : α} {c : γ} (h : r.ReadsBack written a) (hc : f a = c) :
    (r >>= fun a => (pure (f a) : Reader UInt8 String γ)).ReadsBack written c := by
  rw [← List.append_nil written, ← hc]
  exact h.bind (Reader.readsBack_pure _)

/-- A signed integer of 64 bits is read back. -/
theorem readsBack_i64 (value : Int64) : Reader.i64.ReadsBack (Writer.i64 value) value := by
  refine ReadsBack.convert (readsBack_u64 value.toUInt64.toNat_lt) ?_
  rw [UInt64.ofNat_toNat, Int64.toInt64_toUInt64]

/-- A signed integer of 32 bits is read back. -/
theorem readsBack_i32 {value : ℤ} (hl : -2 ^ 31 ≤ value) (hu : value < 2 ^ 31) :
    Reader.i32.ReadsBack (Writer.i32 value) value := by
  refine ReadsBack.convert (readsBack_u32 (by omega)) ?_
  split <;> omega

/-- A truth value is read back. -/
theorem readsBack_boolean (value : Bool) :
    Reader.boolean.ReadsBack (Writer.boolean value) value := by
  intro rest
  cases value <;> rfl

/-- A finite double is read back bit by bit. -/
theorem readsBack_number {value : Double} (h : value.IsBinary64)
    (hfinite : value.isFinite = true) : Reader.number.ReadsBack (Writer.number value) value := by
  have hvalue : Double.ofBits (UInt64.ofNat value.toBits.toNat) = value := by
    rw [UInt64.ofNat_toNat, Double.ofBits_toBits h hfinite]
  unfold Reader.number Writer.number
  rw [← List.append_nil (Writer.u64 _)]
  apply (readsBack_u64 value.toBits.toNat_lt).bind
  dsimp only
  rw [hvalue]
  exact Reader.ReadsBack.require hfinite (Reader.readsBack_pure value)

/-- A string of bytes is read back up to the limit of the reader. -/
theorem readsWithin_string {s : String} (hbytes : IsBytes s) (hsize : s.length < 2 ^ 64) :
    Reader.ReadsWithin (s.length ≤ maxString) Reader.string (Writer.string s) s := by
  have hlength : (s.toList.map fun c => UInt8.ofNat c.toNat).length = s.length := by
    rw [List.length_map, String.length_toList]
  have hchars : (s.toList.map fun c => UInt8.ofNat c.toNat).map (fun b => Char.ofNat b.toNat) =
      s.toList := by
    rw [List.map_map]
    calc s.toList.map ((fun b => Char.ofNat b.toNat) ∘ fun c => UInt8.ofNat c.toNat)
      _ = s.toList.map id := by
        apply List.map_congr_left
        intro c hc
        have hlt := hbytes c hc
        rw [Function.comp_apply, UInt8.toNat_ofNat_of_lt' (by exact hlt), Char.ofNat_toNat]
        rfl
      _ = s.toList := List.map_id _
  have hcharacters : Reader.ReadsWithin (s.length ≤ maxString) (Reader.characters s.length)
      (s.toList.map fun c => UInt8.ofNat c.toNat) s := by
    refine ⟨fun hlimit rest => ?_, fun hlimit rest => ?_⟩
    · have hguard : ¬(maxString < s.length ∨
          ((s.toList.map fun c => UInt8.ofNat c.toNat) ++ rest).length < s.length) := by
        rw [List.length_append, hlength]
        omega
      rw [Reader.characters, if_neg hguard, List.take_left' hlength, List.drop_left' hlength,
        hchars, String.ofList_toList]
    · rw [not_le] at hlimit
      exact ⟨_, if_pos (.inl hlimit)⟩
  exact ((readsBack_u64 hsize).within.bind hcharacters).congr (by rw [true_and])

/-- A number of items is read back up to the limit of the reader. -/
theorem readsWithin_count {n : ℕ} (hsize : n < 2 ^ 64) :
    Reader.ReadsWithin (n ≤ maxItems) Reader.count (Writer.u64 n) n := by
  have hguard : Reader.ReadsWithin (n ≤ maxItems)
      (do Reader.require (decide (n ≤ maxItems)) "invalid item count"
          return n : Reader UInt8 String ℕ) [] n := by
    refine ⟨fun hlimit => ?_, fun hlimit rest => ⟨"invalid item count", ?_⟩⟩
    · exact Reader.ReadsBack.require (decide_eq_true hlimit) (Reader.readsBack_pure n)
    · apply Reader.bind_error
      rw [Reader.require, if_neg (by simpa using hlimit)]
      rfl
  unfold Reader.count
  rw [← List.append_nil (Writer.u64 n)]
  exact ((readsBack_u64 hsize).within.bind hguard).congr (by rw [true_and])

end RoundTrips

section Hexadecimal

/-- The digits of `hexEncode`. -/
def hexDigits : List Char := "0123456789abcdef".toList

/-- The two digits of a byte. -/
def hexPair (b : UInt8) : List Char :=
  [hexDigits.getD (b >>> 4).toNat '0', hexDigits.getD (b &&& 0xf).toNat '0']

/-- `hexEncode` -/
def hexEncode (bytes : List UInt8) : String := String.ofList (bytes.flatMap hexPair)

/-- `hexDigit`; a character that is no digit has no value. -/
def hexDigit (c : Char) : Option ℕ :=
  if '0' ≤ c ∧ c ≤ '9' then some (c.toNat - '0'.toNat)
  else if 'a' ≤ c ∧ c ≤ 'f' then some (c.toNat - 'a'.toNat + 10)
  else if 'A' ≤ c ∧ c ≤ 'F' then some (c.toNat - 'A'.toNat + 10)
  else none

/-- The loop of `hexDecode` over pairs of digits. -/
def decodePairs : List Char → Option (List UInt8)
  | hi :: lo :: rest => do
    let high ← hexDigit hi
    let low ← hexDigit lo
    let bytes ← decodePairs rest
    return UInt8.ofNat (16 * high + low) :: bytes
  | _ => some []

/-- `hexDecode` -/
def hexDecode (text : String) : Option (List UInt8) :=
  if text.length % 2 ≠ 0 ∨ maxPayload < text.length / 2 then none
  else decodePairs text.toList

/-- Each hexadecimal digit is read as the number that it stands for. -/
theorem hexDigit_hexDigits : ∀ n < 16, hexDigit (hexDigits.getD n '0') = some n := by decide

/-- The upper digit of a byte. -/
theorem toNat_high (b : UInt8) : (b >>> 4).toNat = b.toNat / 16 := by
  rw [UInt8.toNat_shiftRight]
  exact Nat.shiftRight_eq_div_pow _ 4

/-- The lower digit of a byte. -/
theorem toNat_low (b : UInt8) : (b &&& 0xf).toNat = b.toNat % 16 := by
  rw [UInt8.toNat_and]
  exact Nat.and_two_pow_sub_one_eq_mod b.toNat 4

/-- The values of the two digits of a byte. -/
theorem hexDigit_hexPair (b : UInt8) :
    (hexPair b).map hexDigit = [some (b.toNat / 16), some (b.toNat % 16)] := by
  have hlt := b.toNat_lt
  rw [hexPair, List.map_cons, List.map_cons, List.map_nil, toNat_high, toNat_low,
    hexDigit_hexDigits _ (by omega), hexDigit_hexDigits _ (by omega)]

/-- The digits of a byte are decoded to it. -/
theorem decodePairs_pair (b : UInt8) (rest : List Char) :
    decodePairs (hexPair b ++ rest) = (decodePairs rest).map (b :: ·) := by
  have hdigits := hexDigit_hexPair b
  rw [hexPair] at hdigits ⊢
  simp only [List.map_cons, List.map_nil, List.cons.injEq, and_true] at hdigits
  rw [List.cons_append, List.cons_append, List.nil_append, decodePairs, hdigits.1, hdigits.2]
  dsimp only [bind, Option.bind, pure]
  rw [Nat.div_add_mod, UInt8.ofNat_toNat]
  cases decodePairs rest <;> rfl

/-- The digits of bytes are decoded to them. -/
theorem decodePairs_append (bytes : List UInt8) (rest : List Char) :
    decodePairs (bytes.flatMap hexPair ++ rest) = (decodePairs rest).map (bytes ++ ·) := by
  induction bytes with
  | nil => simp
  | cons b bytes ih =>
    rw [List.flatMap_cons, List.append_assoc, decodePairs_pair, ih, Option.map_map]
    rfl

/-- Pairs of digits are decoded to the bytes that they were written for. -/
theorem decodePairs_hexPair (bytes : List UInt8) :
    decodePairs (bytes.flatMap hexPair) = some bytes := by
  have h := decodePairs_append bytes []
  rwa [List.append_nil, show decodePairs [] = some [] from rfl, Option.map_some,
    List.append_nil] at h

/-- The hexadecimal text has two digits for each byte. -/
theorem length_hexEncode (bytes : List UInt8) : (hexEncode bytes).length = 2 * bytes.length := by
  rw [hexEncode, String.length_ofList, List.length_flatMap]
  induction bytes with
  | nil => rfl
  | cons b bytes ih =>
    rw [List.map_cons, List.sum_cons, ih, List.length_cons]
    change 2 + 2 * bytes.length = _
    omega

/-- Payloads up to the limit are decoded from their text, and larger ones are refused. -/
theorem hexDecode_hexEncode (bytes : List UInt8) :
    hexDecode (hexEncode bytes) = if bytes.length ≤ maxPayload then some bytes else none := by
  have hlength := length_hexEncode bytes
  unfold hexDecode
  by_cases hsize : bytes.length ≤ maxPayload
  · rw [if_neg (by omega), if_pos hsize, hexEncode, String.toList_ofList, decodePairs_hexPair]
  · rw [if_pos (by omega), if_neg hsize]

end Hexadecimal

end StateSerializer

end TradeBot
