import Mathlib.Data.List.GetD
import TradeBot.Library.Bytes
import TradeBot.Library.Machine
import TradeBot.Library.Sha256

/-!
# Signing of requests

The hash and the keyed hash that requests are signed with, on machine words and tables, and that
they are SHA-256 and HMAC-SHA256 for every key and every message.
-/

namespace TradeBot.AuthManager

open Library

section Model

/-- `K` -/
def K : List UInt32 :=
  [0x428a2f98, 0x71374491, 0xb5c0fbcf, 0xe9b5dba5, 0x3956c25b, 0x59f111f1, 0x923f82a4, 0xab1c5ed5,
    0xd807aa98, 0x12835b01, 0x243185be, 0x550c7dc3, 0x72be5d74, 0x80deb1fe, 0x9bdc06a7, 0xc19bf174,
    0xe49b69c1, 0xefbe4786, 0x0fc19dc6, 0x240ca1cc, 0x2de92c6f, 0x4a7484aa, 0x5cb0a9dc, 0x76f988da,
    0x983e5152, 0xa831c66d, 0xb00327c8, 0xbf597fc7, 0xc6e00bf3, 0xd5a79147, 0x06ca6351, 0x14292967,
    0x27b70a85, 0x2e1b2138, 0x4d2c6dfc, 0x53380d13, 0x650a7354, 0x766a0abb, 0x81c2c92e, 0x92722c85,
    0xa2bfe8a1, 0xa81a664b, 0xc24b8b70, 0xc76c51a3, 0xd192e819, 0xd6990624, 0xf40e3585, 0x106aa070,
    0x19a4c116, 0x1e376c08, 0x2748774c, 0x34b0bcb5, 0x391c0cb3, 0x4ed8aa4a, 0x5b9cca4f, 0x682e6ff3,
    0x748f82ee, 0x78a5636f, 0x84c87814, 0x8cc70208, 0x90befffa, 0xa4506ceb, 0xbef9a3f7, 0xc67178f2]

/-- `rotr` -/
def rotr (x n : UInt32) : UInt32 := (x >>> n) ||| (x <<< (32 - n))

/-- The words `h[0]` to `h[7]`, and the variables `a` to `hh` of a block. -/
structure HashWords where
  a : UInt32
  b : UInt32
  c : UInt32
  d : UInt32
  e : UInt32
  f : UInt32
  g : UInt32
  hh : UInt32

/-- `h` as it is declared. -/
def initialHash : HashWords where
  a := 0x6a09e667
  b := 0xbb67ae85
  c := 0x3c6ef372
  d := 0xa54ff53a
  e := 0x510e527f
  f := 0x9b05688c
  g := 0x1f83d9ab
  hh := 0x5be0cd19

/-- `paddedLen`, in words of 64 bits. -/
def paddedLen (size : ℕ) : ℕ :=
  let length := (size + 1 + 8) % 2 ^ 64
  let rem := length % 64
  if rem ≠ 0 then (length + (64 - rem)) % 2 ^ 64 else length

/-- The byte of `bitLen` that is `i` bytes above the lowest one. -/
def lengthByte (bitLen : UInt64) (i : ℕ) : UInt8 :=
  ((bitLen >>> UInt64.ofNat (i * 8)) &&& 0xff).toUInt8

/-- `padded`: the copied data, the byte behind it, and the bytes of the length from the end. -/
def padded (data : Bytes) : Bytes :=
  let length := paddedLen data.length
  let copied := data ++ List.replicate (length - data.length) 0
  (List.range 8).foldl
    (fun padded i => padded.set (length - 1 - i) (lengthByte (UInt64.ofNat data.length * 8) i))
    (copied.set data.length 0x80)

/-- `w[i]` from the block at `offset`. -/
def loadWord (padded : Bytes) (offset : ℕ) (w : List UInt32) (i : ℕ) : List UInt32 :=
  let j := offset + i * 4
  w.set i (((padded.getD j 0).toUInt32 <<< 24) ||| ((padded.getD (j + 1) 0).toUInt32 <<< 16) |||
    ((padded.getD (j + 2) 0).toUInt32 <<< 8) ||| (padded.getD (j + 3) 0).toUInt32)

/-- `w[i]` from the words before it. -/
def extendWord (w : List UInt32) (i : ℕ) : List UInt32 :=
  let s0 := rotr (w.getD (i - 15) 0) 7 ^^^ rotr (w.getD (i - 15) 0) 18 ^^^
    (w.getD (i - 15) 0 >>> 3)
  let s1 := rotr (w.getD (i - 2) 0) 17 ^^^ rotr (w.getD (i - 2) 0) 19 ^^^ (w.getD (i - 2) 0 >>> 10)
  w.set i (w.getD (i - 16) 0 + s0 + w.getD (i - 7) 0 + s1)

/-- `w` after its two loops for a block. -/
def blockWords (padded : Bytes) (offset : ℕ) (w : List UInt32) : List UInt32 :=
  (List.range' 16 48).foldl extendWord ((List.range' 0 16).foldl (loadWord padded offset) w)

/-- The body of the loop over the rounds. -/
def round (w : List UInt32) (s : HashWords) (i : ℕ) : HashWords :=
  let S1 := rotr s.e 6 ^^^ rotr s.e 11 ^^^ rotr s.e 25
  let ch := (s.e &&& s.f) ^^^ (~~~s.e &&& s.g)
  let temp1 := s.hh + S1 + ch + K.getD i 0 + w.getD i 0
  let S0 := rotr s.a 2 ^^^ rotr s.a 13 ^^^ rotr s.a 22
  let maj := (s.a &&& s.b) ^^^ (s.a &&& s.c) ^^^ (s.b &&& s.c)
  let temp2 := S0 + maj
  { a := temp1 + temp2, b := s.a, c := s.b, d := s.c
    e := s.d + temp1, f := s.e, g := s.f, hh := s.g }

/-- The body of the loop over the blocks. The words `w` stay from one block to the next. -/
def processBlock (padded : Bytes) (state : HashWords × List UInt32) (offset : ℕ) :
    HashWords × List UInt32 :=
  let h := state.1
  let w := blockWords padded offset state.2
  let s := (List.range 64).foldl (round w) h
  ({ a := h.a + s.a, b := h.b + s.b, c := h.c + s.c, d := h.d + s.d
     e := h.e + s.e, f := h.f + s.f, g := h.g + s.g, hh := h.hh + s.hh }, w)

/-- The bytes of a word in `out`. -/
def wordBytes (word : UInt32) : Bytes :=
  [((word >>> 24) &&& 0xff).toUInt8, ((word >>> 16) &&& 0xff).toUInt8,
    ((word >>> 8) &&& 0xff).toUInt8, (word &&& 0xff).toUInt8]

/-- `sha256` -/
def sha256 (data : Bytes) : Bytes :=
  let padded := padded data
  let offsets := List.range' 0 ((padded.length + 63) / 64) 64
  let h := (offsets.foldl (processBlock padded) (initialHash, List.replicate 64 0)).1
  [h.a, h.b, h.c, h.d, h.e, h.f, h.g, h.hh].flatMap wordBytes

/-- `toHex`: each byte as a hexadecimal number, filled with zeros to two places. -/
def toHex (data : Bytes) : Bytes :=
  data.flatMap fun b => ((Nat.toDigits 16 b.toNat).leftpad 2 '0').map byteOf

/-- The bytes of a key block: the key, or its hash when it is longer than a block. -/
def keyBlock (key : Bytes) : Bytes :=
  let copied := if 64 < key.length then sha256 key else key
  copied ++ (List.replicate 64 0).drop copied.length

/-- `hmacSha256Hex` -/
def hmacSha256Hex (key payload : Bytes) : Bytes :=
  let oKeyPad := (keyBlock key).map (· ^^^ 0x5c)
  let iKeyPad := (keyBlock key).map (· ^^^ 0x36)
  let innerHash := sha256 (iKeyPad ++ payload)
  let outerHash := sha256 (oKeyPad ++ innerHash)
  toHex outerHash

end Model

section Padding

/-- The padded length has room for the mark, the zeros and the length, and does not wrap. -/
theorem paddedLen_eq {size : ℕ} (h : size < 2 ^ 61) :
    paddedLen size = size + 1 + Sha256.zeroBytes size + 8 := by
  obtain ⟨hspec, hlt⟩ := Sha256.zeroBytes_spec size
  unfold paddedLen
  dsimp only
  split <;> omega

/-- A byte of the length is cut out by a shift. -/
theorem lengthByte_eq (bitLen : UInt64) {i : ℕ} (hi : i < 8) :
    lengthByte bitLen i = UInt8.ofNat (bitLen.toNat >>> (8 * i)) := by
  have hshift : (UInt64.ofNat (i * 8)).toNat % 64 = 8 * i := by
    rw [UInt64.toNat_ofNat']
    omega
  have hmask : (0xff : UInt64).toNat = 2 ^ 8 - 1 := rfl
  rw [← UInt8.toNat_inj, lengthByte, UInt64.toNat_toUInt8, UInt64.toNat_and,
    UInt64.toNat_shiftRight, hshift, UInt8.toNat_ofNat', hmask, Nat.and_two_pow_sub_one_eq_mod,
    Nat.mod_mod]

/-- The loop over the bytes of the length, from the end. -/
theorem foldl_lengthByte (front : Bytes) (bitLen : UInt64) {n : ℕ} (hn : n ≤ 8) :
    (List.range n).foldl
      (fun padded i => padded.set (front.length + 8 - 1 - i) (lengthByte bitLen i))
      (front ++ List.replicate 8 0) =
    front ++ List.replicate (8 - n) 0 ++ bigEndian n bitLen.toNat := by
  induction n with
  | zero => simp [bigEndian]
  | succ n ih =>
    have hzeros : List.replicate (8 - n) (0 : UInt8) = List.replicate (8 - (n + 1)) 0 ++ [0] := by
      rw [show 8 - n = 8 - (n + 1) + 1 by omega, List.replicate_succ']
    rw [List.range_succ, List.foldl_append, ih (by omega), List.foldl_cons, List.foldl_nil, hzeros,
      ← List.append_assoc, List.append_assoc _ [0], List.set_append_right _ _ (by simp; omega),
      lengthByte_eq bitLen (by omega)]
    have hindex : front.length + 8 - 1 - n -
        (front ++ List.replicate (8 - (n + 1)) (0 : UInt8)).length = 0 := by
      rw [List.length_append, List.length_replicate]
      omega
    rw [hindex, bigEndian]
    rfl

/-- The padding is the one of the standard. -/
theorem padded_eq_pad {data : Bytes} (h : data.length < 2 ^ 61) :
    padded data = Sha256.pad data := by
  have hbits : (UInt64.ofNat data.length * 8).toNat = 8 * data.length := by
    rw [UInt64.toNat_mul, UInt64.toNat_ofNat']
    change data.length % 2 ^ 64 * 8 % 2 ^ 64 = _
    omega
  let front := data ++ [0x80] ++ List.replicate (Sha256.zeroBytes data.length) 0
  have hlength : front.length = data.length + 1 + Sha256.zeroBytes data.length := by
    simp only [front, List.length_append, List.length_replicate, List.length_singleton]
  have hcopied : (data ++ List.replicate (paddedLen data.length - data.length) 0).set
      data.length 0x80 = front ++ List.replicate 8 0 := by
    rw [paddedLen_eq h, show data.length + 1 + Sha256.zeroBytes data.length + 8 - data.length =
      Sha256.zeroBytes data.length + 8 + 1 by omega, List.replicate_succ,
      List.set_append_right _ _ (le_refl _), Nat.sub_self, List.set_cons_zero,
      List.replicate_add]
    simp only [front, List.append_assoc, List.cons_append, List.nil_append]
  unfold padded
  dsimp only
  rw [hcopied, paddedLen_eq h, ← hlength, foldl_lengthByte front _ (le_refl 8), hbits]
  simp only [Nat.sub_self, List.replicate_zero, List.append_nil]
  rfl

end Padding

section Rounds

/-- The bits of the hash words. -/
def HashWords.toWorking (s : HashWords) : Sha256.Working where
  a := s.a.toBitVec
  b := s.b.toBitVec
  c := s.c.toBitVec
  d := s.d.toBitVec
  e := s.e.toBitVec
  f := s.f.toBitVec
  g := s.g.toBitVec
  h := s.hh.toBitVec

/-- Shifting both ways and joining the halves rotates the word. -/
theorem rotr_toBitVec (x : UInt32) {n : ℕ} (hpos : 0 < n) (hlt : n < 32) :
    (rotr x (UInt32.ofNat n)).toBitVec = x.toBitVec.rotateRight n := by
  have hright : (UInt32.ofNat n).toBitVec % 32 = BitVec.ofNat 32 n := by
    apply BitVec.eq_of_toNat_eq
    simp
    omega
  have hleft : (32 - UInt32.ofNat n).toBitVec % 32 = BitVec.ofNat 32 (32 - n) := by
    apply BitVec.eq_of_toNat_eq
    simp
    omega
  rw [rotr, UInt32.toBitVec_or, UInt32.toBitVec_shiftRight, UInt32.toBitVec_shiftLeft, hright,
    hleft, BitVec.rotateRight_def, Nat.mod_eq_of_lt hlt, BitVec.ushiftRight_eq',
    BitVec.shiftLeft_eq', BitVec.toNat_ofNat, BitVec.toNat_ofNat,
    Nat.mod_eq_of_lt (show n < 2 ^ 32 by omega), Nat.mod_eq_of_lt (show 32 - n < 2 ^ 32 by omega)]

/-- A prime's root lies between the fraction in a table, with its whole part, and the next one. -/
theorem rootFraction_eq {k p whole : ℕ} {fraction : UInt32} (hk : k ≠ 0)
    (hle : (whole * 2 ^ 32 + fraction.toNat) ^ k ≤ p * 2 ^ (32 * k))
    (hlt : p * 2 ^ (32 * k) < (whole * 2 ^ 32 + fraction.toNat + 1) ^ k) :
    Sha256.rootFraction k p = fraction.toBitVec := by
  rw [Sha256.rootFraction, integerRoot_eq hk hle hlt]
  apply BitVec.eq_of_toNat_eq
  have hfraction := fraction.toNat_lt
  rw [BitVec.toNat_ofNat, UInt32.toNat_toBitVec]
  omega

/-- The constants of the rounds are the ones of the standard. -/
theorem K_eq : ∀ i < 64, (K.getD i 0).toBitVec = Sha256.roundConstant i := by
  have hbounds : ∀ i < 64, let p := Sha256.primes.getD i 0
      let root := integerRoot 3 p * 2 ^ 32 + (K.getD i 0).toNat
      root ^ 3 ≤ p * 2 ^ (32 * 3) ∧ p * 2 ^ (32 * 3) < (root + 1) ^ 3 := by
    rw [Sha256.primes_eq]
    decide +kernel
  intro i hi
  obtain ⟨hle, hlt⟩ := hbounds i hi
  exact (rootFraction_eq (by decide) hle hlt).symm

/-- The initial hash of the code is the one of the standard. -/
theorem initialHash_eq : initialHash.toWorking = Sha256.initial := by
  have hbounds : ∀ i < 8, let p := Sha256.primes.getD i 0
      let fraction := [initialHash.a, initialHash.b, initialHash.c, initialHash.d, initialHash.e,
        initialHash.f, initialHash.g, initialHash.hh].getD i 0
      let root := integerRoot 2 p * 2 ^ 32 + fraction.toNat
      root ^ 2 ≤ p * 2 ^ (32 * 2) ∧ p * 2 ^ (32 * 2) < (root + 1) ^ 2 := by
    rw [Sha256.primes_eq]
    decide +kernel
  have hword (i : ℕ) (hi : i < 8) := rootFraction_eq (by decide) (hbounds i hi).1 (hbounds i hi).2
  unfold Sha256.initial HashWords.toWorking
  rw [Sha256.Working.mk.injEq]
  exact ⟨(hword 0 (by decide)).symm, (hword 1 (by decide)).symm, (hword 2 (by decide)).symm,
    (hword 3 (by decide)).symm, (hword 4 (by decide)).symm, (hword 5 (by decide)).symm,
    (hword 6 (by decide)).symm, (hword 7 (by decide)).symm⟩

/-- A round on words with the schedule of the standard is a round of the standard. -/
theorem round_toWorking {w : List UInt32} {schedule : ℕ → Sha256.Word} {i : ℕ} (hi : i < 64)
    (hw : (w.getD i 0).toBitVec = schedule i) (s : HashWords) :
    (round w s i).toWorking = Sha256.round schedule s.toWorking i := by
  have hrotr (x : UInt32) (n : ℕ) (hpos : 0 < n) (hlt : n < 32) := rotr_toBitVec x hpos hlt
  have hS1 : (rotr s.e 6 ^^^ rotr s.e 11 ^^^ rotr s.e 25).toBitVec =
      Sha256.bigSigma1 s.e.toBitVec := by
    rw [UInt32.toBitVec_xor, UInt32.toBitVec_xor, Sha256.bigSigma1,
      ← hrotr _ 6 (by decide) (by decide), ← hrotr _ 11 (by decide) (by decide),
      ← hrotr _ 25 (by decide) (by decide)]
    rfl
  have hS0 : (rotr s.a 2 ^^^ rotr s.a 13 ^^^ rotr s.a 22).toBitVec =
      Sha256.bigSigma0 s.a.toBitVec := by
    rw [UInt32.toBitVec_xor, UInt32.toBitVec_xor, Sha256.bigSigma0,
      ← hrotr _ 2 (by decide) (by decide), ← hrotr _ 13 (by decide) (by decide),
      ← hrotr _ 22 (by decide) (by decide)]
    rfl
  unfold round Sha256.round HashWords.toWorking
  simp only [UInt32.toBitVec_add, hS1, hS0, K_eq i hi, hw]
  rfl

end Rounds

section Blocks

/-- A word of four bytes. -/
theorem loadedWord_toBitVec (a b c d : UInt8) :
    ((a.toUInt32 <<< 24) ||| (b.toUInt32 <<< 16) ||| (c.toUInt32 <<< 8) ||| d.toUInt32).toBitVec =
      BitVec.ofNat 32 (ofBigEndian [a, b, c, d]) := by
  have hshift (x : UInt8) (n : UInt32) (hn : n.toNat ≤ 24) :
      (x.toUInt32 <<< n).toNat = x.toNat <<< n.toNat := by
    have hx := x.toNat_lt
    have hpow : 2 ^ n.toNat ≤ 2 ^ 24 := Nat.pow_le_pow_right (by decide) hn
    rw [UInt32.toNat_shiftLeft, UInt8.toNat_toUInt32, Nat.mod_eq_of_lt (by omega : n.toNat < 32),
      Nat.mod_eq_of_lt]
    rw [Nat.shiftLeft_eq]
    calc x.toNat * 2 ^ n.toNat
        ≤ 255 * 2 ^ 24 := Nat.mul_le_mul (by omega) hpow
      _ < 2 ^ 32 := by decide
  have hword : ofBigEndian [a, b, c, d] = ((a.toUInt32 <<< 24) ||| (b.toUInt32 <<< 16) |||
      (c.toUInt32 <<< 8) ||| d.toUInt32).toNat := by
    rw [UInt32.toNat_or, UInt32.toNat_or, UInt32.toNat_or, hshift a 24 (by decide),
      hshift b 16 (by decide), hshift c 8 (by decide), UInt8.toNat_toUInt32]
    simp only [ofBigEndian, List.foldl_cons, List.foldl_nil, shiftIn, Nat.zero_shiftLeft,
      Nat.zero_or, Nat.shiftLeft_or_distrib, ← Nat.shiftLeft_add]
    rfl
  apply BitVec.eq_of_toNat_eq
  rw [hword, BitVec.toNat_ofNat, UInt32.toNat_toBitVec, Nat.mod_eq_of_lt (UInt32.toNat_lt _)]

/-- The words below a number are the ones of a schedule. -/
structure WordsBelow (words : ℕ → Sha256.Word) (i : ℕ) (w : List UInt32) : Prop where
  length_eq : w.length = 64
  getD_eq : ∀ t < i, (w.getD t 0).toBitVec = words t

/-- One more word of the schedule is right once it has been set. -/
theorem WordsBelow.set {words : ℕ → Sha256.Word} {i : ℕ} {w : List UInt32} {x : UInt32}
    (h : WordsBelow words i w) (hi : i < 64) (hword : x.toBitVec = words i) :
    WordsBelow words (i + 1) (w.set i x) where
  length_eq := by rw [List.length_set, h.length_eq]
  getD_eq t ht := by
    rw [List.getD_eq_getElem?_getD, List.getElem?_set]
    split
    · next heq => rwa [if_pos (h.length_eq ▸ hi), Option.getD_some, ← heq]
    · next hne =>
      rw [← List.getD_eq_getElem?_getD]
      exact h.getD_eq t (by omega)

variable {padded : Bytes} {block : ℕ} {w : List UInt32}

/-- The loop over the words of a block. -/
theorem loadWords_spec (hblock : 64 * (block + 1) ≤ padded.length) (hw : w.length = 64) :
    WordsBelow (Sha256.blockWord padded block) 16
      ((List.range' 0 16).foldl (loadWord padded (64 * block)) w) := by
  have hstart : WordsBelow (Sha256.blockWord padded block) 0 w :=
    ⟨hw, fun t ht => absurd ht (Nat.not_lt_zero t)⟩
  refine foldl_range'_induct hstart fun i w _ hi h => h.set (by omega) ?_
  have hbytes : (padded.drop (64 * block + i * 4)).take 4 =
      [padded.getD (64 * block + i * 4) 0, padded.getD (64 * block + i * 4 + 1) 0,
        padded.getD (64 * block + i * 4 + 2) 0, padded.getD (64 * block + i * 4 + 3) 0] := by
    rw [List.getD_eq_getElem _ _ (by omega), List.getD_eq_getElem _ _ (by omega),
      List.getD_eq_getElem _ _ (by omega), List.getD_eq_getElem _ _ (by omega)]
    rw [List.drop_eq_getElem_cons (by omega), List.drop_eq_getElem_cons (by omega),
      List.drop_eq_getElem_cons (by omega), List.drop_eq_getElem_cons (by omega)]
    rfl
  rw [loadedWord_toBitVec, ← hbytes, Sha256.blockWord, Nat.mul_comm i 4]

/-- The loop over the words that the schedule adds. -/
theorem extendWords_spec {words : ℕ → Sha256.Word} (hw : WordsBelow words 16 w) :
    WordsBelow (Sha256.schedule words) 64 ((List.range' 16 48).foldl extendWord w) := by
  have hstart : WordsBelow (Sha256.schedule words) 16 w :=
    ⟨hw.length_eq, fun t ht => by rw [hw.getD_eq t ht, Sha256.schedule_of_lt words ht]⟩
  refine foldl_range'_induct hstart fun i w hlow hi h => h.set (by omega) ?_
  have hs0 (x : UInt32) : (rotr x 7 ^^^ rotr x 18 ^^^ (x >>> 3)).toBitVec =
      Sha256.smallSigma0 x.toBitVec := by
    rw [UInt32.toBitVec_xor, UInt32.toBitVec_xor, Sha256.smallSigma0,
      ← rotr_toBitVec x (show 0 < 7 by decide) (by decide),
      ← rotr_toBitVec x (show 0 < 18 by decide) (by decide)]
    rfl
  have hs1 (x : UInt32) : (rotr x 17 ^^^ rotr x 19 ^^^ (x >>> 10)).toBitVec =
      Sha256.smallSigma1 x.toBitVec := by
    rw [UInt32.toBitVec_xor, UInt32.toBitVec_xor, Sha256.smallSigma1,
      ← rotr_toBitVec x (show 0 < 17 by decide) (by decide),
      ← rotr_toBitVec x (show 0 < 19 by decide) (by decide)]
    rfl
  rw [UInt32.toBitVec_add, UInt32.toBitVec_add, UInt32.toBitVec_add, hs0, hs1,
    h.getD_eq _ (by omega), h.getD_eq _ (by omega), h.getD_eq _ (by omega), h.getD_eq _ (by omega),
    Sha256.schedule_of_le words hlow]
  ac_rfl

/-- A block on words is a block of the standard. -/
theorem processBlock_spec (hblock : 64 * (block + 1) ≤ padded.length) (h : HashWords)
    (hw : w.length = 64) :
    (processBlock padded (h, w) (64 * block)).1.toWorking =
      Sha256.compress h.toWorking (Sha256.blockWord padded block) ∧
    (processBlock padded (h, w) (64 * block)).2.length = 64 := by
  have hwords : WordsBelow (Sha256.schedule (Sha256.blockWord padded block)) 64
      (blockWords padded (64 * block) w) := extendWords_spec (loadWords_spec hblock hw)
  have hrounds : ((List.range 64).foldl (round (blockWords padded (64 * block) w)) h).toWorking =
      (List.range 64).foldl
        (Sha256.round (Sha256.schedule (Sha256.blockWord padded block))) h.toWorking := by
    refine List.foldl_rel (r := fun s t => HashWords.toWorking s = t) rfl ?_
    rintro i hi s _ rfl
    have hlt := List.mem_range.mp hi
    exact round_toWorking hlt (hwords.getD_eq i hlt) s
  unfold processBlock
  dsimp only
  refine ⟨?_, hwords.length_eq⟩
  rw [Sha256.compress, ← hrounds, Sha256.add_comm]
  generalize (List.range 64).foldl _ h = s
  rfl

end Blocks

section Digests

/-- A word in bytes. -/
theorem wordBytes_eq (word : UInt32) : wordBytes word = bigEndian 4 word.toBitVec.toNat := by
  have hmask : (0xff : UInt32).toNat = 2 ^ 8 - 1 := rfl
  have hbyte (n : UInt32) (hn : n.toNat < 32) :
      ((word >>> n) &&& 0xff).toUInt8 = UInt8.ofNat (word.toNat >>> n.toNat) := by
    rw [← UInt8.toNat_inj, UInt32.toNat_toUInt8, UInt32.toNat_and, UInt32.toNat_shiftRight,
      Nat.mod_eq_of_lt hn, UInt8.toNat_ofNat', hmask, Nat.and_two_pow_sub_one_eq_mod, Nat.mod_mod]
  have hlowest : (word &&& 0xff).toUInt8 = UInt8.ofNat (word.toNat >>> 0) := by
    rw [← UInt8.toNat_inj, UInt32.toNat_toUInt8, UInt32.toNat_and, UInt8.toNat_ofNat',
      Nat.shiftRight_zero, hmask, Nat.and_two_pow_sub_one_eq_mod, Nat.mod_mod]
  rw [wordBytes, hbyte 24 (by decide), hbyte 16 (by decide), hbyte 8 (by decide), hlowest]
  rfl

/-- The offsets of the blocks of a padded message. -/
theorem offsets_eq {length : ℕ} (h : length % 64 = 0) :
    List.range' 0 ((length + 63) / 64) 64 = (List.range (length / 64)).map (64 * ·) := by
  have hcount : (length + 63) / 64 = length / 64 := by omega
  apply List.ext_getElem
  · rw [List.length_range', List.length_map, List.length_range, hcount]
  · intro i _ _
    rw [List.getElem_range', List.getElem_map, List.getElem_range, Nat.zero_add]

/-- The hash is SHA-256. -/
theorem sha256_eq {data : Bytes} (h : data.length < 2 ^ 61) : sha256 data = Sha256.hash data := by
  have hblocks : (((List.range ((Sha256.pad data).length / 64)).map (64 * ·)).foldl
      (processBlock (Sha256.pad data)) (initialHash, List.replicate 64 0)).1.toWorking =
      (List.range ((Sha256.pad data).length / 64)).foldl
        (fun s block => Sha256.compress s (Sha256.blockWord (Sha256.pad data) block))
        Sha256.initial := by
    rw [List.foldl_map]
    refine (List.foldl_rel (r := fun (state : HashWords × List UInt32) s =>
      state.1.toWorking = s ∧ state.2.length = 64) ⟨initialHash_eq, List.length_replicate⟩ ?_).1
    rintro block hblock ⟨words, w⟩ _ ⟨rfl, hw⟩
    have hlt := List.mem_range.mp hblock
    exact processBlock_spec (by omega) words hw
  unfold sha256 Sha256.hash
  dsimp only
  rw [padded_eq_pad h, offsets_eq (Sha256.length_pad_mod data), ← hblocks, Sha256.digest]
  simp only [List.flatMap_cons, List.flatMap_nil, wordBytes_eq, HashWords.toWorking]

example : sha256 (ascii "abc") =
    [0xba, 0x78, 0x16, 0xbf, 0x8f, 0x01, 0xcf, 0xea, 0x41, 0x41, 0x40, 0xde, 0x5d, 0xae, 0x22, 0x23,
      0xb0, 0x03, 0x61, 0xa3, 0x96, 0x17, 0x7a, 0x9c, 0xb4, 0x10, 0xff, 0x61, 0xf2, 0x00, 0x15,
      0xad] := by
  decide +kernel

/-- Hexadecimal numbers filled to two places are two digits for each byte. -/
theorem toHex_eq (data : Bytes) : toHex data = lowerHex data := by
  have hbyte : ∀ n < 256, ((Nat.toDigits 16 n).leftpad 2 '0').map byteOf =
      [n / 16, n % 16].map fun digit =>
        UInt8.ofNat (if digit < 10 then 0x30 + digit else 0x61 + (digit - 10)) := by
    decide +kernel
  unfold toHex lowerHex
  congr 1
  funext b
  exact hbyte b.toNat b.toNat_lt

/-- A digest has 32 bytes. -/
theorem length_sha256 (data : Bytes) : (sha256 data).length = 32 := rfl

end Digests

section Signatures

/-- The key block is filled with zeros. -/
theorem keyBlock_spec {key : Bytes} (h : key.length < 2 ^ 61) :
    (keyBlock key).length = 64 ∧
      keyBlock key = (let short := if 64 < key.length then Sha256.hash key else key
        short ++ List.replicate (64 - short.length) 0) := by
  have hle : (if 64 < key.length then Sha256.hash key else key).length ≤ 64 := by
    split
    · rw [← sha256_eq h, length_sha256]
      decide
    · exact not_lt.mp (by assumption)
  unfold keyBlock
  dsimp only
  rw [sha256_eq h, List.drop_replicate]
  refine ⟨?_, rfl⟩
  rw [List.length_append, List.length_replicate]
  omega

/-- A signature is the HMAC-SHA256 of the payload in lowercase hexadecimal, for every key and
every payload whose lengths in bits fit the padding. -/
theorem hmacSha256Hex_eq (key payload : Bytes) (hkey : key.length < 2 ^ 61)
    (hpayload : payload.length < 2 ^ 61 - 64) :
    hmacSha256Hex key payload = lowerHex (hmac Sha256.hash 64 key payload) := by
  obtain ⟨hlength, hblock⟩ := keyBlock_spec hkey
  have hinner : ((keyBlock key).map (· ^^^ 0x36) ++ payload).length < 2 ^ 61 := by
    rw [List.length_append, List.length_map, hlength]
    omega
  have houter (inner : Bytes) :
      ((keyBlock key).map (· ^^^ 0x5c) ++ sha256 inner).length < 2 ^ 61 := by
    rw [List.length_append, List.length_map, hlength, length_sha256]
    decide
  unfold hmacSha256Hex hmac
  dsimp only
  rw [toHex_eq, sha256_eq (houter _), sha256_eq hinner, hblock]

/-- A key of 131 bytes is hashed before it is used. -/
theorem hmacSha256Hex_eq_longKey :
    hmacSha256Hex (List.replicate 131 0xaa) (List.replicate 56 0x61) =
      lowerHex (hmac Sha256.hash 64 (List.replicate 131 0xaa) (List.replicate 56 0x61)) :=
  hmacSha256Hex_eq _ _ (by rw [List.length_replicate]; decide)
    (by rw [List.length_replicate]; decide)

end Signatures

end TradeBot.AuthManager
