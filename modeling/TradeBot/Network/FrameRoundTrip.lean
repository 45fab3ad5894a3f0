import TradeBot.Library.BigEndian
import TradeBot.Network.WebSocketDecoder

/-!
# Frames that are sent and read back

The frames that `AsyncNetworkClient` writes, and that the decoder takes each of them back from
the front of its buffer, for every length encoding and mask.
-/

namespace TradeBot

open Library

namespace AsyncNetworkClient

/-- The mask of a frame, from a reading of the clock. -/
def frameMask (nowNs : ℕ) : Bytes :=
  let seed := nowNs &&& 0xffffffff
  [UInt8.ofNat ((seed >>> 24) &&& 0xff), UInt8.ofNat ((seed >>> 16) &&& 0xff),
    UInt8.ofNat ((seed >>> 8) &&& 0xff), UInt8.ofNat (seed &&& 0xff)]

/-- The length of a payload, with the mask bit. -/
def frameLength (maskBit : UInt8) (len : ℕ) : Bytes :=
  if len ≤ 125 then [maskBit ||| UInt8.ofNat len]
  else if len ≤ 0xffff then
    [maskBit ||| 126, UInt8.ofNat ((len >>> 8) &&& 0xff), UInt8.ofNat (len &&& 0xff)]
  else
    (maskBit ||| 127) ::
      [7, 6, 5, 4, 3, 2, 1, 0].map fun i => UInt8.ofNat ((len >>> (i * 8)) &&& 0xff)

/-- A payload under a mask. -/
def maskPayload (mask payload : Bytes) : Bytes :=
  payload.mapIdx fun i v => v ^^^ mask.getD (i % 4) 0

/-- `buildWsFrame`, with a reading of the clock. -/
def buildWsFrame (nowNs : ℕ) (opcode : UInt8) (payload : Bytes) (maskClientFrame : Bool) : Bytes :=
  let out := (0x80 ||| (opcode &&& 0x0f)) ::
    frameLength (if maskClientFrame then 0x80 else 0) payload.length
  if maskClientFrame then
    let mask := frameMask nowNs
    out ++ mask ++ maskPayload mask payload
  else out ++ payload

/-- The bits of the second byte of a frame. -/
theorem lengthByte_bits {short : UInt8} (h : short < 128) (masked : Bool) :
    ((if masked then 0x80 else 0) ||| short) &&& 0x7f = short ∧
      (((if masked then 0x80 else 0) ||| short) &&& 0x80 != 0) = masked := by
  have hall : ∀ n < 128, ∀ m : Bool,
      ((if m then 0x80 else 0) ||| UInt8.ofNat n) &&& 0x7f = UInt8.ofNat n ∧
        (((if m then 0x80 else 0) ||| UInt8.ofNat n) &&& 0x80 != 0) = m := by
    decide +kernel
  have hshort := hall short.toNat h masked
  rwa [UInt8.ofNat_toNat] at hshort

/-- The bits of the first byte of a frame. -/
theorem opcodeByte_bits {opcode : UInt8} (h : opcode < 16) :
    (0x80 ||| (opcode &&& 0x0f)) &&& 0x0f = opcode ∧
      ((0x80 ||| (opcode &&& 0x0f)) &&& 0x80 != 0) = true := by
  have hall : ∀ n < 16, (0x80 ||| (UInt8.ofNat n &&& 0x0f)) &&& 0x0f = UInt8.ofNat n ∧
      ((0x80 ||| (UInt8.ofNat n &&& 0x0f)) &&& 0x80 != 0) = true := by
    decide +kernel
  have hopcode := hall opcode.toNat h
  rwa [UInt8.ofNat_toNat] at hopcode

/-- Masking the low byte changes no byte. -/
theorem ofNat_land_mask (n : ℕ) : UInt8.ofNat (n &&& 0xff) = UInt8.ofNat n := by
  rw [← UInt8.toNat_inj, UInt8.toNat_ofNat', UInt8.toNat_ofNat', Nat.and_two_pow_sub_one_eq_mod n 8]
  exact Nat.mod_mod n 256

/-- The length byte and what follows it are read as the length. -/
theorem payloadLength_frameLength {len : ℕ} (h : len < 2 ^ 64) (masked : Bool) (rest : Bytes) :
    ∃ lengthByte extension, frameLength (if masked then 0x80 else 0) len = lengthByte :: extension ∧
      (lengthByte &&& 0x80 != 0) = masked ∧
      payloadLength (lengthByte &&& 0x7f) (extension ++ rest) = some (len, rest) := by
  unfold frameLength
  split
  · next hshort =>
    have hlen : (UInt8.ofNat len).toNat = len :=
      UInt8.toNat_ofNat_of_lt' (lt_of_le_of_lt hshort (by decide))
    have hlow : (UInt8.ofNat len).toNat < 128 := by omega
    obtain ⟨hbits, hmask⟩ := lengthByte_bits hlow masked
    refine ⟨_, [], rfl, hmask, ?_⟩
    have hne {marker : UInt8} (hmarker : 125 < marker.toNat) : UInt8.ofNat len ≠ marker := by
      rintro rfl
      omega
    unfold payloadLength
    rw [hbits, if_neg (hne (by decide)), if_neg (hne (by decide)), hlen]
    rfl
  split
  · next hlong hshort =>
    obtain ⟨hbits, hmask⟩ := lengthByte_bits (show 126 < 128 by decide) masked
    refine ⟨_, _, rfl, hmask, ?_⟩
    have hword : (UInt8.ofNat (len >>> 8)).toNat <<< 8 ||| (UInt8.ofNat len).toNat = len := by
      have hread := ofBigEndian_bigEndian (show len < 256 ^ 2 by omega)
      simpa [ofBigEndian, bigEndian, shiftIn] using hread
    rw [hbits, ofNat_land_mask, ofNat_land_mask]
    change some ((UInt8.ofNat (len >>> 8)).toNat <<< 8 ||| (UInt8.ofNat len).toNat, rest) = _
    rw [hword]
  · next hlong hlonger =>
    obtain ⟨hbits, hmask⟩ := lengthByte_bits (show 127 < 128 by decide) masked
    refine ⟨_, _, rfl, hmask, ?_⟩
    have hextension : ([7, 6, 5, 4, 3, 2, 1, 0].map fun i =>
        UInt8.ofNat ((len >>> (i * 8)) &&& 0xff)) = bigEndian 8 len := by
      simp only [List.map_cons, List.map_nil, ofNat_land_mask]
      rfl
    have hlength := length_bigEndian 8 len
    unfold payloadLength
    rw [hbits, hextension, if_neg (by decide), if_pos (by decide),
      if_neg (by rw [List.length_append]; omega), List.take_append_of_le_length (by omega),
      List.take_of_length_le (by omega), List.drop_left' hlength]
    change some (ofBigEndian (bigEndian 8 len), rest) = _
    rw [ofBigEndian_bigEndian (by omega)]

/-- Masking twice gives the payload back. -/
theorem unmask_masked (key payload : Bytes) :
    unmask true key (maskPayload key payload) = payload := by
  apply List.ext_getElem
  · rw [unmask, maskPayload, List.length_mapIdx, List.length_mapIdx]
  · intro i hi hi'
    simp only [unmask, maskPayload, List.getElem_mapIdx, if_true, UInt8.xor_assoc, UInt8.xor_self,
      UInt8.xor_zero]

/-- A payload that is not masked is kept. -/
theorem unmask_plain (key payload : Bytes) : unmask false key payload = payload := by
  apply List.ext_getElem
  · rw [unmask, List.length_mapIdx]
  · intro i hi hi'
    simp only [unmask, List.getElem_mapIdx, Bool.false_eq_true, if_false]

/-- Every mask of four bytes is the mask of some reading of the clock. -/
theorem exists_frameMask {key : Bytes} (h : key.length = 4) :
    ∃ nowNs < 2 ^ 64, frameMask nowNs = key := by
  have hkey := bigEndian_ofBigEndian key
  have hbound := (foldl_shiftIn key 0).2
  rw [h] at hkey hbound
  refine ⟨ofBigEndian key, by omega, ?_⟩
  have hseed : ofBigEndian key &&& 0xffffffff = ofBigEndian key := by
    rw [Nat.and_two_pow_sub_one_eq_mod _ 32]
    exact Nat.mod_eq_of_lt hbound
  rw [frameMask, hseed, ofNat_land_mask, ofNat_land_mask, ofNat_land_mask, ofNat_land_mask]
  exact hkey

/-- A frame with its header, its mask key and its payload in place. -/
theorem popOneFrame_eq_some {b0 b1 opcode : UInt8} {rest key text body payload trailing : Bytes}
    (hbits : b0 &&& 0x0f = opcode ∧ (b0 &&& 0x80 != 0) = true)
    (hlength : payloadLength (b1 &&& 0x7f) rest = some (payload.length, text))
    (hpayload : payload.length ≤ 2 ^ 20)
    (hkey : maskKey (b1 &&& 0x80 != 0) text = some (key, body ++ trailing))
    (hbody : body.length = payload.length)
    (hunmask : unmask (b1 &&& 0x80 != 0) key body = payload) :
    popOneFrame (b0 :: b1 :: rest) =
      some ({ opcode := opcode, fin := true, payload := payload }, trailing) := by
  have hlimit : ¬maxPayload < payload.length := not_lt.mpr hpayload
  unfold popOneFrame
  dsimp only
  rw [hlength]
  dsimp only
  rw [hkey]
  dsimp only
  rw [if_neg hlimit, if_neg (by rw [List.length_append]; omega), List.take_left' hbody,
    List.drop_left' hbody, hunmask, hbits.1, hbits.2]

/-- **Round trip of frames.** A frame that is built is taken from the front of the buffer with its
opcode and its payload, and the bytes behind it stay, whatever the clock says; and the clock gives
every mask. -/
theorem popOneFrame_buildWsFrame {opcode : UInt8} (hopcode : opcode < 16) {payload : Bytes}
    (hpayload : payload.length ≤ 2 ^ 20) (masked : Bool) (trailing : Bytes) :
    (∀ nowNs, popOneFrame (buildWsFrame nowNs opcode payload masked ++ trailing) =
        some ({ opcode := opcode, fin := true, payload := payload }, trailing)) ∧
      ∀ key : Bytes, key.length = 4 → ∃ nowNs < 2 ^ 64, frameMask nowNs = key := by
  refine ⟨fun nowNs => ?_, fun key => exists_frameMask⟩
  have hbits := opcodeByte_bits hopcode
  have hword : payload.length < 2 ^ 64 := by omega
  cases masked with
  | true =>
    obtain ⟨lengthByte, extension, hframe, hmask, hread⟩ := payloadLength_frameLength hword true
      (frameMask nowNs ++ (maskPayload (frameMask nowNs) payload ++ trailing))
    rw [if_pos rfl] at hframe
    simp only [buildWsFrame, hframe, if_true, List.cons_append, List.append_assoc]
    have hkey : maskKey (lengthByte &&& 0x80 != 0)
        (frameMask nowNs ++ (maskPayload (frameMask nowNs) payload ++ trailing)) =
          some (frameMask nowNs, maskPayload (frameMask nowNs) payload ++ trailing) := by
      rw [hmask]
      rfl
    refine popOneFrame_eq_some hbits hread hpayload hkey List.length_mapIdx ?_
    rw [hmask, unmask_masked]
  | false =>
    obtain ⟨lengthByte, extension, hframe, hmask, hread⟩ :=
      payloadLength_frameLength hword false (payload ++ trailing)
    rw [if_neg Bool.false_ne_true] at hframe
    simp only [buildWsFrame, hframe, Bool.false_eq_true, if_false, List.cons_append,
      List.append_assoc]
    have hkey : maskKey (lengthByte &&& 0x80 != 0) (payload ++ trailing) =
        some ([0, 0, 0, 0], payload ++ trailing) := by
      rw [hmask]
      rfl
    refine popOneFrame_eq_some hbits hread hpayload hkey rfl ?_
    rw [hmask, unmask_plain]

/-- A masked text frame, with the next frame behind it. -/
theorem popOneFrame_buildWsFrame_text :
    popOneFrame (buildWsFrame 0x12345678 0x1 (ascii "ping") true ++ [0x89, 0x00]) =
        some ({ opcode := 0x1, fin := true, payload := ascii "ping" }, [0x89, 0x00]) ∧
      ∃ nowNs < 2 ^ 64, frameMask nowNs = [1, 2, 3, 4] := by
  obtain ⟨hread, hmasks⟩ := popOneFrame_buildWsFrame (show 0x1 < 16 by decide)
    (show (ascii "ping").length ≤ 2 ^ 20 by decide) true [0x89, 0x00]
  exact ⟨hread 0x12345678, hmasks [1, 2, 3, 4] rfl⟩

end AsyncNetworkClient

end TradeBot
