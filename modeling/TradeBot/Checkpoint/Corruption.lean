import TradeBot.Checkpoint.Loadable
import TradeBot.Library.Checksum

/-!
# Damaged snapshots

A file that was written and in which one character was replaced is refused, unless a digit of the
payload was put in the other letter case. The envelope is compared with what its fields render to,
so that only the checksum and the payload can differ, and the checksum tells any two payloads
apart that differ in one byte.
-/

namespace TradeBot

open Library

namespace StateSerializer

section Checksums

/-- No step of the checksum loses anything: the factor is odd. -/
theorem lossless_checksum :
    Lossless fun (value : UInt64) (byte : UInt8) =>
      (value ^^^ byte.toUInt64) * 1099511628211 := by
  have hinverse : (1099511628211 : UInt64) * 14886173955864302971 = 1 := by decide
  have hmul {x y : UInt64} (h : x * 1099511628211 = y * 1099511628211) : x = y := by
    calc x = x * 1099511628211 * 14886173955864302971 := by
          rw [UInt64.mul_assoc, hinverse, UInt64.mul_one]
      _ = y := by rw [h, UInt64.mul_assoc, hinverse, UInt64.mul_one]
  constructor
  · intro byte value value' h
    exact (UInt64.xor_left_inj _).mp (hmul h)
  · intro value byte byte' h
    exact UInt8.toUInt64_inj.mp ((UInt64.xor_right_inj _).mp (hmul h))

/-- Replacing one byte keeps the checksum only when the byte is the same. -/
theorem checksum_replaced_iff (before after : List UInt8) (a b : UInt8) :
    checksum (before ++ a :: after) = checksum (before ++ b :: after) ↔ a = b :=
  lossless_checksum.foldl_replaced_iff before after a b _

/-- Numbers with the same hexadecimal digits are the same. -/
theorem mod_eq_of_digits {v w n : ℕ} (h : ∀ k < n, v / 16 ^ k % 16 = w / 16 ^ k % 16) :
    v % 16 ^ n = w % 16 ^ n := by
  induction n with
  | zero => rw [pow_zero, Nat.mod_one, Nat.mod_one]
  | succ n ih =>
    rw [Nat.mod_pow_succ, Nat.mod_pow_succ, ih fun k hk => h k (Nat.lt_succ_of_lt hk),
      h n (Nat.lt_succ_self n)]

/-- Different checksums are written differently. -/
theorem hex64_injective : Function.Injective hex64 := by
  intro v w heq
  unfold hex64 at heq
  have hdigits := List.map_inj_left.mp (String.ofList_injective heq)
  have hmod : v.toNat % 16 ^ 16 = w.toNat % 16 ^ 16 := by
    apply mod_eq_of_digits
    intro k hk
    have hdigit := congrArg hexDigit (hdigits (15 - k) (List.mem_range.mpr (by omega)))
    rw [hexDigit_hexDigits _ (Nat.mod_lt _ (by decide)),
      hexDigit_hexDigits _ (Nat.mod_lt _ (by decide)), Option.some.injEq,
      show 15 - (15 - k) = k by omega] at hdigit
    exact hdigit
  apply UInt64.toNat_inj.mp
  rwa [show 16 ^ 16 = 2 ^ 64 from rfl, Nat.mod_eq_of_lt v.toNat_lt,
    Nat.mod_eq_of_lt w.toNat_lt] at hmod

end Checksums

section Digits

/-- The characters of a digit are its lower and its upper case one. -/
theorem hexDigit_eq_some {c : Char} {n : ℕ} (h : hexDigit c = some n) :
    n < 16 ∧ (c = hexDigits.getD n '0' ∨ c = (hexDigits.getD n '0').toUpper) := by
  have hsmall : c.toNat < 128 := by
    unfold hexDigit at h
    split at h
    · next hc => exact lt_of_le_of_lt (UInt32.le_iff_toNat_le.mp hc.2) (by decide)
    · split at h
      · next hc => exact lt_of_le_of_lt (UInt32.le_iff_toNat_le.mp hc.2) (by decide)
      · split at h
        · next hc => exact lt_of_le_of_lt (UInt32.le_iff_toNat_le.mp hc.2) (by decide)
        · cases h
  have hall : ∀ k < 128, ((hexDigit (Char.ofNat k)).all fun n =>
      decide (n < 16 ∧ (Char.ofNat k = hexDigits.getD n '0' ∨
        Char.ofNat k = (hexDigits.getD n '0').toUpper))) = true := by decide +kernel
  have hc := hall c.toNat hsmall
  rw [Char.ofNat_toNat, h] at hc
  exact of_decide_eq_true hc

/-- A digit and its upper case have one value. -/
theorem hexDigit_toUpper {c : Char} (hc : c ∈ hexDigits) : hexDigit c.toUpper = hexDigit c := by
  have hall : hexDigits.all (fun c => decide (hexDigit c.toUpper = hexDigit c)) = true := by
    decide +kernel
  exact of_decide_eq_true (List.all_eq_true.mp hall c hc)

/-- A character with the value of a digit is the digit or its upper case. -/
theorem eq_or_toUpper {c old : Char} (hold : old ∈ hexDigits) (h : hexDigit c = hexDigit old) :
    c = old ∨ c = old.toUpper := by
  have hdigits : hexDigits.all (fun a => (hexDigit a).any fun n =>
      decide (a = hexDigits.getD n '0')) = true := by decide +kernel
  have hvalue := List.all_eq_true.mp hdigits old hold
  rw [← h] at hvalue
  cases hc : hexDigit c with
  | none =>
    rw [hc] at hvalue
    cases hvalue
  | some n =>
    rw [hc] at hvalue
    rw [of_decide_eq_true hvalue]
    exact (hexDigit_eq_some hc).2

/-- Texts whose digits have the same values are decoded alike. -/
theorem decodePairs_congr {text text' : List Char} (h : text.map hexDigit = text'.map hexDigit) :
    decodePairs text = decodePairs text' := by
  induction text using decodePairs.induct generalizing text' with
  | case1 hi lo rest ih =>
    rcases text' with _ | ⟨hi', _ | ⟨lo', rest'⟩⟩
    · cases h
    · simp at h
    · simp only [List.map_cons, List.cons.injEq] at h
      rw [decodePairs, decodePairs, h.1, h.2.1, ih h.2.2]
  | case2 text hshort =>
    have hlength := congrArg List.length h
    rw [List.length_map, List.length_map] at hlength
    rcases text with _ | ⟨c, _ | ⟨d, rest⟩⟩
    · rw [List.length_eq_zero_iff.mp hlength.symm]
    · obtain ⟨c', rfl⟩ := List.length_eq_one_iff.mp hlength.symm
      rfl
    · exact (hshort c d rest rfl).elim

/-- Two characters among the digits of bytes. -/
theorem decodePairs_two (hi lo : Char) (before after : List UInt8) :
    decodePairs (before.flatMap hexPair ++ ([hi, lo] ++ after.flatMap hexPair)) =
      (hexDigit hi).bind fun high => (hexDigit lo).map fun low =>
        before ++ UInt8.ofNat (16 * high + low) :: after := by
  rw [decodePairs_append, List.cons_append, List.cons_append, List.nil_append, decodePairs,
    decodePairs_hexPair]
  cases hexDigit hi with
  | none => rfl
  | some high => cases hexDigit lo <;> rfl

/-- A position among the digits of bytes belongs to one of the bytes. -/
theorem exists_byte_at {payload : List UInt8} {j : ℕ}
    (hj : j < (payload.flatMap hexPair).length) :
    ∃ before b after, payload = before ++ b :: after ∧
      (before.flatMap hexPair).length = 2 * (j / 2) := by
  have hlength (bytes : List UInt8) : (bytes.flatMap hexPair).length = 2 * bytes.length := by
    rw [← length_hexEncode, hexEncode, String.length_ofList]
  rw [hlength] at hj
  have hk : j / 2 < payload.length := by omega
  refine ⟨payload.take (j / 2), payload[j / 2], payload.drop (j / 2 + 1), ?_, ?_⟩
  · rw [List.getElem_cons_drop, List.take_append_drop]
  · rw [hlength, List.length_take]
    omega

/-- Two characters in the place of a byte's digits have their values, when the checksum stays. -/
theorem digits_of_checksum {before after decoded : List UInt8} {b : UInt8} {hi lo : Char}
    (hdecoded : decodePairs (before.flatMap hexPair ++ ([hi, lo] ++ after.flatMap hexPair)) =
      some decoded)
    (hchecksum : checksum decoded = checksum (before ++ b :: after)) :
    hexDigit hi = some (b.toNat / 16) ∧ hexDigit lo = some (b.toNat % 16) := by
  rw [decodePairs_two, Option.bind_eq_some_iff] at hdecoded
  obtain ⟨high, hhi, hdecoded⟩ := hdecoded
  obtain ⟨low, hlo, rfl⟩ := Option.map_eq_some_iff.mp hdecoded
  rw [checksum_replaced_iff] at hchecksum
  have hhigh := (hexDigit_eq_some hhi).1
  have hlow := (hexDigit_eq_some hlo).1
  have hvalue := congrArg UInt8.toNat hchecksum
  rw [UInt8.toNat_ofNat_of_lt' (by change _ < 256; omega)] at hvalue
  rw [hhi, hlo, Option.some.injEq, Option.some.injEq]
  omega

/-- **A replaced digit.** Where a payload with a replaced digit has the same checksum, the new
digit has the value of the old one. -/
theorem hexDigit_eq_of_checksum {payload decoded : List UInt8} {j : ℕ}
    (hj : j < (payload.flatMap hexPair).length) {c : Char}
    (hdecoded : decodePairs ((payload.flatMap hexPair).set j c) = some decoded)
    (hchecksum : checksum decoded = checksum payload) :
    hexDigit c = hexDigit (payload.flatMap hexPair)[j] := by
  obtain ⟨before, b, after, rfl, hbefore⟩ := exists_byte_at hj
  have hpair : (hexPair b).length = 2 := rfl
  have hold := hexDigit_hexPair b
  simp only [List.flatMap_append, List.flatMap_cons] at hdecoded ⊢
  rw [List.set_append_right _ _ (by omega), hbefore, List.set_append_left _ _ (by omega)]
    at hdecoded
  rw [List.getElem_append_right (by omega), List.getElem_append_left (by omega)]
  simp only [hexPair, List.map_cons, List.map_nil, List.cons.injEq, and_true] at hold
  rcases Nat.mod_two_eq_zero_or_one j with hparity | hparity
  · have hj0 : j - 2 * (j / 2) = 0 := by omega
    simp only [hbefore, hj0] at hdecoded ⊢
    exact (digits_of_checksum hdecoded hchecksum).1.trans hold.1.symm
  · have hj1 : j - 2 * (j / 2) = 1 := by omega
    simp only [hbefore, hj1] at hdecoded ⊢
    exact (digits_of_checksum hdecoded hchecksum).2.trans hold.2.symm

end Digits

section Documents

variable {e : Envelope}

/-- The text of a document before its checksum. -/
def frameHead : List Char :=
  ("\x7b\n  \"schema\": \"tradebot.backtest-state\",\n  \"version\": 13,\n  " ++
    "\"payloadEncoding\": \"hex-v1\",\n  \"payloadChecksum\": \"").toList

/-- The text of a document between its checksum and its payload. -/
def frameMiddle : List Char := "\",\n  \"payload\": \"".toList

/-- The text of a document after its payload. -/
def frameEnd : List Char := "\"\n\x7d\n".toList

/-- The number of characters before the payload of a document. -/
def payloadStart : ℕ := 144

/-- The text of a written envelope: a frame of fixed characters around checksum and payload. -/
theorem toList_text_eq (hschema : e.schema = "tradebot.backtest-state")
    (hversion : e.version = snapshotVersion) (hencoding : e.encoding = "hex-v1") :
    e.text.toList =
      (frameHead ++ e.checksum.toList ++ frameMiddle) ++ (e.payload.toList ++ frameEnd) := by
  have hhead : frameHead = "\x7b\n  \"schema\": \"".toList ++ "tradebot.backtest-state".toList ++
      "\",\n  \"version\": ".toList ++ (toString snapshotVersion).toList ++
      ",\n  \"payloadEncoding\": \"".toList ++ "hex-v1".toList ++
      "\",\n  \"payloadChecksum\": \"".toList := by decide +kernel
  unfold Envelope.text
  rw [hschema, hversion, hencoding, hhead]
  unfold frameMiddle frameEnd
  repeat rw [String.toList_append]
  simp only [List.append_assoc]

/-- The part before the payload has a fixed length, as the checksum has sixteen digits. -/
theorem length_frame (hchecksum : e.checksum.length = 16) :
    (frameHead ++ e.checksum.toList ++ frameMiddle).length = payloadStart := by
  have hhead : frameHead.length = 111 := by decide +kernel
  have hmiddle : frameMiddle.length = 17 := by decide +kernel
  rw [List.length_append, List.length_append, hhead, hmiddle, String.length_toList, hchecksum]
  rfl

/-- What a document was, when it opened. -/
theorem exists_of_openEnvelope {contents : String} {bytes : List UInt8}
    (h : openEnvelope contents = .ok bytes) :
    ∃ e : Envelope, contents = e.text ∧ e.schema = "tradebot.backtest-state" ∧
      e.version = snapshotVersion ∧ e.encoding = "hex-v1" ∧
      decodePairs e.payload.toList = some bytes ∧ e.checksum = hex64 (checksum bytes) := by
  unfold openEnvelope at h
  simp only [bind_eq_ok, failIf_eq_ok, pure_eq_ok] at h
  obtain ⟨_, -, e, -, _, htext, _, hschema, _, hversion, _, hencoding, decoded, hdecoded, _, hsum,
    rfl⟩ := h
  refine ⟨e, of_not_not (of_decide_eq_false htext), of_not_not (of_decide_eq_false hschema),
    of_not_not (of_decide_eq_false hversion), of_not_not (of_decide_eq_false hencoding), ?_,
    (of_not_not (of_decide_eq_false hsum)).symm⟩
  unfold hexDecode at hdecoded
  split at hdecoded
  · cases hdecoded
  · cases hpairs : decodePairs e.payload.toList with
    | none =>
      rw [hpairs] at hdecoded
      cases hdecoded
    | some pairs =>
      rw [hpairs] at hdecoded
      cases hdecoded
      rfl

/-- Documents with the same checksum whose payloads are decoded alike open alike. -/
theorem Framed.openEnvelope_congr {e' : Envelope} (h : Framed e) (h' : Framed e')
    (hchecksum : e'.checksum = e.checksum) (hlength : e'.text.length = e.text.length)
    (hpayload : hexDecode e'.payload = hexDecode e.payload) :
    openEnvelope e'.text = openEnvelope e.text := by
  unfold openEnvelope
  rw [h.parse_eq, h'.parse_eq, hlength]
  dsimp only [Option.elim]
  simp only [ok_bind, ne_eq, not_true_eq_false, decide_false, h.schema, h'.schema, h.version,
    h'.version, h.encoding, h'.encoding, hchecksum, hpayload]

end Documents

section Damage

/-- A file with one character replaced. -/
def damaged (contents : String) (i : ℕ) (c : Char) : String :=
  String.ofList (contents.toList.set i c)

/-- The new character is the one of the payload at this position in upper case. -/
def CaseChange (contents : String) (i : ℕ) (c : Char) : Prop :=
  payloadStart ≤ i ∧ i + frameEnd.length < contents.length ∧
    ∃ old, contents.toList[i]? = some old ∧ c = old.toUpper

variable {payload : List UInt8} {i : ℕ} {c : Char}

/-- The text of a document up to its payload. -/
def beforePayload (payload : List UInt8) : List Char :=
  frameHead ++ (hex64 (checksum payload)).toList ++ frameMiddle

/-- So the payload of every envelope starts at the same place. -/
theorem length_beforePayload (payload : List UInt8) :
    (beforePayload payload).length = payloadStart :=
  length_frame (e := envelope payload) (length_hex64 _)

/-- The text of the envelope of a payload, in its three parts. -/
theorem toList_envelope (payload : List UInt8) :
    (envelope payload).text.toList =
      beforePayload payload ++ (payload.flatMap hexPair ++ frameEnd) := by
  rw [toList_text_eq rfl rfl rfl]
  unfold envelope hexEncode beforePayload
  dsimp only
  rw [String.toList_ofList]

/-- The digit of a document at a position of its payload. -/
theorem getElem?_envelope (hi : payloadStart ≤ i)
    (hdigit : i - payloadStart < (payload.flatMap hexPair).length) :
    (envelope payload).text.toList[i]? = some (payload.flatMap hexPair)[i - payloadStart] := by
  have hlength := length_beforePayload payload
  rw [toList_envelope, List.getElem?_append_right (by omega), hlength,
    List.getElem?_append_left hdigit, List.getElem?_eq_getElem hdigit]

/-- Every character of an encoded payload is one of the sixteen digits. -/
theorem mem_hexDigits_payload {old : Char} (hold : old ∈ payload.flatMap hexPair) :
    old ∈ hexDigits := by
  apply isHex_hexEncode payload old
  rwa [hexEncode, String.toList_ofList]

/-- The length of an envelope depends on the payload alone. -/
theorem length_envelope (payload : List UInt8) :
    (envelope payload).text.length =
      payloadStart + (payload.flatMap hexPair).length + frameEnd.length := by
  rw [← String.length_toList, toList_envelope, List.length_append, List.length_append,
    length_beforePayload, Nat.add_assoc]

/-- **A damaged file that opens.** Only a digit of its payload was replaced, by the upper case. -/
theorem caseChange_of_opens {bytes : List UInt8}
    (hi : i < (envelope payload).text.toList.length)
    (hc : c ≠ (envelope payload).text.toList[i])
    (hopen : openEnvelope (damaged (envelope payload).text i c) = .ok bytes) :
    CaseChange (envelope payload).text i c := by
  obtain ⟨e, htext, hschema, hversion, hencoding, hdecoded, hsum⟩ := exists_of_openEnvelope hopen
  have hchanged := ne_of_set_eq hi hc
  have hset := congrArg String.toList htext
  rw [damaged, String.toList_ofList, toList_text_eq hschema hversion hencoding] at hset
  rw [toList_envelope] at hset hchanged
  have hlength := length_frame (e := e) (by rw [hsum, length_hex64])
  -- what stands before the payload depends on the bytes only
  have hsame (hbytes : bytes = payload) : frameHead ++ e.checksum.toList ++ frameMiddle =
      beforePayload payload := by
    rw [hsum, hbytes]
    rfl
  rw [set_append_eq_iff (hlength.trans (length_beforePayload payload).symm)] at hset
  split at hset
  · next hbefore =>
    -- the payload is the one that was written, and so is the checksum
    have hpayload := List.append_cancel_right hset.2
    rw [← hpayload, decodePairs_hexPair, Option.some.injEq] at hdecoded
    rw [List.set_append_left _ _ hbefore, hset.1, hsame hdecoded.symm] at hchanged
    exact (hchanged rfl).elim
  · next hafter =>
    obtain ⟨hbefore, hrest⟩ := hset
    have hchecksum : hex64 (checksum payload) = hex64 (checksum bytes) := by
      unfold beforePayload at hbefore
      rw [List.append_assoc, List.append_assoc] at hbefore
      have htexts := List.append_cancel_right (List.append_cancel_left hbefore)
      rw [hsum] at htexts
      exact String.toList_injective htexts
    have hsums := hex64_injective hchecksum
    have hlengths := congrArg List.length hrest
    rw [List.length_set, List.length_append, List.length_append] at hlengths
    rw [set_append_eq_iff (by omega)] at hrest
    split at hrest
    · next hdigit =>
      rw [← hrest.1] at hdecoded
      have hvalue := hexDigit_eq_of_checksum hdigit hdecoded hsums.symm
      have hstart := length_beforePayload payload
      simp only [hstart] at hvalue hdigit hafter
      have hold := getElem?_envelope (Nat.not_lt.mp hafter) hdigit
      rw [List.getElem?_eq_getElem hi, Option.some.injEq] at hold
      rw [hold] at hc
      have hmem := mem_hexDigits_payload (List.getElem_mem hdigit)
      refine ⟨Nat.not_lt.mp hafter, ?_, (payload.flatMap hexPair)[i - payloadStart],
        getElem?_envelope (Nat.not_lt.mp hafter) hdigit, ?_⟩
      · rw [length_envelope]
        omega
      · exact (eq_or_toUpper hmem hvalue).resolve_left hc
    · obtain ⟨hpayload, hend⟩ := hrest
      rw [List.set_append_right _ _ (Nat.not_lt.mp hafter),
        List.set_append_right _ _ (by omega), hend] at hchanged
      exact (hchanged rfl).elim

/-- **The other letter case.** A file whose payload has a digit in upper case opens as the file
that was written. -/
theorem CaseChange.openEnvelope_eq (h : CaseChange (envelope payload).text i c) :
    openEnvelope (damaged (envelope payload).text i c) = openEnvelope (envelope payload).text := by
  obtain ⟨hstart, hend, old, hold, rfl⟩ := h
  rw [length_envelope] at hend
  have hdigit : i - payloadStart < (payload.flatMap hexPair).length := by omega
  rw [getElem?_envelope hstart hdigit, Option.some.injEq] at hold
  have hmem : old ∈ hexDigits := by
    rw [← hold]
    exact mem_hexDigits_payload (List.getElem_mem hdigit)
  -- the envelope of the damaged file
  let digits := (payload.flatMap hexPair).set (i - payloadStart) old.toUpper
  let e : Envelope := { envelope payload with payload := String.ofList digits }
  have hvalues : digits.map hexDigit = (payload.flatMap hexPair).map hexDigit := by
    rw [List.map_set, hexDigit_toUpper hmem, ← hold, ← List.map_set, List.set_getElem_self]
  have hframed : Framed e := by
    refine ⟨rfl, rfl, rfl, (framed_envelope payload).checksum, fun d hd => ?_⟩
    rw [String.toList_ofList] at hd
    have hvalue := List.mem_map_of_mem (f := hexDigit) hd
    rw [hvalues] at hvalue
    obtain ⟨d', hd', heq⟩ := List.mem_map.mp hvalue
    rw [← heq]
    apply (isHex_hexEncode payload).isDigits
    rwa [hexEncode, String.toList_ofList]
  have hrendered : e.text.toList = beforePayload payload ++ (digits ++ frameEnd) := by
    have hfields : e.text.toList =
        beforePayload payload ++ ((String.ofList digits).toList ++ frameEnd) :=
      toList_text_eq rfl rfl rfl
    rwa [String.toList_ofList] at hfields
  have htext : damaged (envelope payload).text i old.toUpper = e.text := by
    apply String.toList_injective
    rw [hrendered, damaged, String.toList_ofList, toList_envelope,
      List.set_append_right _ _ (by rw [length_beforePayload]; omega), length_beforePayload,
      List.set_append_left _ _ hdigit]
  rw [htext]
  refine (framed_envelope payload).openEnvelope_congr hframed rfl ?_ ?_
  · rw [← htext, damaged, String.length_ofList, List.length_set, String.length_toList]
  · unfold hexDecode
    have hpairs : decodePairs e.payload.toList = decodePairs (envelope payload).payload.toList := by
      apply decodePairs_congr
      change (String.ofList digits).toList.map hexDigit =
        (String.ofList (payload.flatMap hexPair)).toList.map hexDigit
      rw [String.toList_ofList, String.toList_ofList, hvalues]
    have hlengths : e.payload.length = (envelope payload).payload.length := by
      change (String.ofList digits).length = (String.ofList (payload.flatMap hexPair)).length
      rw [String.length_ofList, String.length_ofList, List.length_set]
    rw [hpairs, hlengths]

/-- **Damage is found.** A file that was written and then had one character replaced is refused
whatever objects it is loaded into, unless a letter of the payload was put in upper case, which
loads as the file that was written. -/
theorem damage_detected (portfolio : PortfolioManager) (risk : RiskMonitor) (attached : Attached)
    (checkpointTs now : ℕ) {contents : String}
    (hsave : saveSnapshot portfolio risk attached checkpointTs now = .ok contents) {i : ℕ}
    (hi : i < contents.toList.length) {c : Char} (hc : c ≠ contents.toList[i])
    (risk' : RiskMonitor) (attached' : Attached) :
    (CaseChange contents i c → loadSnapshot risk' attached' (damaged contents i c) =
        loadSnapshot risk' attached' contents) ∧
      (¬CaseChange contents i c →
        ∃ error, loadSnapshot risk' attached' (damaged contents i c) = .error error) := by
  simp only [saveSnapshot, bind_eq_ok, pure_eq_ok] at hsave
  obtain ⟨_, -, _, -, _, -, rfl⟩ := hsave
  constructor
  · intro hcase
    unfold loadSnapshot
    rw [hcase.openEnvelope_eq]
  · intro hnot
    cases hopen : openEnvelope (damaged _ i c) with
    | error error =>
      refine ⟨error, ?_⟩
      unfold loadSnapshot
      rw [hopen]
      rfl
    | ok bytes => exact (hnot (caseChange_of_opens hi hc hopen)).elim

/-- A file of a fresh portfolio whose first character was replaced. -/
theorem damage_detected_first : ∃ contents,
    saveSnapshot .fresh (.create 2 (.finite (1 / 20)) 252) none 0 0 = .ok contents ∧
      (CaseChange contents 0 'x' →
        loadSnapshot (.create 2 (.finite (1 / 20)) 252) none (damaged contents 0 'x') =
          loadSnapshot (.create 2 (.finite (1 / 20)) 252) none contents) ∧
      (¬CaseChange contents 0 'x' → ∃ error,
        loadSnapshot (.create 2 (.finite (1 / 20)) 252) none (damaged contents 0 'x') =
          .error error) := by
  have hsaved : (saveSnapshot .fresh (.create 2 (.finite (1 / 20)) 252) none 0 0).isOk = true := by
    decide +kernel
  cases hsave : saveSnapshot .fresh (.create 2 (.finite (1 / 20)) 252) none 0 0 with
  | error e =>
    rw [hsave] at hsaved
    cases hsaved
  | ok contents =>
    have hcontents : contents = (envelope (payloadOf .fresh (.create 2 (.finite (1 / 20)) 252) none
        0)).text := by
      simp only [saveSnapshot, bind_eq_ok, pure_eq_ok] at hsave
      obtain ⟨_, -, _, -, _, -, rfl⟩ := hsave
      rfl
    have hlength := length_envelope (payloadOf .fresh (.create 2 (.finite (1 / 20)) 252) none 0)
    rw [← hcontents, ← String.length_toList] at hlength
    have hpos : 0 < contents.toList.length := by
      rw [hlength]
      exact Nat.add_pos_right _ (by decide +kernel)
    have hbrace : contents.toList[0]? = some '\x7b' := by
      have hhead : frameHead = '\x7b' :: frameHead.tail := by decide +kernel
      rw [hcontents, toList_envelope, beforePayload, hhead]
      rfl
    rw [List.getElem?_eq_getElem hpos, Option.some.injEq] at hbrace
    refine ⟨contents, rfl, damage_detected _ _ _ _ _ hsave hpos ?_ _ _⟩
    rw [hbrace]
    decide

end Damage

end StateSerializer

end TradeBot
