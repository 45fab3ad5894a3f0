import Mathlib.Data.FinEnum
import TradeBot.CTrader.QueryGrammar

/-!
# The authorization code of a callback

The two runtimes take the code out of a query with code of their own. On the queries that the
correlation guard accepts both take the one code parameter and decode its value.
-/

namespace TradeBot

open Library CTraderOAuthCorrelationGuard

/-- `hexValue`, and `hex` of `extractCode`. -/
def hexValue (c : UInt8) : ℤ :=
  if byteOf '0' ≤ c ∧ c ≤ byteOf '9' then (c - byteOf '0').toNat
  else if byteOf 'a' ≤ c ∧ c ≤ byteOf 'f' then (c - byteOf 'a').toNat + 10
  else if byteOf 'A' ≤ c ∧ c ≤ byteOf 'F' then (c - byteOf 'A').toNat + 10
  else -1

/-- The loop of `percentDecode`, which `extractCode` has too. -/
def decodeLoop (decoded : Bytes) : Bytes → Option Bytes
  | [] => some decoded
  | c :: rest =>
    if c = byteOf '%' then
      match rest with
      | first :: second :: rest =>
        let high := hexValue first
        let low := hexValue second
        if high < 0 ∨ low < 0 then none
        else decodeLoop (decoded ++ [UInt8.ofNat ((high.toNat <<< 4) ||| low.toNat)]) rest
      | _ => none
    else if c = byteOf '+' then decodeLoop (decoded ++ [byteOf ' ']) rest
    else decodeLoop (decoded ++ [c]) rest

/-- A value without its encoding, within a length. -/
def decodeBounded (value : Bytes) (maximum : ℕ) : Option Bytes :=
  match decodeLoop [] value with
  | none => none
  | some decoded => if boundedText decoded maximum then some decoded else none

/-- The loop over the pieces of a query that both runtimes have: the value of the first parameter
that is named `code`. A piece without an equals sign is skipped, as an empty last one is. -/
def codeValue : List Bytes → Option Bytes
  | [] => none
  | parameter :: rest =>
    match parameter.span (· != byteOf '=') with
    | (name, _ :: value) => if name = ascii "code" then some value else codeValue rest
    | (_, []) => codeValue rest

/-- `extractCode` -/
def CTraderGate7Runtime.extractCode (query : Bytes) : Option Bytes :=
  match codeValue (query.splitOn (byteOf '&')) with
  | none => none
  | some value => decodeBounded value 8192

/-- `percentDecode` -/
def CTraderGate6Runtime.percentDecode (value : Bytes) : Option Bytes := decodeBounded value 4096

/-- `extractAuthorizationCode` -/
def CTraderGate6Runtime.extractAuthorizationCode (query : Bytes) : Option Bytes :=
  match codeValue (query.splitOn (byteOf '&')) with
  | none => none
  | some value => percentDecode value

section Decoding

/-- The code reads a hexadecimal digit as its value. -/
theorem hexValue_of_hexDigit {c : UInt8} {v : ℕ} (h : HexDigit c v) : hexValue c = v := by
  have hsub {d : UInt8} (hd : d ≤ c) : (c - d).toNat = c.toNat - d.toNat :=
    UInt8.toNat_sub_of_le _ _ hd
  have hzero : (byteOf '0').toNat = 0x30 := rfl
  have hlower : (byteOf 'a').toNat = 0x61 := rfl
  have hupper : (byteOf 'A').toNat = 0x41 := rfl
  have hdigit : byteOf '0' ≤ c ∧ c ≤ byteOf '9' ↔ 0x30 ≤ c.toNat ∧ c.toNat ≤ 0x39 := Iff.rfl
  have hsmall : byteOf 'a' ≤ c ∧ c ≤ byteOf 'f' ↔ 0x61 ≤ c.toNat ∧ c.toNat ≤ 0x66 := Iff.rfl
  have hlarge : byteOf 'A' ≤ c ∧ c ≤ byteOf 'F' ↔ 0x41 ≤ c.toNat ∧ c.toNat ≤ 0x46 := Iff.rfl
  unfold hexValue
  rcases h with ⟨hv, hc⟩ | ⟨hv, hv', hc | hc⟩
  · have hin := hdigit.mpr (by omega)
    rw [if_pos hin, hsub hin.1]
    omega
  · have hin := hsmall.mpr (by omega)
    rw [if_neg (mt hdigit.mp (by omega)), if_pos hin, hsub hin.1]
    omega
  · have hin := hlarge.mpr (by omega)
    rw [if_neg (mt hdigit.mp (by omega)), if_neg (mt hsmall.mp (by omega)), if_pos hin,
      hsub hin.1]
    omega

/-- Decoding follows the grammar of form encoding. -/
theorem decodeLoop_of_formDecodes {text value : Bytes} (h : FormDecodes text value)
    (decoded : Bytes) : decodeLoop decoded text = some (decoded ++ value) := by
  induction h generalizing decoded with
  | nil => rw [decodeLoop, List.append_nil]
  | plus _ ih =>
    rw [decodeLoop.eq_def]
    dsimp only
    rw [if_neg (by decide), if_pos rfl, ih, List.append_assoc, List.singleton_append]
  | plain hpercent hplus _ ih =>
    rw [decodeLoop.eq_def]
    dsimp only
    rw [if_neg hpercent, if_neg hplus, ih, List.append_assoc, List.singleton_append]
  | @escape high low v w text value hhigh hlow _ ih =>
    have hword : (v <<< 4) ||| w = 16 * v + w := by
      rw [← Nat.shiftLeft_add_eq_or_of_lt hlow.lt, Nat.shiftLeft_eq]
      omega
    rw [decodeLoop.eq_def]
    dsimp only
    rw [if_pos rfl, hexValue_of_hexDigit hhigh, hexValue_of_hexDigit hlow, if_neg (by omega),
      Int.toNat_natCast, Int.toNat_natCast, hword, ih, List.append_assoc, List.singleton_append]

/-- What a bounded text is: not empty, not too long, and without control characters. -/
theorem boundedText_iff {value : Bytes} {maximum : ℕ} :
    boundedText value maximum = true ↔
      value ≠ [] ∧ value.length ≤ maximum ∧ ∀ c ∈ value, 0x20 ≤ c ∧ c ≠ 0x7f := by
  unfold boundedText
  simp only [Bool.and_eq_true, Bool.not_eq_true', decide_eq_true_iff, List.all_eq_true,
    Bool.or_eq_false_iff, decide_eq_false_iff_not, beq_eq_false_iff_ne, UInt8.not_lt,
    List.isEmpty_eq_false_iff, and_assoc]

/-- The value of text that is not empty, when it fits and has no control bytes. -/
theorem decodeBounded_eq {text value : Bytes} (h : FormDecodes text value) (hsome : text ≠ [])
    (maximum : ℕ) : decodeBounded text maximum =
      if value.length ≤ maximum ∧ ∀ c ∈ value, 0x20 ≤ c ∧ c ≠ 0x7f then some value else none := by
  unfold decodeBounded
  rw [decodeLoop_of_formDecodes h, List.nil_append]
  dsimp only
  refine if_congr ?_ rfl rfl
  rw [boundedText_iff]
  exact and_iff_right (mt h.eq_nil_iff.mp hsome)

end Decoding

section Extraction

/-- The loop over the pieces finds the value of the name. -/
theorem codeValue_pieces {parameters : List (Bytes × Bytes)} {text : Bytes}
    (hcut : ∀ p ∈ parameters, byteOf '=' ∉ p.1) (hdistinct : (parameters.map Prod.fst).Nodup)
    (hmem : (ascii "code", text) ∈ parameters) : codeValue (pieces parameters) = some text := by
  induction parameters with
  | nil => cases hmem
  | cons p parameters ih =>
    rw [List.map_cons, List.nodup_cons] at hdistinct
    change codeValue (spelled p.1 p.2 :: pieces parameters) = some text
    rw [codeValue, span_spelled (hcut p List.mem_cons_self)]
    dsimp only
    rcases List.mem_cons.mp hmem with rfl | hmem
    · rw [if_pos rfl]
    · have hother : p.1 ≠ ascii "code" := by
        intro hname
        rw [hname] at hdistinct
        exact hdistinct.1 (List.mem_map_of_mem (f := Prod.fst) hmem)
      rw [if_neg hother]
      exact ih (fun q hq => hcut q (List.mem_cons_of_mem p hq)) hdistinct.2 hmem

/-- **The guard and the extractors agree.** A query that the guard accepts has one code parameter.
Both runtimes return its value without the encoding, where that is within their length and has no
control bytes, and nothing otherwise; so they agree where the shorter length suffices. -/
theorem extractors_agree {query : Bytes}
    (h : (parseQuery query).decision = .correlationMatchedCodeDiscarded) :
    ∃ text value,
      (∀ other, spelled (ascii "code") other ∈ query.splitOn (byteOf '&') ↔ other = text) ∧
      FormDecodes text value ∧
      CTraderGate7Runtime.extractCode query =
        (if value.length ≤ 8192 ∧ ∀ c ∈ value, 0x20 ≤ c ∧ c ≠ 0x7f then some value else none) ∧
      CTraderGate6Runtime.extractAuthorizationCode query =
        (if value.length ≤ 4096 ∧ ∀ c ∈ value, 0x20 ≤ c ∧ c ≠ 0x7f then some value else none) ∧
      (value.length ≤ 4096 → CTraderGate7Runtime.extractCode query =
        CTraderGate6Runtime.extractAuthorizationCode query) := by
  obtain ⟨parameters, hquery⟩ := parseQuery_matched_iff.mp h
  obtain ⟨text, hsome, hmem⟩ := hquery.code
  obtain ⟨value, hvalue⟩ := (hquery.encoded _ hmem).2.decodes
  have hcode : codeValue (query.splitOn (byteOf '&')) = some text := by
    rw [hquery.splitOn]
    exact codeValue_pieces (fun p hp => (hquery.cut p hp).1) hquery.distinct hmem
  have hgate7 : CTraderGate7Runtime.extractCode query =
      if value.length ≤ 8192 ∧ ∀ c ∈ value, 0x20 ≤ c ∧ c ≠ 0x7f then some value else none := by
    unfold CTraderGate7Runtime.extractCode
    rw [hcode]
    exact decodeBounded_eq hvalue hsome 8192
  have hgate6 : CTraderGate6Runtime.extractAuthorizationCode query =
      if value.length ≤ 4096 ∧ ∀ c ∈ value, 0x20 ≤ c ∧ c ≠ 0x7f then some value else none := by
    unfold CTraderGate6Runtime.extractAuthorizationCode
    rw [hcode]
    exact decodeBounded_eq hvalue hsome 4096
  refine ⟨text, value, fun other => ?_, hvalue, hgate7, hgate6, fun hshort => ?_⟩
  · rw [hquery.splitOn]
    constructor
    · intro hother
      obtain ⟨p, hp, hspelled⟩ := List.mem_map.mp hother
      obtain ⟨hname, hother⟩ := spelled_injective (hquery.cut p hp).1 (by decide) hspelled
      have hp' := List.inj_on_of_nodup_map hquery.distinct hp hmem hname
      rw [← hother, hp']
    · rintro rfl
      exact List.mem_map_of_mem (f := fun p : Bytes × Bytes => spelled p.1 p.2) hmem
  · rw [hgate7, hgate6]
    exact if_congr (and_congr_left fun _ => iff_of_true (by omega) hshort) rfl rfl

/-- A code with an escape, a plus sign and an equals sign. -/
theorem extractors_agree_escape :
    CTraderGate7Runtime.extractCode (ascii "state=Y&code=a%2Fb+c=") = some (ascii "a/b c=") ∧
      CTraderGate7Runtime.extractCode (ascii "state=Y&code=a%2Fb+c=") =
        CTraderGate6Runtime.extractAuthorizationCode (ascii "state=Y&code=a%2Fb+c=") := by
  obtain ⟨text, value, -, -, hgate7, -, hagree⟩ :=
    @extractors_agree (ascii "state=Y&code=a%2Fb+c=") (by decide +kernel)
  have hextracted : CTraderGate7Runtime.extractCode (ascii "state=Y&code=a%2Fb+c=") =
      some (ascii "a/b c=") := by decide +kernel
  have hvalue : value = ascii "a/b c=" := by
    rw [hextracted] at hgate7
    split at hgate7
    · exact (Option.some.inj hgate7).symm
    · cases hgate7
  exact ⟨hextracted, hagree (by rw [hvalue]; decide)⟩

end Extraction

end TradeBot
