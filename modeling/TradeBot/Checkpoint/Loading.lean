import TradeBot.Checkpoint.Representation
import TradeBot.Checkpoint.Sizes

/-!
# Loading what was saved

The checks that a saved file meets again on loading: those of the envelope, the limits of
the readers, validation, and the limits of the risk engine. From them, exactly when a file
that was written is loaded into equally configured objects.
-/

namespace TradeBot

open Library

namespace StateSerializer

section Opening

/-- A checksum has 16 digits. -/
theorem length_hex64 (value : UInt64) : (hex64 value).length = 16 := by
  rw [hex64, String.length_ofList, List.length_map, List.length_range]

/-- The document is as large as the hexadecimal text of the payload and a frame. -/
theorem length_text (payload : List UInt8) :
    (envelope payload).text.length = 148 + 2 * payload.length := by
  have hversion : (toString snapshotVersion).length = 2 := by decide
  have hschema : "\x7b\n  \"schema\": \"".length = 15 := rfl
  have hname : "tradebot.backtest-state".length = 23 := rfl
  have hkey : "\",\n  \"version\": ".length = 16 := rfl
  have hencoding : ",\n  \"payloadEncoding\": \"".length = 24 := rfl
  have hhex : "hex-v1".length = 6 := rfl
  have hchecksum : "\",\n  \"payloadChecksum\": \"".length = 25 := rfl
  have hpayload : "\",\n  \"payload\": \"".length = 17 := rfl
  have hend : "\"\n\x7d\n".length = 4 := rfl
  unfold envelope Envelope.text
  dsimp only
  repeat rw [String.length_append]
  rw [length_hex64, length_hexEncode, hversion, hschema, hname, hkey, hencoding, hhex, hchecksum,
    hpayload, hend]
  omega

/-- The envelope around a payload opens exactly when the payload is within its limit. -/
theorem openEnvelope_text {payload bytes : List UInt8} :
    openEnvelope (envelope payload).text = .ok bytes ↔
      payload.length ≤ maxPayload ∧ payload = bytes := by
  have hlength := length_text payload
  unfold openEnvelope
  rw [(framed_envelope payload).parse_eq]
  simp only [bind_eq_ok, failIf_eq_ok, Option.elim_some, pure_eq_ok, Except.ok.injEq]
  constructor
  · rintro ⟨_, -, _, rfl, _, -, _, -, _, -, _, -, decoded, hdecoded, _, -, rfl⟩
    rw [envelope, hexDecode_hexEncode] at hdecoded
    split at hdecoded
    · next hsize => exact ⟨hsize, Except.ok.inj hdecoded⟩
    · cases hdecoded
  · rintro ⟨hsize, rfl⟩
    refine ⟨(), decide_eq_false (by omega), _, rfl, (), decide_eq_false (not_not.mpr rfl), (), rfl,
      (), rfl, (), rfl, payload, ?_, (), decide_eq_false (not_not.mpr rfl), rfl⟩
    rw [envelope, hexDecode_hexEncode, if_pos hsize]
    rfl

end Opening

section Reading

/-- What the first part of a payload is read back as. -/
def rewrittenState (s : State) : State :=
  { s with
    portfolio := rewrittenPortfolio s.portfolio
    risk := sortedRisk s.risk }

/-- The first part of a payload is read back within the limits of its sections. -/
theorem readsWithin_state {s : State} (hts : Word64 s.checkpointTs)
    (hportfolio : PortfolioTyped s.portfolio) (hrisk : RiskTyped s.risk) :
    Reader.ReadsWithin (PortfolioLimits s.portfolio ∧ RiskLimits s.risk) readState
      (writeState s) (rewrittenState s) := by
  have hmagic : Reader.string.ReadsBack (Writer.string "TradeBotState") "TradeBotState" :=
    (readsWithin_string (by decide) (by decide)).1 (by decide)
  have hreads : Reader.ReadsWithin (PortfolioLimits s.portfolio ∧ RiskLimits s.risk ∧ True)
      readState (writeState s) (rewrittenState s) := by
    apply hmagic.cons
    apply Reader.ReadsWithin.require (decide_eq_true rfl)
    apply (readsBack_boolean _).cons
    apply (readsBack_u64 hts).cons
    apply (readsWithin_portfolio hportfolio).cons
    apply (readsWithin_risk hrisk).cons
    exact Reader.readsWithin_last rfl
  exact hreads.congr (by rw [and_true])

/-- The second part of a payload is read back within the limits of its sections. -/
theorem readsWithin_extended {x : Extended} (hregime : RegimeTyped x.regime)
    (hphi : PhiTyped x.phi) :
    Reader.ReadsWithin (RegimeLimits x.regime ∧ PhiLimits x.phi) readExtended (writeExtended x)
      { x with phi := KeyedMap.insertAll ∅ (KeyedMap.sortedEntries x.phi) } := by
  have hreads : Reader.ReadsWithin (RegimeLimits x.regime ∧ PhiLimits x.phi ∧ True) readExtended
      (writeExtended x) { x with phi := KeyedMap.insertAll ∅ (KeyedMap.sortedEntries x.phi) } := by
    apply (readsWithin_regime hregime).cons
    apply (readsWithin_phi hphi).cons
    exact Reader.readsWithin_last rfl
  exact hreads.congr (by rw [and_true])

end Reading

section Validation

/-- The order of the entries of a map does not matter to a check of each of them. -/
theorem forall_mem_sorted {α : Type} {m : KeyedMap String α}
    {P : (Sigma fun _ : String => α) → Prop} :
    (∀ e ∈ (KeyedMap.insertAll ∅ (KeyedMap.sortedEntries m)).entries, P e) ↔
      ∀ e ∈ m.entries, P e := by
  have hperm := KeyedMap.insertAll_perm (KeyedMap.sortedEntries_perm m)
  exact forall_congr' fun e => imp_congr_left hperm.mem_iff

/-- Sorting a map keeps its keys. -/
theorem mem_sorted {α : Type} {m : KeyedMap String α} {key : String} :
    key ∈ KeyedMap.insertAll ∅ (KeyedMap.sortedEntries m) ↔ key ∈ m := by
  rw [← AList.lookup_isSome, ← AList.lookup_isSome,
    KeyedMap.lookup_insertAll (KeyedMap.sortedEntries_perm m)]

/-- The check of the risk section does not depend on the order of its maps. -/
theorem validateRisk_sortedRisk {s : RiskMonitor.Snapshot} :
    validateRisk (sortedRisk s) = .ok () ↔ validateRisk s = .ok () := by
  simp only [validateRisk, sortedRisk, bind_eq_ok, forM_eq_ok, forall_mem_sorted, failIf_eq_ok,
    decide_eq_false_iff_not, mem_sorted]
  exact Iff.rfl

/-- Nor does that of the extended section. -/
theorem validateExtended_sorted {regime : RegimeDetector.State}
    {phi : KeyedMap String PhiState} :
    validateExtended regime (KeyedMap.insertAll ∅ (KeyedMap.sortedEntries phi)) = .ok () ↔
      validateExtended regime phi = .ok () := by
  simp only [validateExtended, bind_eq_ok, forM_eq_ok, forall_mem_sorted]

end Validation

end StateSerializer

end TradeBot
