import TradeBot.CTrader.PriceNormalization
import TradeBot.CTrader.QuoteEvidence

/-!
# The prices of a recorded quote

A spot event carries prices in units of `10⁻⁵`, which are checked before they are rounded to the
digits of the symbol. A recorded quote is never crossed; its bid is positive exactly when the
raw bid is at least half a unit of these digits.
-/

namespace TradeBot

open Library Financial

/-- A quote at a scale with a positive bid that is not above the ask. -/
structure Gate7QuoteEvidence.PositiveUncrossed (quote : Gate7QuoteEvidence) (scale : ℕ) :
    Prop where
  scales : quote.bid.scale = scale ∧ quote.ask.scale = scale ∧ quote.spread.scale = scale
  positive : 0 < quote.bid.units.toInt
  ordered : quote.bid.units.toInt ≤ quote.ask.units.toInt
  spread : quote.spread.units.toInt = quote.ask.units.toInt - quote.bid.units.toInt
  nonneg : 0 ≤ quote.spread.units.toInt

namespace CTraderGate7Proof

section Succeeding

/-- Classifying a timestamp never reports a finished proof. -/
theorem classify_decision_ne (rawTimestamp receiptTimestampNs : UInt64) :
    (classifyTimestampDetailed rawTimestamp receiptTimestampNs).decision ≠
      .quoteProofSucceeded := by
  unfold classifyTimestampDetailed
  split
  · exact nofun
  split
  · exact nofun
  split
  · exact nofun
  split
  · exact nofun
  split <;> exact nofun

/-- A result that reports success has recorded a quote. -/
def RecordsQuote (result : CTraderGate7Proof × Gate7Decision) : Prop :=
  result.2 = .quoteProofSucceeded → ∃ quote, result.1.quoteEvidence = some quote

variable {proof : CTraderGate7Proof}

/-- A result without success claims no quote. -/
theorem recordsQuote_of_ne {result : CTraderGate7Proof × Gate7Decision}
    (h : result.2 ≠ .quoteProofSucceeded) : RecordsQuote result := fun heq => (h heq).elim

/-- Ending with another decision claims none. -/
theorem recordsQuote_finish {decision : Gate7Decision} (h : decision ≠ .quoteProofSucceeded) :
    RecordsQuote (proof.finish decision) := recordsQuote_of_ne h

/-- Accepting both sides records the quote whose success it reports. -/
theorem recordsQuote_acceptSides (evidence : Gate7SpotEvidence) (rawBid rawAsk : UInt64) :
    RecordsQuote (proof.acceptSides evidence rawBid rawAsk) := by
  unfold acceptSides
  split
  · exact recordsQuote_finish (by decide)
  split
  · exact recordsQuote_finish (by decide)
  dsimp only
  split
  · split
    · exact recordsQuote_finish (by decide)
    split
    · exact recordsQuote_of_ne nofun
    split
    · exact recordsQuote_finish (classify_decision_ne _ _)
    split
    · exact recordsQuote_finish (by decide)
    · exact fun _ => ⟨_, rfl⟩
  · exact recordsQuote_finish (by decide)

/-- A spot event that succeeds records a quote. -/
theorem recordsQuote_acceptSpot (evidence : Gate7SpotEvidence) :
    RecordsQuote (proof.acceptSpot evidence) := by
  unfold acceptSpot
  split
  · exact recordsQuote_of_ne nofun
  iterate 7
    split
    · exact recordsQuote_finish (by decide)
  split
  · exact recordsQuote_acceptSides evidence _ _
  · dsimp only
    split
    · next decision hdecision =>
      apply recordsQuote_finish
      obtain ⟨timestamp, -, hclassified⟩ := Option.bind_eq_some_iff.mp hdecision
      split at hclassified
      · cases hclassified
      · rw [← Option.some.inj hclassified]
        exact classify_decision_ne _ _
    · exact recordsQuote_of_ne nofun

end Succeeding

section Prices

/-- The price of a wire value at the digits of a symbol: positive from half a unit on. -/
theorem normalizeSpotPrice_eq_some {raw : UInt64} {scale : ℕ} (hscale : scale ≤ Decimal64.maxScale)
    {price : Decimal64} (h : normalizeSpotPrice raw (Int32.ofNat scale) = some price) :
    price.scale = scale ∧ 0 ≤ price.units.toInt ∧
      (0 < price.units.toInt ↔ 10 ^ 5 ≤ 2 * raw.toNat * 10 ^ scale) := by
  have hdigits : ∀ k ≤ Decimal64.maxScale, (Int32.ofNat k).toInt = k := by decide
  have hvalue := hdigits scale hscale
  rw [normalizeSpotPrice_eq] at h
  split at h
  · next hraw =>
    obtain ⟨units, hunits, rfl⟩ := Option.map_eq_some_iff.mp h
    obtain ⟨z, hround, hfit⟩ := @normalizeSignedScale5_eq_fit (Int64.ofNat raw.toNat)
      (Int32.ofNat scale) (by omega) (by omega)
    rw [hfit, fit_eq_some_iff] at hunits
    rw [Int64.toInt_ofNat_of_lt hraw.2, hvalue, atDigits, Int.cast_natCast] at hround
    have hpower : (10 : ℚ) ^ ((scale : ℤ) - 5) = 10 ^ scale / 10 ^ 5 := by
      rw [zpow_sub₀ (by norm_num), zpow_natCast]
      norm_num
    have hnonneg : (0 : ℚ) ≤ raw.toNat * 10 ^ ((scale : ℤ) - 5) :=
      mul_nonneg (Nat.cast_nonneg _) (zpow_nonneg (by norm_num) _)
    refine ⟨by rw [hvalue, Int.toNat_natCast], ?_, ?_⟩
    · rw [hunits]
      have hzero : RoundsTo (((0 : ℤ) : ℚ)) 0 := roundsTo_intCast 0
      exact hzero.mono hround (by rwa [Int.cast_zero])
    · rw [hunits, hround.pos_iff, hpower, mul_div_assoc',
        div_le_div_iff₀ (by norm_num) (by norm_num)]
      have hcast : (1 * 10 ^ 5 : ℚ) ≤ raw.toNat * 10 ^ scale * 2 ↔
          ((10 ^ 5 : ℕ) : ℚ) ≤ ((2 * raw.toNat * 10 ^ scale : ℕ) : ℚ) := by
        push_cast
        constructor <;> intro hle <;> linarith
      rw [hcast, Nat.cast_le]
  · cases h

/-- Wire values in order give prices in order. -/
theorem normalizeSpotPrice_mono {raw raw' : UInt64} {scale : ℕ}
    (hscale : scale ≤ Decimal64.maxScale) (hle : raw ≤ raw') {price price' : Decimal64}
    (h : normalizeSpotPrice raw (Int32.ofNat scale) = some price)
    (h' : normalizeSpotPrice raw' (Int32.ofNat scale) = some price') :
    price.units.toInt ≤ price'.units.toInt := by
  have hdigits : ∀ k ≤ Decimal64.maxScale, (Int32.ofNat k).toInt = k := by decide
  have hvalue := hdigits scale hscale
  rw [UInt64.le_iff_toNat_le] at hle
  rw [normalizeSpotPrice_eq] at h h'
  split at h
  · next hraw =>
    split at h'
    · next hraw' =>
      obtain ⟨units, hunits, rfl⟩ := Option.map_eq_some_iff.mp h
      obtain ⟨units', hunits', rfl⟩ := Option.map_eq_some_iff.mp h'
      rw [← Int64.le_iff_toInt_le]
      refine normalizeSignedScale5_mono (by omega) (by omega) ?_ hunits hunits'
      rw [Int64.le_iff_toInt_le, Int64.toInt_ofNat_of_lt hraw.2, Int64.toInt_ofNat_of_lt hraw'.2]
      exact_mod_cast hle
    · cases h'
  · cases h

/-- The scale of a proved instrument is one that a symbol can have. -/
theorem InstrumentProved.scale_le {generation : UInt64} {accountId symbolId : Int64}
    {symbolName : String} {evidence : Gate7FullSymbolEvidence} {instrument : InstrumentSpec}
    {pipPosition : Int32}
    (h : InstrumentProved generation accountId symbolId symbolName evidence instrument
      pipPosition) : instrument.tickSize.scale ≤ Decimal64.maxScale := by
  obtain ⟨symbol, metadata, -, -, -, -, -, hvalid, rfl, -⟩ := h.unique
  unfold FullMetadata.isValid at hvalid
  simp only [Bool.not_eq_true', Bool.or_eq_false_iff, decide_eq_false_iff_not, not_lt] at hvalid
  have hdigits := hvalid.1.1.1.1.1.1.1.1.1.2
  change metadata.digits.toInt.toNat ≤ Decimal64.maxScale
  omega

/-- A quote of two wire values in order. -/
theorem Quoted.positiveUncrossed_iff {generation : UInt64} {accountId symbolId : Int64}
    {symbolName : String} {instrument : InstrumentSpec} {pipPosition : Int32}
    {evidence : Gate7SpotEvidence} {quote : Gate7QuoteEvidence}
    (h : Quoted generation accountId symbolId symbolName instrument pipPosition evidence quote)
    (hscale : instrument.tickSize.scale ≤ Decimal64.maxScale) :
    ∃ rawBid, evidence.bid = some rawBid ∧
      (quote.PositiveUncrossed instrument.tickSize.scale ↔
        10 ^ 5 ≤ 2 * rawBid.toNat * 10 ^ instrument.tickSize.scale) := by
  obtain ⟨rawBid, rawAsk, timestamp, hbid, hask, -, hle, hbid', hask', -⟩ := h.complete
  obtain ⟨hbidScale, hbidNonneg, hpositive⟩ := normalizeSpotPrice_eq_some hscale hbid'
  obtain ⟨haskScale, haskNonneg, -⟩ := normalizeSpotPrice_eq_some hscale hask'
  have hordered := normalizeSpotPrice_mono hscale hle hbid' hask'
  have hmost := Int64.toInt_lt quote.ask.units
  have hspread : quote.spread.units.toInt = quote.ask.units.toInt - quote.bid.units.toInt := by
    rw [h.spread]
    exact toInt_sub_of_fits (by omega) (by omega)
  have hspreadScale : quote.spread.scale = instrument.tickSize.scale := by
    rw [h.spread, ← hbidScale]
  refine ⟨rawBid, hbid, fun hquote => hpositive.mp hquote.positive, fun hraw => ?_⟩
  exact
    { scales := ⟨hbidScale, haskScale, hspreadScale⟩
      positive := hpositive.mpr hraw
      ordered := hordered
      spread := hspread
      nonneg := by omega }

end Prices

section Runs

/-- **Positive quotes.** In every reachable state that waits for a spot event: an event that
succeeds records a quote, which is at the scale of the instrument, not crossed, and has the
difference of its sides for its spread; and its bid is positive exactly when the raw bid is at
least half a unit of this scale. -/
theorem quote_positive_iff (generation : UInt64) (calls : List Call) (evidence : Gate7SpotEvidence)
    (hphase : (machine.run { connectionGeneration := generation } calls).phase = .spot)
    (hsucceeds : ((machine.run { connectionGeneration := generation } calls).acceptSpot
      evidence).2 = .quoteProofSucceeded) :
    ∃ quote instrument rawBid,
      ((machine.run { connectionGeneration := generation } calls).acceptSpot
        evidence).1.quoteEvidence = some quote ∧
      (machine.run { connectionGeneration := generation } calls).instrument = some instrument ∧
      evidence.bid = some rawBid ∧
      (quote.PositiveUncrossed instrument.tickSize.scale ↔
        10 ^ 5 ≤ 2 * rawBid.toNat * 10 ^ instrument.tickSize.scale) := by
  have hhistory := history generation calls
  generalize machine.run { connectionGeneration := generation } calls = proof at *
  have hunquoted := hhistory.unquoted (by rw [hphase]; decide)
  obtain ⟨events, -, hevents⟩ := hhistory.behind
  unfold Behind at hevents
  rw [hphase] at hevents
  obtain ⟨instrument, hinstrument, before, subscription, hfull, -, -⟩ := hevents
  obtain ⟨_, full, -, hproved, -⟩ := hfull
  obtain ⟨quote, hquote⟩ := recordsQuote_acceptSpot evidence hsucceeds
  have heffect := @effect_acceptSpot proof evidence
  generalize proof.acceptSpot evidence = result at *
  have hne : ∀ phase, phase ≠ .spot → proof.phase ≠ phase := by
    rintro phase hne rfl
    exact hne hphase
  cases heffect with
  | absorbed lastDecision hterminal hc =>
    rw [isTerminal_of_phase_ne hphase (by decide) (by decide)] at hterminal
    cases hterminal
  | waits decision _ =>
    rw [hunquoted] at hquote
    cases hquote
  | ends decision _ => cases hquote
  | listed evidence accountId hc _ _ => cases hc
  | authenticated hc _ => cases hc
  | resolved evidence symbolId symbolName hc _ _ => cases hc
  | described evidence instrument pipPosition hc _ _ => cases hc
  | subscribed evidence hc _ _ => cases hc
  | quoted evidence' instrument' quote' hc _ hinstrument' hquoted =>
    injection hc with hc
    subst hc
    obtain rfl : instrument' = instrument := by
      rw [hinstrument] at hinstrument'
      exact (Option.some.inj hinstrument').symm
    obtain ⟨rawBid, hbid, hiff⟩ := hquoted.positiveUncrossed_iff hproved.scale_le
    exact ⟨quote', instrument', rawBid, rfl, hinstrument, hbid, hiff⟩

/-- A complete spot event for the account and the symbol of a complete run. -/
def spotEvidence (bid ask : UInt64) : Gate7SpotEvidence :=
  { connectionGeneration := 7
    currentConnectionGeneration := true
    subscriptionMatched := true
    accountId := 42
    symbolId := 9
    bid := some bid
    ask := some ask
    timestamp := some 1700000000
    receiptTimestampNs := 1700000001000000000 }

/-- A common quote of two digits. -/
theorem quote_positive_iff_spot : ∃ quote instrument rawBid,
    ((machine.run { connectionGeneration := 7 } (quoteRun []).dropLast).acceptSpot
      (spotEvidence 240000000 240050000)).1.quoteEvidence = some quote ∧
    (machine.run { connectionGeneration := 7 } (quoteRun []).dropLast).instrument =
      some instrument ∧
    (spotEvidence 240000000 240050000).bid = some rawBid ∧
    (quote.PositiveUncrossed instrument.tickSize.scale ↔
      10 ^ 5 ≤ 2 * rawBid.toNat * 10 ^ instrument.tickSize.scale) :=
  quote_positive_iff 7 (quoteRun []).dropLast (spotEvidence 240000000 240050000)
    (by decide +kernel) (by decide +kernel)

/-- The least positive wire value is accepted as a bid and recorded as zero at two digits. -/
theorem quote_zero_bid :
    (machine.run { connectionGeneration := 7 } (quoteRun []).dropLast).phase = .spot ∧
    ((machine.run { connectionGeneration := 7 } (quoteRun []).dropLast).acceptSpot
      (spotEvidence 1 240050000)).2 = .quoteProofSucceeded ∧
    ∃ quote, ((machine.run { connectionGeneration := 7 } (quoteRun []).dropLast).acceptSpot
      (spotEvidence 1 240050000)).1.quoteEvidence = some quote ∧
      quote.bid = ⟨0, 2⟩ ∧ ¬quote.PositiveUncrossed 2 := by
  refine ⟨by decide +kernel, by decide +kernel, ?_⟩
  have hzero : ((machine.run { connectionGeneration := 7 } (quoteRun []).dropLast).acceptSpot
      (spotEvidence 1 240050000)).1.quoteEvidence.map (·.bid) = some ⟨0, 2⟩ := by decide +kernel
  obtain ⟨quote, hquote, hbid⟩ := Option.map_eq_some_iff.mp hzero
  refine ⟨quote, hquote, hbid, fun hgood => ?_⟩
  have hpositive := hgood.positive
  rw [hbid] at hpositive
  exact absurd hpositive (by decide)

end Runs

end CTraderGate7Proof

end TradeBot
