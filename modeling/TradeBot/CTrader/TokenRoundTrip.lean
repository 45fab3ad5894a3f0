import TradeBot.CTrader.StoredToken

/-!
# The stored token is read back

What Gate 6 stores for an accepted envelope is read back by Gate 7, and a stored text that is
accepted is the one text of its envelope.
-/

namespace TradeBot

open Library CTraderGate6Runtime CTraderGate7Runtime

section Serialized

/-- A text after its length. -/
def sized (value : Bytes) : Bytes := bigEndian 4 value.length ++ value

/-- The text of a stored token after the first eight bytes. -/
def storedText (expiry : ℕ) (scope type access refresh : Bytes) : Bytes :=
  bigEndian 8 expiry ++ (sized scope ++ (sized type ++ (sized access ++ sized refresh)))

/-- `appendUint32` writes four bytes in network order. -/
theorem appendUint32_eq (output : Bytes) (value : ℕ) :
    appendUint32 output value = output ++ bigEndian 4 value := rfl

/-- `appendUint64` writes eight bytes in network order. -/
theorem appendUint64_eq (output : Bytes) (value : ℕ) :
    appendUint64 output value = output ++ bigEndian 8 value := rfl

/-- `appendSized` writes the length of a text and the text, when it is not too long. -/
theorem appendSized_eq (output : Bytes) {value : Bytes} (h : value.length ≤ maxSized) :
    appendSized output value = some (output ++ sized value) := by
  unfold appendSized
  rw [if_neg (by unfold maxSized at h; omega), appendUint32_eq, sized, List.append_assoc]

/-- A bounded text is not longer than its bound. -/
theorem length_of_boundedText {value : Bytes} {maximum : ℕ} (h : boundedText value maximum = true) :
    value.length ≤ maximum := by
  unfold boundedText at h
  rw [Bool.and_eq_true, Bool.and_eq_true, decide_eq_true_iff] at h
  exact h.1.2

/-- The text that is stored for an envelope of bounded texts. -/
theorem serializeTokenEnvelope_eq {envelope : CTraderGate6Runtime.TokenEnvelope}
    (htype : boundedText envelope.tokenType maxSized = true)
    (haccess : boundedText envelope.accessToken maxSized = true)
    (hrefresh : boundedText envelope.refreshToken maxSized = true) :
    serializeTokenEnvelope envelope = some (ascii "TBG6TOK1" ++
      storedText envelope.expiresAtEpochSeconds.toUInt64.toNat oauthScope envelope.tokenType
        envelope.accessToken envelope.refreshToken) := by
  unfold serializeTokenEnvelope storedText
  dsimp only
  rw [appendUint64_eq, appendSized_eq _ (show oauthScope.length ≤ maxSized by decide)]
  simp only [Option.bind_eq_bind, Option.bind_some, appendSized_eq _ (length_of_boundedText htype),
    appendSized_eq _ (length_of_boundedText haccess),
    appendSized_eq _ (length_of_boundedText hrefresh), List.append_assoc]

end Serialized

section Read

/-- A sized text is read back. -/
theorem readsBack_readSized {value : Bytes} (h : boundedText value maxSized = true) :
    readSized.ReadsBack (sized value) value := by
  have hlength := length_of_boundedText h
  unfold readSized sized
  apply (Reader.readsBack_word (show value.length < 256 ^ 4 by unfold maxSized at hlength; omega)
    ()).bind
  apply Reader.ReadsBack.require (decide_eq_true hlength)
  apply (Reader.readsBack_block value ()).last
  exact Reader.ReadsBack.require h (Reader.readsBack_pure value)

/-- What is read as a sized text is one, and within its bound. -/
theorem readSized_eq_ok {input rest value : Bytes} (h : readSized input = .ok (value, rest)) :
    input = sized value ++ rest ∧ boundedText value maxSized = true := by
  obtain ⟨length, input₁, hword, h⟩ := Reader.bind_run_eq_ok.mp h
  obtain ⟨_, input₂, hlength, h⟩ := Reader.bind_run_eq_ok.mp h
  obtain ⟨value', input₃, hblock, h⟩ := Reader.bind_run_eq_ok.mp h
  obtain ⟨_, input₄, hrequire, h⟩ := Reader.bind_run_eq_ok.mp h
  obtain ⟨rfl, rfl⟩ := Reader.pure_run_eq_ok.mp h
  obtain ⟨hbounded, rfl⟩ := Reader.require_run_eq_ok.mp hrequire
  obtain ⟨rfl, rfl⟩ := Reader.block_eq_ok hblock
  obtain ⟨-, rfl⟩ := Reader.require_run_eq_ok.mp hlength
  obtain ⟨rfl, -⟩ := Reader.word_eq_ok hword
  exact ⟨by rw [sized, List.append_assoc], hbounded⟩

/-- The text of a token is read back. -/
theorem readsBack_readToken {expiry : ℕ} {scope type access refresh : Bytes}
    (hexpiry : expiry ≤ Int64.maxValue.toUInt64.toNat) (hscope : boundedText scope maxSized = true)
    (htype : boundedText type maxSized = true) (haccess : boundedText access maxSized = true)
    (hrefresh : boundedText refresh maxSized = true) :
    readToken.ReadsBack (storedText expiry scope type access refresh)
      { accessToken := access
        refreshToken := refresh
        tokenType := type
        expiresAtEpochSeconds := Int64.ofNat expiry
        scope := scope } := by
  have hword : expiry < 256 ^ 8 := lt_of_le_of_lt hexpiry (by decide)
  unfold readToken storedText
  apply (Reader.readsBack_word hword ()).bind
  apply Reader.ReadsBack.require (decide_eq_true hexpiry)
  apply (readsBack_readSized hscope).bind
  apply (readsBack_readSized htype).bind
  apply (readsBack_readSized haccess).bind
  apply (readsBack_readSized hrefresh).last
  exact Reader.readsBack_pure _

/-- What is read as a token is the text of one. -/
theorem readToken_eq_ok {input rest : Bytes} {token : CTraderGate7Runtime.TokenEnvelope}
    (h : readToken input = .ok (token, rest)) :
    ∃ expiry, expiry ≤ Int64.maxValue.toUInt64.toNat ∧
      token.expiresAtEpochSeconds = Int64.ofNat expiry ∧
      input = storedText expiry token.scope token.tokenType token.accessToken
        token.refreshToken ++ rest ∧
      boundedText token.tokenType maxSized = true ∧
      boundedText token.accessToken maxSized = true ∧
      boundedText token.refreshToken maxSized = true := by
  obtain ⟨expiry, input₁, hword, h⟩ := Reader.bind_run_eq_ok.mp h
  obtain ⟨_, input₂, hrequire, h⟩ := Reader.bind_run_eq_ok.mp h
  obtain ⟨scope, input₃, hread₁, h⟩ := Reader.bind_run_eq_ok.mp h
  obtain ⟨type, input₄, hread₂, h⟩ := Reader.bind_run_eq_ok.mp h
  obtain ⟨access, input₅, hread₃, h⟩ := Reader.bind_run_eq_ok.mp h
  obtain ⟨refresh, input₆, hread₄, h⟩ := Reader.bind_run_eq_ok.mp h
  obtain ⟨rfl, rfl⟩ := Reader.pure_run_eq_ok.mp h
  obtain ⟨rfl, hrefresh⟩ := readSized_eq_ok hread₄
  obtain ⟨rfl, haccess⟩ := readSized_eq_ok hread₃
  obtain ⟨rfl, htype⟩ := readSized_eq_ok hread₂
  obtain ⟨rfl, -⟩ := readSized_eq_ok hread₁
  obtain ⟨hexpiry, rfl⟩ := Reader.require_run_eq_ok.mp hrequire
  obtain ⟨rfl, -⟩ := Reader.word_eq_ok hword
  refine ⟨expiry, of_decide_eq_true hexpiry, rfl, ?_, htype, haccess, hrefresh⟩
  simp only [storedText, List.append_assoc]

end Read

section RoundTrip

/-- A number of 64 bits is kept by the way through an unsigned one. -/
theorem ofNat_toUInt64 {expires : Int64} : Int64.ofNat expires.toUInt64.toNat = expires := by
  rw [← UInt64.toInt64_ofNat', UInt64.ofNat_toNat, Int64.toInt64_toUInt64]

/-- An expiry in the range of signed numbers is kept by the way through one. -/
theorem toUInt64_ofNat {expiry : ℕ} (h : expiry ≤ Int64.maxValue.toUInt64.toNat) :
    (Int64.ofNat expiry).toUInt64.toNat = expiry := by
  have hmax : Int64.maxValue.toUInt64.toNat < 2 ^ 64 := by decide
  rw [Int64.toUInt64_ofNat', UInt64.toNat_ofNat', Nat.mod_eq_of_lt (by omega)]

/-- What Gate 7 reads of an envelope that Gate 6 has stored. -/
def storedEnvelope (envelope : CTraderGate6Runtime.TokenEnvelope) :
    CTraderGate7Runtime.TokenEnvelope where
  accessToken := envelope.accessToken
  refreshToken := envelope.refreshToken
  tokenType := envelope.tokenType
  expiresAtEpochSeconds := envelope.expiresAtEpochSeconds
  scope := oauthScope

/-- What is written of an envelope is parsed back to it. -/
theorem parseStoredToken_serialized {envelope : CTraderGate6Runtime.TokenEnvelope}
    (htype : envelope.tokenType = ascii "bearer")
    (haccess : boundedText envelope.accessToken maxSized = true)
    (hrefresh : boundedText envelope.refreshToken maxSized = true)
    (hexpires : 0 ≤ envelope.expiresAtEpochSeconds) :
    ∃ encoded, serializeTokenEnvelope envelope = some encoded ∧
      parseStoredToken encoded = some (storedEnvelope envelope) := by
  have hbearer : boundedText envelope.tokenType maxSized = true := by
    rw [htype]
    decide
  refine ⟨_, serializeTokenEnvelope_eq hbearer haccess hrefresh, ?_⟩
  have hread := readsBack_readToken
    (UInt64.le_iff_toNat_le.mp (Int64.toUInt64_le hexpires (Int64.le_maxValue _)))
    (show boundedText oauthScope maxSized = true by decide) hbearer haccess hrefresh []
  rw [List.append_nil, ofNat_toUInt64] at hread
  have hbegins : (ascii "TBG6TOK1").length = 8 := by decide
  unfold parseStoredToken
  rw [if_neg, ← hbegins, List.drop_left, hread]
  · dsimp only
    rw [if_neg (by rw [htype]; decide)]
    rfl
  · rw [← hbegins, List.take_left]
    rintro (hshort | hne)
    · simp [storedText, hbegins] at hshort
      omega
    · exact hne rfl

/-- What is parsed is written again byte for byte. -/
theorem serializeTokenEnvelope_parsed {encoded : Bytes}
    {token : CTraderGate7Runtime.TokenEnvelope} (h : parseStoredToken encoded = some token) :
    serializeTokenEnvelope
      { accessToken := token.accessToken
        refreshToken := token.refreshToken
        tokenType := token.tokenType
        expiresAtEpochSeconds := token.expiresAtEpochSeconds } = some encoded ∧
      token.scope = oauthScope := by
  unfold parseStoredToken at h
  split at h
  · cases h
  rename_i hbegins
  split at h
  · cases h
  rename_i token' rest hread
  split at h
  · cases h
  rename_i hchecks
  cases h
  obtain ⟨expiry, hexpiry, hexpires, hinput, htype, haccess, hrefresh⟩ := readToken_eq_ok hread
  simp only [Bool.or_eq_true, Bool.not_eq_true', bne_iff_ne, not_or, not_not,
    Bool.not_eq_false, List.isEmpty_iff] at hchecks
  obtain ⟨⟨rfl, hscope⟩, -⟩ := hchecks
  refine ⟨?_, hscope⟩
  rw [serializeTokenEnvelope_eq htype haccess hrefresh]
  dsimp only
  rw [hexpires, toUInt64_ofNat hexpiry, ← hscope]
  rw [List.append_nil] at hinput
  rw [← hinput, ← not_not.mp (not_or.mp hbegins).2, List.take_append_drop]

/-- **The stored token is read back.** For every response that Gate 6 accepts while the clock is
not before the epoch, Gate 7 reads the same envelope, with the trading scope, from what Gate 6
stores; and every stored text that Gate 7 accepts is what Gate 6 stores for the envelope that it
returns, so no two accepted texts give one envelope. -/
theorem stored_token_round_trip :
    (∀ now body envelope, 0 ≤ now → parseTokenResponse now body = some envelope →
      ∃ encoded, serializeTokenEnvelope envelope = some encoded ∧
        parseStoredToken encoded =
          some
            { accessToken := envelope.accessToken
              refreshToken := envelope.refreshToken
              tokenType := envelope.tokenType
              expiresAtEpochSeconds := envelope.expiresAtEpochSeconds
              scope := ascii "trading" }) ∧
    (∀ encoded token, parseStoredToken encoded = some token →
      serializeTokenEnvelope
        { accessToken := token.accessToken
          refreshToken := token.refreshToken
          tokenType := token.tokenType
          expiresAtEpochSeconds := token.expiresAtEpochSeconds } = some encoded ∧
        token.scope = ascii "trading") ∧
    ∀ encoded encoded' token, parseStoredToken encoded = some token →
      parseStoredToken encoded' = some token → encoded = encoded' := by
  refine ⟨?_, fun encoded token => serializeTokenEnvelope_parsed, ?_⟩
  · intro now body envelope hnow h
    obtain ⟨haccess, hrefresh, htype, hexpires⟩ := parseTokenResponse_eq_some hnow h
    exact parseStoredToken_serialized htype haccess hrefresh hexpires
  · intro encoded encoded' token h h'
    have hencoded := (serializeTokenEnvelope_parsed h).1
    rw [(serializeTokenEnvelope_parsed h').1] at hencoded
    exact (Option.some.inj hencoded).symm

/-- A token response as the endpoint sends it. -/
def sampleResponse : Bytes :=
  ascii "\x7b \"accessToken\": \"a\", \"tokenType\": \"bearer\", \"expiresIn\": 3600," ++
    ascii "\"refreshToken\": \"r\", \"errorCode\": null\x7d"

/-- A token with one-letter texts is stored and read back. -/
theorem stored_token_round_trip_sample :
    ∃ encoded,
      serializeTokenEnvelope
        { accessToken := ascii "a"
          refreshToken := ascii "r"
          tokenType := ascii "bearer"
          expiresAtEpochSeconds := 1700003600 } = some encoded ∧
      parseStoredToken encoded =
        some
          { accessToken := ascii "a"
            refreshToken := ascii "r"
            tokenType := ascii "bearer"
            expiresAtEpochSeconds := 1700003600
            scope := ascii "trading" } :=
  stored_token_round_trip.1 1700000000 sampleResponse _ (by decide) (by decide +kernel)

end RoundTrip

end TradeBot
