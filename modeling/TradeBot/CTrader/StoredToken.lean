import TradeBot.CTrader.TokenResponse
import TradeBot.Library.BigEndian

/-!
# The stored token

The text that Gate 6 puts into the keychain for a token envelope, and the reader of Gate 7.
-/

namespace TradeBot

open Library

/-- `OAUTH_SCOPE` -/
def oauthScope : Bytes := ascii "trading"

namespace CTraderGate6Runtime

/-- `appendUint32` -/
def appendUint32 (output : Bytes) (value : ℕ) : Bytes :=
  output ++ [UInt8.ofNat (value >>> 24), UInt8.ofNat (value >>> 16), UInt8.ofNat (value >>> 8),
    UInt8.ofNat value]

/-- `appendUint64` -/
def appendUint64 (output : Bytes) (value : ℕ) : Bytes :=
  output ++ [56, 48, 40, 32, 24, 16, 8, 0].map fun shift => UInt8.ofNat (value >>> shift)

/-- `appendSized` -/
def appendSized (output value : Bytes) : Option Bytes :=
  if 0xffffffff < value.length then none
  else some (appendUint32 output value.length ++ value)

/-- The text that `persistTokenEnvelope` writes. -/
def serializeTokenEnvelope (envelope : TokenEnvelope) : Option Bytes := do
  let serialized :=
    appendUint64 (ascii "TBG6TOK1") envelope.expiresAtEpochSeconds.toUInt64.toNat
  let serialized ← appendSized serialized oauthScope
  let serialized ← appendSized serialized envelope.tokenType
  let serialized ← appendSized serialized envelope.accessToken
  appendSized serialized envelope.refreshToken

end CTraderGate6Runtime

namespace CTraderGate7Runtime

/-- `TokenEnvelope` -/
structure TokenEnvelope where
  accessToken : Bytes := []
  refreshToken : Bytes := []
  tokenType : Bytes := []
  expiresAtEpochSeconds : Int64 := 0
  scope : Bytes := []
  deriving DecidableEq

/-- `readBigEndian64` -/
def readBigEndian64 : Reader UInt8 Unit ℕ := Reader.word 8 ()

/-- `readBigEndian32` -/
def readBigEndian32 : Reader UInt8 Unit ℕ := Reader.word 4 ()

/-- The longest value that `readSized` takes. -/
def maxSized : ℕ := 8192

/-- `readSized` -/
def readSized : Reader UInt8 Unit Bytes := do
  let length ← readBigEndian32
  Reader.require (decide (length ≤ maxSized)) ()
  let value ← Reader.block length ()
  Reader.require (boundedText value maxSized) ()
  return value

/-- The part of `parseStoredToken` after the first eight bytes. -/
def readToken : Reader UInt8 Unit TokenEnvelope := do
  let expiry ← readBigEndian64
  Reader.require (decide (expiry ≤ Int64.maxValue.toUInt64.toNat)) ()
  let scope ← readSized
  let type ← readSized
  let access ← readSized
  let refresh ← readSized
  return {
    accessToken := access
    refreshToken := refresh
    tokenType := type
    expiresAtEpochSeconds := Int64.ofNat expiry
    scope := scope }

/-- `parseStoredToken` -/
def parseStoredToken (encoded : Bytes) : Option TokenEnvelope :=
  if encoded.length < 16 ∨ encoded.take 8 ≠ ascii "TBG6TOK1" then none
  else
    match readToken (encoded.drop 8) with
    | .error _ => none
    | .ok (token, rest) =>
      if !rest.isEmpty || token.scope != oauthScope || token.tokenType != ascii "bearer" then none
      else some token

end CTraderGate7Runtime

end TradeBot
