import TradeBot.Checkpoint.Envelope
import TradeBot.Checkpoint.Sections

/-!
# Saving and loading snapshots

`saveImpl` and `loadImpl` of `StateSerializer.cpp`. The file is the text that `atomicWrite`
is given, and it is loaded as it was written. The regime detector and the allocator are
attached together or not at all.
-/

namespace TradeBot

open Library

namespace StateSerializer

/-- The objects behind the two optional pointers. -/
abbrev Attached := Option (RegimeDetector × PortfolioAllocator)

/-- The first part of a payload. -/
structure State where
  extended : Bool
  checkpointTs : ℕ
  portfolio : PortfolioManager.Snapshot
  risk : RiskMonitor.Snapshot

/-- The second part of a payload. -/
structure Extended where
  regime : RegimeDetector.State
  phi : KeyedMap String PhiState

/-- The second part of the payload for attached objects. -/
def extendedOf (attached : Attached) : Option Extended :=
  attached.map fun (regime, allocator) => ⟨regime.state, allocator.phiStates⟩

/-- `validateExtended`, where there is a second part. -/
def validateAttached (extended : Option Extended) : Except String Unit :=
  match extended with
  | some x => validateExtended x.regime x.phi
  | none => .ok ()

section Save

/-- The first part of the payload of `saveImpl`. -/
def writeState (s : State) : List UInt8 := [
  Writer.string "TradeBotState",
  Writer.boolean s.extended,
  Writer.u64 s.checkpointTs,
  writePortfolio s.portfolio,
  writeRisk s.risk].flatten

/-- The second part of the payload of `saveImpl`. -/
def writeExtended (x : Extended) : List UInt8 := [writeRegime x.regime, writePhi x.phi].flatten

/-- The state that `saveImpl` writes. -/
def stateOf (portfolio : PortfolioManager) (risk : RiskMonitor) (attached : Attached)
    (checkpointTs : ℕ) : State where
  extended := attached.isSome
  checkpointTs := checkpointTs
  portfolio := portfolio.snapshotState
  risk := risk.snapshotState

/-- The payload of `saveImpl`. -/
def payloadOf (portfolio : PortfolioManager) (risk : RiskMonitor) (attached : Attached)
    (checkpointTs : ℕ) : List UInt8 :=
  writeState (stateOf portfolio risk attached checkpointTs) ++
    (extendedOf attached).elim [] writeExtended

/-- `saveSnapshot` at a clock reading: the text of the file, or the error. -/
def saveSnapshot (portfolio : PortfolioManager) (risk : RiskMonitor) (attached : Attached)
    (checkpointTs now : ℕ) : Except String String := do
  failIf (decide (risk.currentErrorRate now ≠ 0))
    "transient API-error window is not restart-compatible"
  validate portfolio.snapshotState risk.snapshotState
  validateAttached (extendedOf attached)
  return (envelope (payloadOf portfolio risk attached checkpointTs)).text

end Save

section Load

/-- A message for a reader that failed without one. -/
def orMessage {α : Type} (message : String) (result : Except String α) : Except String α :=
  result.mapError fun error => if error = "" then message else error

/-- The part of `loadImpl` that opens the envelope. -/
def openEnvelope (contents : String) : Except String (List UInt8) := do
  failIf (decide (maxPayload * 2 + 4096 < contents.length)) "snapshot exceeds size limit"
  let envelope ← ((parseEnvelope contents).elim (.error "malformed snapshot envelope") .ok :
    Except String Envelope)
  failIf (decide (contents ≠ envelope.text)) "snapshot envelope is not canonical"
  failIf (decide (envelope.schema ≠ "tradebot.backtest-state")) "unsupported snapshot schema"
  failIf (decide (envelope.version ≠ snapshotVersion))
    ("unsupported snapshot version " ++ toString envelope.version ++ "; migration required")
  failIf (decide (envelope.encoding ≠ "hex-v1")) "unsupported payload encoding"
  let bytes ← ((hexDecode envelope.payload).elim (.error "snapshot payload is corrupt") .ok :
    Except String (List UInt8))
  failIf (decide (hex64 (checksum bytes) ≠ envelope.checksum)) "snapshot payload is corrupt"
  return bytes

/-- The first part of the payload in `loadImpl`. -/
def readState : Reader UInt8 String State := do
  let magic ← Reader.string
  Reader.require (decide (magic = "TradeBotState")) ""
  let hasExtended ← Reader.boolean
  let restoredTs ← Reader.u64
  let portfolio ← readPortfolio
  let risk ← readRisk
  return {
    extended := hasExtended
    checkpointTs := restoredTs
    portfolio := portfolio
    risk := risk }

/-- The second part of the payload in `loadImpl`. -/
def readExtended : Reader UInt8 String Extended := do
  let regime ← readRegime
  let phi ← readPhi
  return ⟨regime, phi⟩

/-- The second part of the payload, where there is one. -/
def readAttached (extended : Bool) (bytes : List UInt8) :
    Except String (Option Extended × List UInt8) :=
  if extended then do
    let (x, rest) ← orMessage "invalid extended snapshot state" (readExtended bytes)
    return (some x, rest)
  else .ok (none, bytes)

/-- What `loadImpl` leaves in its arguments. -/
structure Loaded where
  portfolio : PortfolioManager
  risk : RiskMonitor
  attached : Attached
  checkpointTs : ℕ

/-- The attached objects after `loadImpl`. -/
def restoreAttached (attached : Attached) (extended : Option Extended) : Attached :=
  match attached, extended with
  | some (regime, allocator), some x =>
    some (regime.restoreState x.regime, allocator.restorePhiStates x.phi)
  | _, _ => attached

/-- The part of `loadImpl` from the reader on. -/
def loadPayload (risk : RiskMonitor) (attached : Attached) (bytes : List UInt8) :
    Except String Loaded := do
  let (state, rest) ← orMessage "invalid snapshot payload" (readState bytes)
  let (extended, rest) ← readAttached state.extended rest
  failIf (!Reader.done rest) "snapshot payload has trailing data"
  failIf (attached.isSome && !state.extended) "snapshot lacks required regime/allocation state"
  validate state.portfolio state.risk
  risk.canRestoreSnapshot state.risk
  validateAttached extended
  -- `validate` has restored a detached copy, so that the exception is never thrown here
  let portfolio ← (PortfolioManager.restoreState state.portfolio).mapError StdException.what
  return {
    portfolio := portfolio
    risk := risk.restoreState state.risk
    attached := restoreAttached attached extended
    checkpointTs := state.checkpointTs }

/-- `loadSnapshot`. The portfolio that is passed in is replaced as a whole. -/
def loadSnapshot (risk : RiskMonitor) (attached : Attached) (contents : String) :
    Except String Loaded := do
  let bytes ← openEnvelope contents
  loadPayload risk attached bytes

end Load

end StateSerializer

end TradeBot
