import TradeBot.BrokerAdapterContracts
import TradeBot.Library.Machine
import TradeBot.Library.Matching

/-!
# The Gate 7 quote proof

The state machine that turns the provider's responses into one quote. Each operation takes what
one response carried; texts are read byte by byte. An allocation failure, which ends the proof as
`terminal` does, is outside the model.
-/

namespace TradeBot

open Library

/-- `Gate7Decision` -/
inductive Gate7Decision where
  | ready
  | accountAuthenticationReady
  | symbolListReady
  | fullSymbolReady
  | subscriptionReady
  | quoteProofSucceeded
  | alreadyTerminal
  | wrongPhase
  | staleConnectionGeneration
  | correlationRejected
  | tokenOwnershipRejected
  | tradingScopeRequired
  | invalidAccountIdentifier
  | noFiboDemoAccount
  | ambiguousFiboDemoAccount
  | missingSymbolMetadata
  | noCanonicalXauusd
  | ambiguousCanonicalXauusd
  | fullSymbolMismatch
  | symbolMetadataRejected
  | subscriptionMismatch
  | incompleteSpotSide
  | incompleteSpotTimestamp
  | spotAccountMismatch
  | spotSymbolMismatch
  | invalidSpot
  | crossedMarket
  | checkedArithmeticFailed
  | timestampUnitUnproven
  | timestampStale
  | timestampFuture
  | providerError
  | timeout
  | cancelled
  | malformedFrame
  | resourceExhausted
  deriving DecidableEq, Repr

/-- `Gate7TimestampUnit` -/
inductive Gate7TimestampUnit where
  | seconds
  | milliseconds
  | microseconds
  | nanoseconds
  | unproven
  deriving DecidableEq, Repr

/-- `Gate7AccountRecord` -/
structure Gate7AccountRecord where
  accountId : Option UInt64 := none
  isLive : Option Bool := none
  brokerTitleShort : Option String := none
  deriving DecidableEq

/-- `Gate7AccountListEvidence` -/
structure Gate7AccountListEvidence where
  connectionGeneration : UInt64 := 0
  currentConnectionGeneration : Bool := false
  correlationMatched : Bool := false
  tokenOwned : Bool := false
  tradingScope : Bool := false
  accounts : List Gate7AccountRecord := []
  deriving DecidableEq

/-- `Gate7LightSymbol` -/
structure Gate7LightSymbol where
  symbolId : Option Int64 := none
  symbolName : Option String := none
  enabled : Option Bool := none
  archived : Bool := false
  deriving DecidableEq

/-- `Gate7SymbolsListEvidence` -/
structure Gate7SymbolsListEvidence where
  connectionGeneration : UInt64 := 0
  currentConnectionGeneration : Bool := false
  correlationMatched : Bool := false
  accountId : Int64 := 0
  includeArchivedSymbols : Bool := false
  symbols : List Gate7LightSymbol := []
  archivedSymbolIds : List Int64 := []
  deriving DecidableEq

/-- `Gate7FullSymbol` -/
structure Gate7FullSymbol where
  symbolId : Option Int64 := none
  symbolName : Option String := none
  enabled : Option Bool := none
  archived : Option Bool := none
  digits : Option Int32 := none
  pipPosition : Option Int32 := none
  minVolume : Option Int64 := none
  maxVolume : Option Int64 := none
  stepVolume : Option Int64 := none
  lotSize : Option Int64 := none
  deriving DecidableEq

/-- `Gate7FullSymbolEvidence` -/
structure Gate7FullSymbolEvidence where
  connectionGeneration : UInt64 := 0
  currentConnectionGeneration : Bool := false
  correlationMatched : Bool := false
  accountId : Int64 := 0
  symbols : List Gate7FullSymbol := []
  archivedSymbolIds : List Int64 := []
  deriving DecidableEq

/-- `Gate7SubscriptionEvidence` -/
structure Gate7SubscriptionEvidence where
  connectionGeneration : UInt64 := 0
  currentConnectionGeneration : Bool := false
  correlationMatched : Bool := false
  accountId : Int64 := 0
  symbolId : Int64 := 0
  requestedSymbolCount : ℕ := 0
  deriving DecidableEq

/-- `Gate7SpotEvidence` -/
structure Gate7SpotEvidence where
  connectionGeneration : UInt64 := 0
  currentConnectionGeneration : Bool := false
  subscriptionMatched : Bool := false
  accountId : Int64 := 0
  symbolId : Int64 := 0
  bid : Option UInt64 := none
  ask : Option UInt64 := none
  timestamp : Option Int64 := none
  receiptTimestampNs : UInt64 := 0
  deriving DecidableEq

/-- `Gate7TimestampProof` -/
structure Gate7TimestampProof where
  unit : Gate7TimestampUnit := .unproven
  timestampNs : UInt64 := 0
  receiptTimestampNs : UInt64 := 0
  freshnessDeltaNs : Int64 := 0
  deriving DecidableEq

/-- `Gate7TimestampClassification` -/
structure Gate7TimestampClassification where
  decision : Gate7Decision := .timestampUnitUnproven
  proof : Option Gate7TimestampProof := none
  deriving DecidableEq

/-- `Gate7QuoteEvidence` -/
structure Gate7QuoteEvidence where
  canonicalSymbol : String
  executionAlias : String
  instrument : InstrumentSpec
  pipPosition : Int32
  bid : Decimal64
  ask : Decimal64
  spread : Decimal64
  timestamp : Gate7TimestampProof
  deriving DecidableEq

namespace CTraderGate7Proof

/-- `Phase` -/
inductive Phase where
  | accountList
  | accountAuthentication
  | symbolsList
  | fullSymbol
  | subscription
  | spot
  | complete
  | terminal
  deriving DecidableEq, Repr

end CTraderGate7Proof

open CTraderGate7Proof

/-- `CTraderGate7Proof` -/
structure CTraderGate7Proof where
  connectionGeneration : UInt64
  phase : Phase := .accountList
  lastDecision : Gate7Decision := .ready
  accountId : Int64 := 0
  symbolId : Int64 := 0
  pipPosition : Int32 := 0
  symbolName : String := ""
  instrument : Option InstrumentSpec := none
  subscriptionReady : Bool := false
  quoteEvidence : Option Gate7QuoteEvidence := none
  deriving DecidableEq

namespace CTraderGate7Proof

/-- `isUsableAccountId` -/
def isUsableAccountId (value : UInt64) : Bool :=
  decide (0 < value ∧ value ≤ Int64.maxValue.toUInt64)

/-- `isUsableProviderId` -/
def isUsableProviderId (value : Int64) : Bool := decide (0 < value)

/-- `isSafeText` -/
def isSafeText (value : String) : Bool :=
  !value.isEmpty && decide (value.length ≤ 256) &&
    value.toList.all fun c => !(decide (c.toNat < 0x20) || c.toNat == 0x7f)

/-- The loop of `isCanonicalXauusd`, with the letters so far in upper case. -/
def canonicalLetters : List Char → Bool → List Char → Option (List Char)
  | [], _, normalized => some normalized
  | value :: rest, slashSeen, normalized =>
    if value = '/' then
      if slashSeen then none else canonicalLetters rest true normalized
    else if 'a' ≤ value ∧ value ≤ 'z' then
      if 6 ≤ normalized.length then none
      else canonicalLetters rest slashSeen (normalized ++ [value.toUpper])
    else if 'A' ≤ value ∧ value ≤ 'Z' then
      if 6 ≤ normalized.length then none
      else canonicalLetters rest slashSeen (normalized ++ [value])
    else none

/-- `isCanonicalXauusd` -/
def isCanonicalXauusd (symbolName : String) : Bool :=
  canonicalLetters symbolName.toList false [] == some "XAUUSD".toList

/-- The factor of the checked loop of `normalizeSignedScale5`. -/
def checkedFactor : ℕ → Option Int64
  | 0 => some 1
  | n + 1 =>
    match checkedFactor n with
    | none => none
    | some factor => if Int64.maxValue / 10 < factor then none else some (factor * 10)

/-- `normalizeSignedScale5` -/
def normalizeSignedScale5 (units : Int64) (digits : Int32) : Option Int64 :=
  if digits < 0 ∨ Decimal64.maxScale < digits.toInt then none
  else if digits = 5 then some units
  else if 5 < digits then
    match checkedFactor (digits - 5).toInt.toNat with
    | none => none
    | some factor =>
      if 0 < units ∧ Int64.maxValue / factor < units then none
      else if units < 0 ∧ units < Int64.minValue / factor then none
      else some (units * factor)
  else
    let factor := UInt64.ofNat (10 ^ (5 - digits).toInt.toNat)
    let magnitude := if units < 0 then (-(units + 1)).toUInt64 + 1 else units.toUInt64
    let quotient := magnitude / factor
    let remainder := magnitude % factor
    if factor ≤ remainder * 2 ∧ quotient = Int64.maxValue.toUInt64 then none
    else
      let quotient := if factor ≤ remainder * 2 then quotient + 1 else quotient
      if Int64.maxValue.toUInt64 < quotient then none
      else some (if units < 0 then -quotient.toInt64 else quotient.toInt64)

/-- `normalizeSpotPrice` -/
def normalizeSpotPrice (rawWire : UInt64) (digits : Int32) : Option Decimal64 :=
  if rawWire = 0 ∨ Int64.maxValue.toUInt64 < rawWire then none
  else
    match normalizeSignedScale5 rawWire.toInt64 digits with
    | none => none
    | some normalized => some ⟨normalized, digits.toInt.toNat⟩

/-- `MAX_AGE_NS` -/
def maxAgeNs : UInt64 := 120 * 1000000000

/-- `MAX_FUTURE_NS` -/
def maxFutureNs : UInt64 := 5 * 1000000000

/-- The units that `classifyTimestampDetailed` tries, with their multipliers. -/
def timestampUnits : List (UInt64 × Gate7TimestampUnit) :=
  [(1000000000, .seconds), (1000000, .milliseconds), (1000, .microseconds), (1, .nanoseconds)]

/-- What the loop of `classifyTimestampDetailed` has seen. -/
structure TimestampScan where
  result : Option Gate7TimestampProof := none
  closestDistance : Option UInt64 := none
  closestTimestamp : UInt64 := 0
  closestTied : Bool := false

/-- One turn of the loop of `classifyTimestampDetailed`, or none where it returns because a
second unit fits. -/
def scanUnit (rawTimestamp receiptTimestampNs : UInt64) (scan : TimestampScan)
    (unit : UInt64 × Gate7TimestampUnit) : Option TimestampScan :=
  if 0xffffffffffffffff / unit.1 < rawTimestamp then some scan
  else
    let timestampNs := rawTimestamp * unit.1
    let distance :=
      if timestampNs ≤ receiptTimestampNs then receiptTimestampNs - timestampNs
      else timestampNs - receiptTimestampNs
    let scan :=
      match scan.closestDistance with
      | none =>
        { scan with
          closestDistance := some distance
          closestTimestamp := timestampNs
          closestTied := false }
      | some closest =>
        if distance < closest then
          { scan with
            closestDistance := some distance
            closestTimestamp := timestampNs
            closestTied := false }
        else if distance = closest then { scan with closestTied := true }
        else scan
    let limit := if timestampNs ≤ receiptTimestampNs then maxAgeNs else maxFutureNs
    if limit < distance then some scan
    else if scan.result.isSome then none
    else
      let delta :=
        if timestampNs ≤ receiptTimestampNs then distance.toInt64 else -distance.toInt64
      some { scan with result := some ⟨unit.2, timestampNs, receiptTimestampNs, delta⟩ }

/-- `classifyTimestampDetailed` -/
def classifyTimestampDetailed (rawTimestamp receiptTimestampNs : UInt64) :
    Gate7TimestampClassification :=
  if receiptTimestampNs = 0 then { decision := .timestampUnitUnproven }
  else
    match timestampUnits.foldlM (scanUnit rawTimestamp receiptTimestampNs) {} with
    | none => { decision := .timestampUnitUnproven }
    | some scan =>
      match scan.result with
      | some proof => { decision := .ready, proof := some proof }
      | none =>
        if scan.closestDistance.isNone || scan.closestTied then
          { decision := .timestampUnitUnproven }
        else if scan.closestTimestamp < receiptTimestampNs then { decision := .timestampStale }
        else { decision := .timestampFuture }

variable (proof : CTraderGate7Proof)

/-- `isTerminal` -/
def isTerminal : Bool := proof.phase = .complete || proof.phase = .terminal

/-- `clearSensitiveState` -/
def clearSensitiveState : CTraderGate7Proof :=
  { proof with
    accountId := 0
    symbolId := 0
    pipPosition := 0
    symbolName := ""
    instrument := none
    subscriptionReady := false }

/-- `clearAll` -/
def clearAll : CTraderGate7Proof :=
  { proof.clearSensitiveState with
    quoteEvidence := none
    connectionGeneration := 0 }

/-- `finish` -/
def finish (decision : Gate7Decision) : CTraderGate7Proof × Gate7Decision :=
  ({ proof.clearAll with
    phase := .terminal
    lastDecision := decision }, decision)

/-- `validateTransportEvidence` -/
def validateTransportEvidence (generation : UInt64) (currentGeneration correlationMatched : Bool) :
    Gate7Decision :=
  if !currentGeneration || generation == 0 || generation != proof.connectionGeneration then
    .staleConnectionGeneration
  else if !correlationMatched then .correlationRejected
  else .ready

/-- The account id of a record that `acceptAccountListImpl` counts. -/
def fiboDemoAccount (account : Gate7AccountRecord) : Option UInt64 :=
  match account.accountId with
  | none => none
  | some accountId =>
    if !isUsableAccountId accountId then none
    else if account.isLive ≠ some false then none
    else
      match account.brokerTitleShort with
      | none => none
      | some title => if !isSafeText title || title != "FIBO" then none else some accountId

/-- `acceptAccountList` -/
def acceptAccountList (evidence : Gate7AccountListEvidence) : CTraderGate7Proof × Gate7Decision :=
  if proof.isTerminal then (proof, .alreadyTerminal)
  else if proof.phase ≠ .accountList then proof.finish .wrongPhase
  else
    let transport := proof.validateTransportEvidence evidence.connectionGeneration
      evidence.currentConnectionGeneration evidence.correlationMatched
    if transport ≠ .ready then proof.finish transport
    else if !evidence.tokenOwned then proof.finish .tokenOwnershipRejected
    else if !evidence.tradingScope then proof.finish .tradingScopeRequired
    else
      let found := lastMatch fiboDemoAccount 0 evidence.accounts
      if found.2 = 0 then proof.finish .noFiboDemoAccount
      else if found.2 ≠ 1 then proof.finish .ambiguousFiboDemoAccount
      else
        ({ proof with
          accountId := found.1.toInt64
          phase := .accountAuthentication
          lastDecision := .accountAuthenticationReady }, .accountAuthenticationReady)

/-- `acceptAccountAuthentication` -/
def acceptAccountAuthentication (responseAccountId : Int64) : CTraderGate7Proof × Gate7Decision :=
  if ¬(proof.phase = .accountAuthentication ∧ 0 < responseAccountId ∧
      responseAccountId = proof.accountId) then
    proof.finish .invalidAccountIdentifier
  else
    ({ proof with
      phase := .symbolsList
      lastDecision := .symbolListReady }, .symbolListReady)

/-- The id and the name of a light symbol that `acceptSymbolsListImpl` counts. -/
def canonicalLightSymbol (archivedSymbolIds : List Int64) (symbol : Gate7LightSymbol) :
    Option (Int64 × String) :=
  match symbol.symbolId, symbol.symbolName with
  | some symbolId, some symbolName =>
    if !isUsableProviderId symbolId || symbol.enabled != some true || symbol.archived ||
        archivedSymbolIds.contains symbolId then none
    else if !isCanonicalXauusd symbolName then none
    else some (symbolId, symbolName)
  | _, _ => none

/-- `acceptSymbolsList` -/
def acceptSymbolsList (evidence : Gate7SymbolsListEvidence) : CTraderGate7Proof × Gate7Decision :=
  if proof.isTerminal then (proof, .alreadyTerminal)
  else if proof.phase ≠ .symbolsList then proof.finish .wrongPhase
  else
    let transport := proof.validateTransportEvidence evidence.connectionGeneration
      evidence.currentConnectionGeneration evidence.correlationMatched
    if transport ≠ .ready then proof.finish transport
    else if evidence.accountId ≤ 0 ∨ evidence.accountId ≠ proof.accountId then
      proof.finish .invalidAccountIdentifier
    else if evidence.includeArchivedSymbols then proof.finish .missingSymbolMetadata
    else
      let select := canonicalLightSymbol evidence.archivedSymbolIds
      let found := lastMatch select (0, "") evidence.symbols
      let foundName := found.1.2 ≠ ""
      if found.2 = 0 then proof.finish .noCanonicalXauusd
      else if found.2 ≠ 1 then proof.finish .ambiguousCanonicalXauusd
      else
        -- the second loop computes the only candidate again
        let chosen := (evidence.symbols.findSome? select).getD (proof.symbolId, proof.symbolName)
        let proof :=
          { proof with
            symbolId := chosen.1
            symbolName := chosen.2 }
        if proof.symbolId ≤ 0 ∨ ¬foundName then proof.finish .missingSymbolMetadata
        else
          ({ proof with
            phase := .fullSymbol
            lastDecision := .fullSymbolReady }, .fullSymbolReady)

/-- The metadata of a full symbol with every field present. -/
structure FullMetadata where
  digits : Int32
  pipPosition : Int32
  minVolume : Int64
  maxVolume : Int64
  stepVolume : Int64
  lotSize : Int64

/-- The metadata of a full symbol, where none is missing. -/
def fullMetadata (symbol : Gate7FullSymbol) : Option FullMetadata := do
  return {
    digits := ← symbol.digits
    pipPosition := ← symbol.pipPosition
    minVolume := ← symbol.minVolume
    maxVolume := ← symbol.maxVolume
    stepVolume := ← symbol.stepVolume
    lotSize := ← symbol.lotSize }

/-- The bounds that `acceptFullSymbolImpl` puts on metadata. -/
def FullMetadata.isValid (metadata : FullMetadata) : Bool :=
  !(metadata.digits < 0 || metadata.pipPosition < 0 ||
    (Decimal64.maxScale : ℤ) < metadata.digits.toInt ||
    (Decimal64.maxScale : ℤ) < metadata.pipPosition.toInt ||
    metadata.digits < metadata.pipPosition || metadata.minVolume ≤ 0 || metadata.maxVolume ≤ 0 ||
    metadata.stepVolume ≤ 0 || metadata.lotSize ≤ 0 || metadata.maxVolume < metadata.minVolume ||
    metadata.minVolume % metadata.stepVolume != 0 ||
    metadata.maxVolume % metadata.stepVolume != 0)

/-- The specification that `acceptFullSymbolImpl` keeps. -/
def instrumentSpec (symbolName : String) (metadata : FullMetadata) : InstrumentSpec :=
  { version := 1
    canonicalSymbol := "XAUUSD"
    executionAlias := symbolName
    tickSize := ⟨1, metadata.digits.toInt.toNat⟩
    contractSize := ⟨metadata.lotSize, 2⟩
    minimumQuantity := ⟨metadata.minVolume, 2⟩
    maximumQuantity := ⟨metadata.maxVolume, 2⟩
    quantityStep := ⟨metadata.stepVolume, 2⟩
    complete := true }

/-- `acceptFullSymbol` -/
def acceptFullSymbol (evidence : Gate7FullSymbolEvidence) : CTraderGate7Proof × Gate7Decision :=
  if proof.isTerminal then (proof, .alreadyTerminal)
  else if proof.phase ≠ .fullSymbol then proof.finish .wrongPhase
  else
    let transport := proof.validateTransportEvidence evidence.connectionGeneration
      evidence.currentConnectionGeneration evidence.correlationMatched
    if transport ≠ .ready then proof.finish transport
    else if evidence.accountId ≠ proof.accountId ∨ evidence.accountId ≤ 0 then
      proof.finish .invalidAccountIdentifier
    else if evidence.archivedSymbolIds.contains proof.symbolId then
      proof.finish .symbolMetadataRejected
    else
      match evidence.symbols.filter (fun symbol => symbol.symbolId = some proof.symbolId) with
      | [symbol] =>
        if symbol.symbolName.isSome && symbol.symbolName != some proof.symbolName then
          proof.finish .symbolMetadataRejected
        else if symbol.enabled = some false then proof.finish .symbolMetadataRejected
        else if symbol.archived = some true then proof.finish .symbolMetadataRejected
        else
          match fullMetadata symbol with
          | none => proof.finish .missingSymbolMetadata
          | some metadata =>
            if !metadata.isValid then proof.finish .symbolMetadataRejected
            else
              ({ proof with
                instrument := some (instrumentSpec proof.symbolName metadata)
                pipPosition := metadata.pipPosition
                phase := .subscription
                lastDecision := .subscriptionReady }, .subscriptionReady)
      | _ => proof.finish .fullSymbolMismatch

/-- `acceptSubscription` -/
def acceptSubscription (evidence : Gate7SubscriptionEvidence) :
    CTraderGate7Proof × Gate7Decision :=
  if proof.isTerminal then (proof, .alreadyTerminal)
  else if proof.phase ≠ .subscription then proof.finish .wrongPhase
  else
    let transport := proof.validateTransportEvidence evidence.connectionGeneration
      evidence.currentConnectionGeneration evidence.correlationMatched
    if transport ≠ .ready then proof.finish transport
    else if ¬(evidence.accountId = proof.accountId ∧ 0 < evidence.accountId ∧
        evidence.symbolId = proof.symbolId ∧ 0 < evidence.symbolId ∧
        evidence.requestedSymbolCount = 1) then
      proof.finish .subscriptionMismatch
    else
      ({ proof with
        subscriptionReady := true
        phase := .spot
        lastDecision := .subscriptionReady }, .subscriptionReady)

/-- A side that a spot event carries is no positive signed integer. -/
def invalidSide (side : Option UInt64) : Bool :=
  side.any fun raw => raw == 0 || decide (Int64.maxValue.toUInt64 < raw)

/-- The part of `acceptSpotImpl` after the checks of a single field, for both sides. -/
def acceptSides (evidence : Gate7SpotEvidence) (rawBid rawAsk : UInt64) :
    CTraderGate7Proof × Gate7Decision :=
  if rawAsk < rawBid then proof.finish .crossedMarket
  else
    match proof.instrument with
    | none => proof.finish .wrongPhase
    | some instrument =>
      let digits := Int32.ofNat instrument.tickSize.scale
      match normalizeSpotPrice rawBid digits, normalizeSpotPrice rawAsk digits with
      | some bid, some ask =>
        if ask.units < bid.units then proof.finish .crossedMarket
        else
          match evidence.timestamp with
          | none =>
            ({ proof with lastDecision := .incompleteSpotTimestamp }, .incompleteSpotTimestamp)
          | some rawTimestamp =>
            let classified :=
              classifyTimestampDetailed rawTimestamp.toUInt64 evidence.receiptTimestampNs
            match classified.proof with
            | none => proof.finish classified.decision
            | some timestamp =>
              let rawSpread := rawAsk.toInt64 - rawBid.toInt64
              let normalizedSpread := ask.units - bid.units
              if rawSpread < 0 ∨ normalizedSpread < 0 then proof.finish .crossedMarket
              else
                let quote : Gate7QuoteEvidence :=
                  { canonicalSymbol := "XAUUSD"
                    executionAlias := proof.symbolName
                    instrument := instrument
                    pipPosition := proof.pipPosition
                    bid := bid
                    ask := ask
                    spread := ⟨normalizedSpread, bid.scale⟩
                    timestamp := timestamp }
                ({ proof.clearSensitiveState with
                  quoteEvidence := some quote
                  phase := .complete
                  lastDecision := .quoteProofSucceeded }, .quoteProofSucceeded)
      | _, _ => proof.finish .checkedArithmeticFailed

/-- `acceptSpot` -/
def acceptSpot (evidence : Gate7SpotEvidence) : CTraderGate7Proof × Gate7Decision :=
  if proof.isTerminal then (proof, .alreadyTerminal)
  else if proof.phase ≠ .spot ∨ ¬proof.subscriptionReady then proof.finish .wrongPhase
  else if !evidence.currentConnectionGeneration ∨
      evidence.connectionGeneration ≠ proof.connectionGeneration then
    proof.finish .staleConnectionGeneration
  else if !evidence.subscriptionMatched then proof.finish .subscriptionMismatch
  else if evidence.accountId ≠ proof.accountId ∨ evidence.accountId ≤ 0 then
    proof.finish .spotAccountMismatch
  else if evidence.symbolId ≠ proof.symbolId ∨ evidence.symbolId ≤ 0 then
    proof.finish .spotSymbolMismatch
  else if invalidSide evidence.bid || invalidSide evidence.ask then proof.finish .invalidSpot
  else if evidence.timestamp.any (· < 0) then proof.finish .timestampUnitUnproven
  else
    match evidence.bid, evidence.ask with
    | some rawBid, some rawAsk => proof.acceptSides evidence rawBid rawAsk
    | _, _ =>
      let rejection := evidence.timestamp.bind fun timestamp =>
        let classified := classifyTimestampDetailed timestamp.toUInt64 evidence.receiptTimestampNs
        if classified.proof.isSome then none else some classified.decision
      match rejection with
      | some decision => proof.finish decision
      | none => ({ proof with lastDecision := .incompleteSpotSide }, .incompleteSpotSide)

/-- `terminal` -/
def terminal (decision : Gate7Decision) : CTraderGate7Proof × Gate7Decision :=
  if proof.isTerminal then ({ proof with lastDecision := .alreadyTerminal }, .alreadyTerminal)
  else proof.finish decision

/-- The operations of the proof. -/
inductive Call where
  | acceptAccountList (evidence : Gate7AccountListEvidence)
  | acceptAccountAuthentication (responseAccountId : Int64)
  | acceptSymbolsList (evidence : Gate7SymbolsListEvidence)
  | acceptFullSymbol (evidence : Gate7FullSymbolEvidence)
  | acceptSubscription (evidence : Gate7SubscriptionEvidence)
  | acceptSpot (evidence : Gate7SpotEvidence)
  | terminal (decision : Gate7Decision)
  deriving DecidableEq

/-- One operation. -/
def call : Call → CTraderGate7Proof × Gate7Decision
  | .acceptAccountList evidence => proof.acceptAccountList evidence
  | .acceptAccountAuthentication responseAccountId =>
    proof.acceptAccountAuthentication responseAccountId
  | .acceptSymbolsList evidence => proof.acceptSymbolsList evidence
  | .acceptFullSymbol evidence => proof.acceptFullSymbol evidence
  | .acceptSubscription evidence => proof.acceptSubscription evidence
  | .acceptSpot evidence => proof.acceptSpot evidence
  | .terminal decision => proof.terminal decision

/-- The proof as a machine. -/
def machine : Machine CTraderGate7Proof Call Gate7Decision where
  step proof c := proof.call c

end CTraderGate7Proof

end TradeBot
