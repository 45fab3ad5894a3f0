import Mathlib.Data.String.Basic
import TradeBot.Library.Machine
import TradeBot.Library.Matching

/-!
# The Gate 6 account proof

The state machine that finds one demo account in two lists: the titles of the first list are
shown, one of them is confirmed, and the second list has to contain it again. An allocation
failure, which ends the proof as `cancel` does, is outside the model.
-/

namespace TradeBot

open Library

/-- `Gate6Decision` -/
inductive Gate6Decision where
  | ready
  | awaitingWadeCheckpoint
  | readyForGate6B
  | readyForAccountAuthentication
  | accountProofSucceeded
  | cancelled
  | alreadyTerminal
  | wrongPhase
  | staleConnectionGeneration
  | correlationRejected
  | tokenOwnershipRejected
  | tradingScopeRequired
  | liveAccountExcluded
  | missingAccountMetadata
  | unsafeBrokerMetadata
  | invalidAccountIdentifier
  | noEligibleDemoAccount
  | ambiguousDemoAccount
  | wadeSelectionRejected
  | accountAuthenticationMismatch
  | resourceExhausted
  deriving DecidableEq, Repr

/-- `Gate6AccountRecord` -/
structure Gate6AccountRecord where
  accountId : UInt64 := 0
  isLive : Option Bool := none
  brokerTitleShort : Option String := none

/-- `Gate6AccountListEvidence` -/
structure Gate6AccountListEvidence where
  currentConnectionGeneration : Bool := false
  correlationMatched : Bool := false
  tokenOwned : Bool := false
  tradingScope : Bool := false
  accounts : List Gate6AccountRecord := []

/-- `Gate6SafeCandidate` -/
structure Gate6SafeCandidate where
  isLive : Bool := false
  brokerTitleShort : String

namespace CTraderGate6AccountProof

/-- `Phase` -/
inductive Phase where
  | gate6AReady
  | awaitingWade
  | gate6BReady
  | accountAuthReady
  | complete
  | terminal
  deriving DecidableEq, Repr

/-- `VolatileCandidate` -/
structure VolatileCandidate where
  accountId : UInt64 := 0
  brokerTitleShort : String

end CTraderGate6AccountProof

open CTraderGate6AccountProof

/-- `CTraderGate6AccountProof` -/
structure CTraderGate6AccountProof where
  phase : Phase := .gate6AReady
  lastDecision : Gate6Decision := .ready
  volatileCandidates : List VolatileCandidate := []
  safeCandidates : List Gate6SafeCandidate := []
  approvedBrokerTitle : String := ""
  selectedAccountId : UInt64 := 0

namespace CTraderGate6AccountProof

/-- `isSafeBrokerTitle` -/
def isSafeBrokerTitle (value : String) : Bool :=
  !value.isEmpty && decide (value.length ≤ 128) &&
    value.toList.all fun c => !(decide (c.toNat < 0x20) || c.toNat == 0x7f)

/-- `isUsableAccountId` -/
def isUsableAccountId (accountId : UInt64) : Bool :=
  decide (0 < accountId ∧ accountId ≤ Int64.maxValue.toUInt64)

variable (proof : CTraderGate6AccountProof)

/-- `clearAccountIdentifiers` -/
def clearAccountIdentifiers : CTraderGate6AccountProof :=
  { proof with
    volatileCandidates := []
    selectedAccountId := 0 }

/-- `clearAll` -/
def clearAll : CTraderGate6AccountProof :=
  { proof.clearAccountIdentifiers with
    safeCandidates := []
    approvedBrokerTitle := "" }

/-- `finish` -/
def finish (decision : Gate6Decision) : CTraderGate6AccountProof × Gate6Decision :=
  ({ proof.clearAll with
    phase := .terminal
    lastDecision := decision }, decision)

/-- `isTerminal` -/
def isTerminal : Bool := proof.phase = .terminal || proof.phase = .complete

/-- What every operation does when the proof has ended. -/
def replay : CTraderGate6AccountProof × Gate6Decision :=
  ({ proof with lastDecision := .alreadyTerminal }, .alreadyTerminal)

/-- `validateEvidence` -/
def validateEvidence (evidence : Gate6AccountListEvidence) : Gate6Decision :=
  if !evidence.currentConnectionGeneration then .staleConnectionGeneration
  else if !evidence.correlationMatched then .correlationRejected
  else if !evidence.tokenOwned then .tokenOwnershipRejected
  else if !evidence.tradingScope then .tradingScopeRequired
  else .ready

/-- One turn of the loop of `acceptGate6AImpl`. -/
def addCandidate (candidates : List VolatileCandidate) (account : Gate6AccountRecord) :
    Except Gate6Decision (List VolatileCandidate) :=
  if account.isLive ≠ some false then .ok candidates
  else
    match account.brokerTitleShort with
    | none => .ok candidates
    | some title =>
      if !isSafeBrokerTitle title then .error .unsafeBrokerMetadata
      else if !isUsableAccountId account.accountId then .error .invalidAccountIdentifier
      else .ok (candidates ++ [⟨account.accountId, title⟩])

/-- The comparison that `acceptGate6AImpl` sorts with: the right title is not the smaller one. -/
def titleOrder (lhs rhs : VolatileCandidate) : Bool :=
  !decide (rhs.brokerTitleShort < lhs.brokerTitleShort)

/-- Two neighbours have the same title. -/
def hasTwins : List VolatileCandidate → Bool
  | first :: second :: rest =>
    first.brokerTitleShort == second.brokerTitleShort || hasTwins (second :: rest)
  | _ => false

/-- `acceptGate6A` -/
def acceptGate6A (evidence : Gate6AccountListEvidence) :
    CTraderGate6AccountProof × Gate6Decision :=
  if proof.isTerminal then proof.replay
  else if proof.phase ≠ .gate6AReady then proof.finish .wrongPhase
  else if validateEvidence evidence ≠ .ready then proof.finish (validateEvidence evidence)
  else
    match evidence.accounts.foldlM addCandidate [] with
    | .error decision => proof.finish decision
    | .ok candidates =>
      if candidates.isEmpty then proof.finish .noEligibleDemoAccount
      else
        let sorted := candidates.mergeSort titleOrder
        if hasTwins sorted then proof.finish .ambiguousDemoAccount
        else
          ({ proof.clearAccountIdentifiers with
            volatileCandidates := sorted
            safeCandidates := sorted.map fun candidate => ⟨false, candidate.brokerTitleShort⟩
            phase := .awaitingWade
            lastDecision := .awaitingWadeCheckpoint }, .awaitingWadeCheckpoint)

/-- `confirmWadeSelection` -/
def confirmWadeSelection (brokerTitleShort : String) : CTraderGate6AccountProof × Gate6Decision :=
  if proof.isTerminal then proof.replay
  else if proof.phase ≠ .awaitingWade ∨ !isSafeBrokerTitle brokerTitleShort then
    proof.finish .wadeSelectionRejected
  else if !proof.volatileCandidates.any (·.brokerTitleShort == brokerTitleShort) then
    proof.finish .wadeSelectionRejected
  else
    ({ proof.clearAccountIdentifiers with
      approvedBrokerTitle := brokerTitleShort
      safeCandidates := []
      phase := .gate6BReady
      lastDecision := .readyForGate6B }, .readyForGate6B)

/-- One turn of the loop of `acceptGate6B`, with the last match and the number of matches. -/
def countApproved (approvedBrokerTitle : String) (found : UInt64 × ℕ)
    (account : Gate6AccountRecord) : Except Gate6Decision (UInt64 × ℕ) :=
  if account.isLive ≠ some false then .ok found
  else
    match account.brokerTitleShort with
    | none => .ok found
    | some title =>
      if !isSafeBrokerTitle title then .error .unsafeBrokerMetadata
      else if title ≠ approvedBrokerTitle then .ok found
      else if !isUsableAccountId account.accountId then .error .invalidAccountIdentifier
      else .ok (account.accountId, found.2 + 1)

/-- `acceptGate6B` -/
def acceptGate6B (evidence : Gate6AccountListEvidence) :
    CTraderGate6AccountProof × Gate6Decision :=
  if proof.isTerminal then proof.replay
  else if proof.phase ≠ .gate6BReady ∨ proof.approvedBrokerTitle.isEmpty then
    proof.finish .wrongPhase
  else if validateEvidence evidence ≠ .ready then proof.finish (validateEvidence evidence)
  else
    match evidence.accounts.foldlM (countApproved proof.approvedBrokerTitle) (0, 0) with
    | .error decision => proof.finish decision
    | .ok found =>
      if found.2 = 0 then proof.finish .noEligibleDemoAccount
      else if found.2 ≠ 1 then proof.finish .ambiguousDemoAccount
      else
        ({ proof with
          selectedAccountId := found.1
          phase := .accountAuthReady
          lastDecision := .readyForAccountAuthentication }, .readyForAccountAuthentication)

/-- `accountIdForAuthentication` -/
def accountIdForAuthentication : Option Int64 :=
  if proof.phase ≠ .accountAuthReady ∨ !isUsableAccountId proof.selectedAccountId then none
  else some proof.selectedAccountId.toInt64

/-- `acceptAccountAuthentication` -/
def acceptAccountAuthentication (responseAccountId : Int64) :
    CTraderGate6AccountProof × Gate6Decision :=
  if proof.isTerminal then proof.replay
  else if ¬(proof.phase = .accountAuthReady ∧ 0 < responseAccountId ∧
      responseAccountId.toUInt64 = proof.selectedAccountId) then
    proof.finish .accountAuthenticationMismatch
  else
    ({ proof.clearAll with
      phase := .complete
      lastDecision := .accountProofSucceeded }, .accountProofSucceeded)

/-- `cancel` -/
def cancel : CTraderGate6AccountProof × Gate6Decision :=
  if proof.isTerminal then proof.replay else proof.finish .cancelled

/-- The operations of the proof. -/
inductive Call where
  | acceptGate6A (evidence : Gate6AccountListEvidence)
  | confirmWadeSelection (brokerTitleShort : String)
  | acceptGate6B (evidence : Gate6AccountListEvidence)
  | acceptAccountAuthentication (responseAccountId : Int64)
  | cancel

/-- One operation. -/
def call : Call → CTraderGate6AccountProof × Gate6Decision
  | .acceptGate6A evidence => proof.acceptGate6A evidence
  | .confirmWadeSelection brokerTitleShort => proof.confirmWadeSelection brokerTitleShort
  | .acceptGate6B evidence => proof.acceptGate6B evidence
  | .acceptAccountAuthentication responseAccountId =>
    proof.acceptAccountAuthentication responseAccountId
  | .cancel => proof.cancel

/-- The proof as a machine. -/
def machine : Machine CTraderGate6AccountProof Call Gate6Decision where
  step proof c := proof.call c

end CTraderGate6AccountProof

end TradeBot
