import Mathlib.Algebra.Order.Ring.Int
import TradeBot.Library.Bytes
import TradeBot.Library.Machine

/-!
# The OAuth correlation guard

The one-shot guard of the loopback callback: it is armed with a random value, and the first
callback that it is given ends it, whatever that callback contains.
-/

namespace TradeBot

open Library

/-- `ListenerBinding` -/
structure ListenerBinding where
  address : Bytes
  port : ℕ

/-- `CallbackRequest` -/
structure CallbackRequest where
  remoteAddress : Bytes
  method : Bytes
  host : Bytes
  path : Bytes
  rawQuery : Bytes

namespace CTraderOAuthCorrelationGuard

/-- `Decision` -/
inductive Decision where
  | unarmed
  | armed
  | listenerBindingRejected
  | entropyUnavailable
  | alreadyTerminal
  | callbackBeforeArming
  | callbackExpired
  | cancelled
  | unexpectedRemote
  | unexpectedMethod
  | unexpectedHost
  | unexpectedPath
  | malformedQuery
  | duplicateParameter
  | authorizationRejected
  | stateMissing
  | stateMismatch
  | codeMissing
  | correlationMatchedCodeDiscarded
  deriving DecidableEq, Repr

/-- `Phase` -/
inductive Phase where
  | unarmed
  | armed
  | terminal
  deriving DecidableEq, Repr

/-- `LOOPBACK_ADDRESS` -/
def loopbackAddress : Bytes := ascii "127.0.0.1"

/-- `LOOPBACK_PORT` -/
def loopbackPort : ℕ := 18080

/-- `CALLBACK_PATH` -/
def callbackPath : Bytes := ascii "/ctrader/oauth/callback"

/-- `CALLBACK_HOST` -/
def callbackHost : Bytes := ascii "127.0.0.1:18080"

/-- `CORRELATION_LIFETIME`, in the nanoseconds of the steady clock. -/
def correlationLifetime : ℤ := 60 * 10 ^ 9

/-- `Clock::duration::max()` -/
def clockMax : ℤ := 2 ^ 63 - 1

/-- `BASE64URL_ALPHABET` -/
def base64UrlAlphabet : Bytes :=
  ascii "ABCDEFGHIJKLMNOPQRSTUVWXYZabcdefghijklmnopqrstuvwxyz0123456789-_"

/-- The character of the six bits of a block above a shift. -/
def base64UrlDigit (block : UInt32) (shift : UInt32) : UInt8 :=
  base64UrlAlphabet.getD ((block >>> shift) &&& 0x3f).toNat 0

/-- `base64UrlEncode` -/
def base64UrlEncode : Bytes → Bytes
  | [] => []
  | [a] =>
    let block := a.toUInt32 <<< 16
    [base64UrlDigit block 18, base64UrlDigit block 12]
  | [a, b] =>
    let block := (a.toUInt32 <<< 16) ||| (b.toUInt32 <<< 8)
    [base64UrlDigit block 18, base64UrlDigit block 12, base64UrlDigit block 6]
  | a :: b :: c :: rest =>
    let block := (a.toUInt32 <<< 16) ||| (b.toUInt32 <<< 8) ||| c.toUInt32
    base64UrlDigit block 18 :: base64UrlDigit block 12 :: base64UrlDigit block 6 ::
      base64UrlDigit block 0 :: base64UrlEncode rest

/-- `isHex` -/
def isHex (c : UInt8) : Bool :=
  decide (byteOf '0' ≤ c ∧ c ≤ byteOf '9') || decide (byteOf 'a' ≤ c ∧ c ≤ byteOf 'f') ||
    decide (byteOf 'A' ≤ c ∧ c ≤ byteOf 'F')

/-- `hasValidEncoding` -/
def hasValidEncoding : Bytes → Bool
  | [] => true
  | c :: rest =>
    if c < 0x20 ∨ c = 0x7f then false
    else if c = byteOf '%' then
      match rest with
      | first :: second :: rest => isHex first && isHex second && hasValidEncoding rest
      | _ => false
    else hasValidEncoding rest

/-- `constantTimeEqual` -/
def constantTimeEqual (expected actual : Bytes) : Bool :=
  if expected.length ≠ actual.length then false else differences expected actual = 0

/-- `ParsedQuery` -/
structure ParsedQuery where
  decision : Decision := .malformedQuery
  state : Bytes := []

/-- `MAX_QUERY_PARAMETERS` -/
def maxQueryParameters : ℕ := 16

/-- A name and a value, cut at the first equals sign of a parameter. -/
def cutParameter (parameter : Bytes) : Option (Bytes × Bytes) :=
  match parameter.span (· != byteOf '=') with
  | (_, []) => none
  | ([], _) => none
  | (name, _ :: value) => some (name, value)

/-- What the loop of `parseQuery` has seen of the query. -/
structure QueryScan where
  names : List Bytes := []
  hasCode : Bool := false
  hasError : Bool := false
  state : Bytes := []

/-- One turn of the loop of `parseQuery`: the scan with one more parameter, or the decision
that ends it. -/
def scanParameter (scan : QueryScan) (parameter : Bytes) : Except Decision QueryScan :=
  if scan.names.length = maxQueryParameters then .error .malformedQuery
  else
    match cutParameter parameter with
    | none => .error .malformedQuery
    | some (name, value) =>
      if !hasValidEncoding name || !hasValidEncoding value then .error .malformedQuery
      else if name ∈ scan.names then .error .duplicateParameter
      else
        let scan := { scan with names := scan.names ++ [name] }
        if name = ascii "code" then
          if value.isEmpty then .error .codeMissing else .ok { scan with hasCode := true }
        else if name = ascii "state" then
          if value.isEmpty then .error .stateMissing else .ok { scan with state := value }
        else if name = ascii "error" then
          if value.isEmpty then .error .malformedQuery else .ok { scan with hasError := true }
        else .ok scan

/-- `parseQuery`. The loop takes the pieces between the separators in order. -/
def parseQuery (query : Bytes) : ParsedQuery :=
  if query.isEmpty || query.head? == some (byteOf '?') || query.getLast? == some (byteOf '&') then
    { decision := .malformedQuery }
  else
    match (query.splitOn (byteOf '&')).foldlM scanParameter {} with
    | .error decision => { decision := decision }
    | .ok scan =>
      if scan.hasError then
        if scan.hasCode then { decision := .malformedQuery }
        else { decision := .authorizationRejected }
      else if scan.state.isEmpty then { decision := .stateMissing }
      else if !scan.hasCode then { decision := .codeMissing }
      else { decision := .correlationMatchedCodeDiscarded, state := scan.state }

end CTraderOAuthCorrelationGuard

open CTraderOAuthCorrelationGuard

/-- `CTraderOAuthCorrelationGuard`. Times are readings of the steady clock. -/
structure CTraderOAuthCorrelationGuard where
  phase : Phase := .unarmed
  lastDecision : Decision := .unarmed
  armedAt : ℤ := 0
  expiresAt : ℤ := 0
  state : Bytes := []

namespace CTraderOAuthCorrelationGuard

variable (guard : CTraderOAuthCorrelationGuard)

/-- `finish` -/
def finish (decision : Decision) : CTraderOAuthCorrelationGuard × Decision :=
  ({ guard with
    state := []
    phase := .terminal
    lastDecision := decision }, decision)

/-- What `arm` and `armWithEntropy` do when the guard is not unarmed. -/
def rejectRearming : CTraderOAuthCorrelationGuard × Bool :=
  if guard.phase = .armed then ((guard.finish .alreadyTerminal).1, false)
  else ({ guard with lastDecision := .alreadyTerminal }, false)

/-- `armWithEntropy` -/
def armWithEntropy (binding : ListenerBinding) (now : ℤ) (entropy : Vector UInt8 32) :
    CTraderOAuthCorrelationGuard × Bool :=
  if guard.phase ≠ .unarmed then guard.rejectRearming
  else if binding.address ≠ loopbackAddress ∨ binding.port ≠ loopbackPort then
    ({ guard with phase := .terminal, lastDecision := .listenerBindingRejected }, false)
  else if clockMax - correlationLifetime < now then
    ({ guard with phase := .terminal, lastDecision := .callbackExpired }, false)
  else
    ({ guard with
      state := base64UrlEncode entropy.toList
      armedAt := now
      expiresAt := now + correlationLifetime
      phase := .armed
      lastDecision := .armed }, true)

/-- `arm`, with the bytes that the operating system gives or none when it fails. -/
def arm (binding : ListenerBinding) (now : ℤ) (entropy : Option (Vector UInt8 32)) :
    CTraderOAuthCorrelationGuard × Bool :=
  if guard.phase ≠ .unarmed then guard.rejectRearming
  else
    match entropy with
    | none => ({ guard with phase := .terminal, lastDecision := .entropyUnavailable }, false)
    | some entropy => guard.armWithEntropy binding now entropy

/-- `stateForAuthorizationRequest` -/
def stateForAuthorizationRequest : Bytes :=
  if guard.phase = .armed then guard.state else []

/-- `consume` -/
def consume (request : CallbackRequest) (now : ℤ) : CTraderOAuthCorrelationGuard × Decision :=
  if guard.phase = .unarmed then guard.finish .callbackBeforeArming
  else if guard.phase = .terminal then
    ({ guard with lastDecision := .alreadyTerminal }, .alreadyTerminal)
  else if now < guard.armedAt then guard.finish .callbackBeforeArming
  else if guard.expiresAt ≤ now then guard.finish .callbackExpired
  else if request.remoteAddress ≠ loopbackAddress then guard.finish .unexpectedRemote
  else if request.method ≠ ascii "GET" then guard.finish .unexpectedMethod
  else if request.host ≠ callbackHost then guard.finish .unexpectedHost
  else if request.path ≠ callbackPath then guard.finish .unexpectedPath
  else
    let parsed := parseQuery request.rawQuery
    if parsed.decision ≠ .correlationMatchedCodeDiscarded then guard.finish parsed.decision
    else if !constantTimeEqual guard.state parsed.state then guard.finish .stateMismatch
    else guard.finish .correlationMatchedCodeDiscarded

/-- `expireIfDue` -/
def expireIfDue (now : ℤ) : CTraderOAuthCorrelationGuard × Decision :=
  if guard.phase = .unarmed then guard.finish .callbackBeforeArming
  else if guard.phase = .terminal then
    ({ guard with lastDecision := .alreadyTerminal }, .alreadyTerminal)
  else if now < guard.armedAt then guard.finish .callbackBeforeArming
  else if now < guard.expiresAt then ({ guard with lastDecision := .armed }, .armed)
  else guard.finish .callbackExpired

/-- `cancel` -/
def cancel : CTraderOAuthCorrelationGuard × Decision :=
  if guard.phase = .terminal then
    ({ guard with lastDecision := .alreadyTerminal }, .alreadyTerminal)
  else guard.finish .cancelled

/-- The calls of the guard's owner. -/
inductive Call where
  | arm (binding : ListenerBinding) (now : ℤ) (entropy : Option (Vector UInt8 32))
  | armWithEntropy (binding : ListenerBinding) (now : ℤ) (entropy : Vector UInt8 32)
  | consume (request : CallbackRequest) (now : ℤ)
  | expireIfDue (now : ℤ)
  | cancel

/-- What a call returns. -/
inductive Answer where
  | armed (result : Bool)
  | decided (decision : Decision)
  deriving DecidableEq

/-- One call. -/
def call : Call → CTraderOAuthCorrelationGuard × Answer
  | .arm binding now entropy => (guard.arm binding now entropy).map id .armed
  | .armWithEntropy binding now entropy => (guard.armWithEntropy binding now entropy).map id .armed
  | .consume request now => (guard.consume request now).map id .decided
  | .expireIfDue now => (guard.expireIfDue now).map id .decided
  | .cancel => guard.cancel.map id .decided

/-- The guard as a machine. -/
def machine : Machine CTraderOAuthCorrelationGuard Call Answer where
  step guard c := guard.call c

end CTraderOAuthCorrelationGuard

end TradeBot
