import TradeBot.Library.BigEndian
import TradeBot.Library.Bytes

/-!
# The receiving side of the transport

`StrictTransport` of `CTraderGate7Runtime.mm`, from the bytes of a TLS connection to the answer
of a request. The schedule (how many bytes each read moves, what each wait ends with, every
reading of the clock and the outcome of each heartbeat that is sent) is an input. The envelopes
are generated code, which is a parameter, and so is whether a payload is a message of its type.
-/

namespace TradeBot

open Library

namespace CTraderGate7Runtime

/-- `Gate7TransportOutcome`. -/
inductive TransportOutcome
  | expected
  | timeout
  | transportClosed
  | commonProviderError
  | openApiProviderError
  | tokenInvalidated
  | accountDisconnected
  | clientDisconnected
  | unexpectedAllowedPayload
  | correlationMismatch
  | malformedEnvelope
  | inboundTypeRejected
  | resourceExhausted
deriving DecidableEq

/-- `Gate7SendOutcome`. -/
inductive SendOutcome
  | sent
  | inactiveConnection
  | payloadRejected
  | correlationRejected
  | messageUninitialized
  | serializationFailed
  | frameTooLarge
  | writeTimeout
  | transportClosed
  | writeFailed
  | resourceExhausted

def maxProtoFrameBytes : ℕ := 4194304

def heartbeatEvent : ℕ := 51

def isAllowedInboundPayload (payloadType : ℕ) : Bool :=
  [50, 51, 2101, 2103, 2115, 2117, 2128, 2130, 2131, 2142, 2147, 2148, 2150, 2164].contains
    payloadType

/-- `Gate7HeartbeatCadence`, in nanoseconds. -/
structure HeartbeatCadence where
  nextDue : ℕ := 0
  armed : Bool := false

def HeartbeatCadence.interval : ℕ := 9000000000

def HeartbeatCadence.markOutbound (now : ℕ) : HeartbeatCadence where
  nextDue := now + interval
  armed := true

def HeartbeatCadence.due (cadence : HeartbeatCadence) (now : ℕ) : Bool :=
  cadence.armed && decide (cadence.nextDue ≤ now)

/-- `ProtoMessage`, as far as it is read. -/
structure ProtoMessage where
  payloadType : ℕ
  clientMsgId : Option Bytes
  payload : Option Bytes

/-- What a read of the TLS library, or the wait after it, ends with. -/
inductive ReadAnswer
  | read (count : ℕ)
  | ready
  | waitTimedOut (later : ℕ)
  | closed

/-- One round of the loop of `readExactDetailed`: the clock before it, the outcome of a heartbeat
if one is due and the clock after it, and what the read ends with. The source reads the clock
twice before the heartbeat, for its deadline and for its cadence; one reading stands for both. -/
structure Turn where
  now : ℕ
  heartbeat : SendOutcome
  sent : ℕ
  answer : ReadAnswer

/-- The bytes that the peer sends from here on, and the cadence of the heartbeats. -/
structure Connection where
  incoming : Bytes
  cadence : HeartbeatCadence

/-- The heartbeat of a round, if one is due. -/
def Connection.beat (connection : Connection) (turn : Turn) :
    Except TransportOutcome Connection :=
  if connection.cadence.due turn.now then
    match turn.heartbeat with
    | .sent => .ok { connection with cadence := .markOutbound turn.sent }
    | .resourceExhausted => .error .resourceExhausted
    | .writeTimeout => .error .timeout
    | _ => .error .transportClosed
  else .ok connection

/-- What a reception ends with, unless the schedule ends first. -/
abbrev Reception (α : Type) := Option (Except TransportOutcome α × Connection × List Turn)

/-- `readExactDetailed`, with the bytes so far. -/
def readExact (size deadline : ℕ) : Bytes → Connection → List Turn → Reception Bytes
  | got, connection, [] => if size ≤ got.length then some (.ok got, connection, []) else none
  | got, connection, turn :: turns =>
    if size ≤ got.length then some (.ok got, connection, turn :: turns)
    else if deadline ≤ turn.now then some (.error .timeout, connection, turns)
    else
      match connection.beat turn with
      | .error outcome => some (.error outcome, connection, turns)
      | .ok connection =>
        match turn.answer with
        | .read count =>
          let moved := min count (size - got.length)
          readExact size deadline (got ++ connection.incoming.take moved)
            { connection with incoming := connection.incoming.drop moved } turns
        | .ready => readExact size deadline got connection turns
        | .waitTimedOut later =>
          if deadline ≤ later then some (.error .timeout, connection, turns)
          else readExact size deadline got connection turns
        | .closed => some (.error .transportClosed, connection, turns)

section Receive

variable (parse : Bytes → Option ProtoMessage) (parsesAs : ℕ → Bytes → Bool)

/-- The part of `receiveOneDetailed` after the frame is read. -/
def openEnvelope (frame : Bytes) : Except TransportOutcome ProtoMessage :=
  match parse frame with
  | none => .error .malformedEnvelope
  | some message =>
    if isAllowedInboundPayload message.payloadType then .ok message
    else .error .inboundTypeRejected

/-- `receiveOneDetailed`. -/
def receiveOne (deadline : ℕ) (connection : Connection) (turns : List Turn) :
    Reception ProtoMessage :=
  match readExact 4 deadline [] connection turns with
  | none => none
  | some (.error outcome, connection, turns) => some (.error outcome, connection, turns)
  | some (.ok header, connection, turns) =>
    let length := ofBigEndian header
    if length = 0 ∨ maxProtoFrameBytes < length then
      some (.error .malformedEnvelope, connection, turns)
    else
      match readExact length deadline [] connection turns with
      | none => none
      | some (.error outcome, connection, turns) => some (.error outcome, connection, turns)
      | some (.ok frame, connection, turns) => some (openEnvelope parse frame, connection, turns)

/-- `classifyControlPayload`. -/
def classifyControlPayload (payloadType : ℕ) (payload : Bytes) : TransportOutcome :=
  let control (outcome : TransportOutcome) :=
    if parsesAs payloadType payload then outcome else .malformedEnvelope
  if payloadType = 50 then control .commonProviderError
  else if payloadType = 2142 then control .openApiProviderError
  else if payloadType = 2147 then control .tokenInvalidated
  else if payloadType = 2164 then control .accountDisconnected
  else if payloadType = 2148 then control .clientDisconnected
  else .expected

/-- `receiveExpectedDetailed`: the outcome, the payload and the connection, unless the schedule
ends first. Each round reads the clock once more. -/
def receiveExpected (expected : ℕ) (expectedCorrelation : Bytes) (deadline : ℕ) :
    Bytes → List ℕ → Connection → List Turn → Option (TransportOutcome × Bytes × Connection)
  | _, [], _, _ => none
  | payload, now :: clock, connection, turns =>
    if deadline ≤ now then some (.timeout, payload, connection)
    else
      match receiveOne parse deadline connection turns with
      | none => none
      | some (.error outcome, connection, _) => some (outcome, payload, connection)
      | some (.ok message, connection, turns) =>
        -- an envelope without a payload leaves what the caller has passed in
        let payload := message.payload.getD payload
        if message.payloadType = heartbeatEvent then
          receiveExpected expected expectedCorrelation deadline [] clock connection turns
        else
          let control := classifyControlPayload parsesAs message.payloadType payload
          if control ≠ .expected then some (control, [], connection)
          else if message.payloadType ≠ expected then
            some (.unexpectedAllowedPayload, [], connection)
          else if message.clientMsgId.getD [] ≠ expectedCorrelation then
            some (.correlationMismatch, [], connection)
          else some (.expected, payload, connection)

end Receive

end CTraderGate7Runtime

end TradeBot
