import TradeBot.Library.Bytes
import TradeBot.Library.Machine

/-!
# The WebSocket decoder

What `AsyncNetworkClient` makes of the bytes of one connection after the handshake: frames are
taken from the receive buffer and dispatched. The message callback is set; what it does is
outside the model, as are the clock readings.
-/

namespace TradeBot

open Library

namespace AsyncNetworkClient

/-- `WS_OPCODE_CONTINUATION` -/
def wsOpcodeContinuation : UInt8 := 0x0

/-- `WS_OPCODE_TEXT` -/
def wsOpcodeText : UInt8 := 0x1

/-- `WS_OPCODE_BINARY` -/
def wsOpcodeBinary : UInt8 := 0x2

/-- `WS_OPCODE_CLOSE` -/
def wsOpcodeClose : UInt8 := 0x8

/-- `WS_OPCODE_PING` -/
def wsOpcodePing : UInt8 := 0x9

/-- `WS_OPCODE_PONG` -/
def wsOpcodePong : UInt8 := 0xa

/-- `DecodedFrame` -/
structure DecodedFrame where
  opcode : UInt8 := 0
  fin : Bool := false
  payload : Bytes := []
  deriving DecidableEq

/-- The payload length of a frame, from the seven bits of its second byte and what follows. -/
def payloadLength (short : UInt8) (rest : Bytes) : Option (ℕ × Bytes) :=
  if short = 126 then
    match rest with
    | high :: low :: rest => some ((high.toNat <<< 8) ||| low.toNat, rest)
    | _ => none
  else if short = 127 then
    if rest.length < 8 then none
    else some ((rest.take 8).foldl (fun length b => (length <<< 8) ||| b.toNat) 0, rest.drop 8)
  else some (short.toNat, rest)

/-- The mask key of a frame. -/
def maskKey (masked : Bool) (rest : Bytes) : Option (Bytes × Bytes) :=
  if masked then
    if rest.length < 4 then none else some (rest.take 4, rest.drop 4)
  else some ([0, 0, 0, 0], rest)

/-- The payload of a frame without its mask. -/
def unmask (masked : Bool) (key payload : Bytes) : Bytes :=
  payload.mapIdx fun i v => if masked then v ^^^ key.getD (i % 4) 0 else v

/-- The longest payload that is read. -/
def maxPayload : ℕ := 1 <<< 20

/-- `popOneFrame` -/
def popOneFrame (rxBuffer : Bytes) : Option (DecodedFrame × Bytes) :=
  match rxBuffer with
  | b0 :: b1 :: rest =>
    let masked := b1 &&& 0x80 != 0
    match payloadLength (b1 &&& 0x7f) rest with
    | none => none
    | some (payloadLen, rest) =>
      match maskKey masked rest with
      | none => none
      | some (key, rest) =>
        if maxPayload < payloadLen then
          some ({ opcode := wsOpcodeClose, fin := true, payload := [] }, [])
        else if rest.length < payloadLen then none
        else
          some
            ({ opcode := b0 &&& 0x0f
               fin := b0 &&& 0x80 != 0
               payload := unmask masked key (rest.take payloadLen) }, rest.drop payloadLen)
  | _ => none

/-- What the connection does for a frame. -/
inductive WsEvent where
  /-- A message is given to the callback. -/
  | message (payload : Bytes)
  /-- A ping is answered with its payload. -/
  | pong (payload : Bytes)
  /-- The connection is closed. -/
  | disconnect
  deriving DecidableEq

/-- The decoder's state beside the receive buffer. -/
structure WsMessages where
  isOpen : Bool := true
  fragmentBuffer : Bytes := []
  fragmentOpcode : UInt8 := 0
  pongsReceived : ℕ := 0
  messagesReceived : ℕ := 0
  bytesReceived : ℕ := 0
  deriving DecidableEq

/-- `handleDisconnect`, with `closeWsConnection`. -/
def handleDisconnect (messages : WsMessages) : WsMessages :=
  { messages with
    isOpen := false
    fragmentBuffer := []
    fragmentOpcode := 0 }

/-- One turn of the loop of `processWsRxBuffer`, after the frame is taken. -/
def dispatchFrame (messages : WsMessages) (frame : DecodedFrame) : WsMessages × List WsEvent :=
  if frame.opcode = wsOpcodePing then (messages, [.pong frame.payload])
  else if frame.opcode = wsOpcodePong then
    ({ messages with pongsReceived := messages.pongsReceived + 1 }, [])
  else if frame.opcode = wsOpcodeClose then (handleDisconnect messages, [.disconnect])
  else if frame.opcode = wsOpcodeContinuation then
    let fragmentBuffer := messages.fragmentBuffer ++ frame.payload
    if frame.fin then
      ({ messages with
        messagesReceived := messages.messagesReceived + 1
        bytesReceived := messages.bytesReceived + fragmentBuffer.length
        fragmentBuffer := []
        fragmentOpcode := 0 }, if fragmentBuffer.isEmpty then [] else [.message fragmentBuffer])
    else ({ messages with fragmentBuffer := fragmentBuffer }, [])
  else if (frame.opcode = wsOpcodeText ∨ frame.opcode = wsOpcodeBinary) ∧ !frame.fin then
    ({ messages with
      fragmentBuffer := frame.payload
      fragmentOpcode := frame.opcode }, [])
  else if frame.opcode = wsOpcodeText ∨ frame.opcode = wsOpcodeBinary then
    ({ messages with
      messagesReceived := messages.messagesReceived + 1
      bytesReceived := messages.bytesReceived + frame.payload.length }, [.message frame.payload])
  else (messages, [])

/-- The decoder of one connection. -/
structure WsConnection where
  rxBuffer : Bytes := []
  messages : WsMessages := {}
  deriving DecidableEq

/-- `processWsRxBuffer`. Every frame takes at least two bytes, so the length of the buffer is
fuel enough. -/
def processWsRxBuffer : ℕ → WsConnection → WsConnection × List WsEvent
  | 0, connection => (connection, [])
  | fuel + 1, connection =>
    match popOneFrame connection.rxBuffer with
    | none => (connection, [])
    | some (frame, rest) =>
      let dispatched := dispatchFrame connection.messages frame
      if frame.opcode = wsOpcodeClose then
        ({ rxBuffer := [], messages := dispatched.1 }, dispatched.2)
      else
        let processed := processWsRxBuffer fuel { rxBuffer := rest, messages := dispatched.1 }
        (processed.1, dispatched.2 ++ processed.2)

/-- One chunk that `onSocketReadable` reads. Nothing is read from a closed connection. -/
def receiveChunk (connection : WsConnection) (chunk : Bytes) : WsConnection × List WsEvent :=
  if !connection.messages.isOpen then (connection, [])
  else
    let rxBuffer := connection.rxBuffer ++ chunk
    processWsRxBuffer (rxBuffer.length + 1) { connection with rxBuffer := rxBuffer }

/-- The connection as a machine that reads chunks. -/
def connectionMachine : Machine WsConnection Bytes (List WsEvent) where
  step := receiveChunk

/-- The dispatcher as a machine that takes decoded frames, up to the one that closes the
connection. -/
def frameMachine : Machine WsMessages DecodedFrame (List WsEvent) where
  step messages frame := if messages.isOpen then dispatchFrame messages frame else (messages, [])

end AsyncNetworkClient

end TradeBot
