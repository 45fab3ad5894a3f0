import TradeBot.Library.CappedDoubling
import TradeBot.Library.Protocols
import TradeBot.Network.Urls

/-!
# Heartbeats and reconnection

How `AsyncNetworkClient` keeps one WebSocket open. The calls of its loop and of its users come
one after the other; what the clock and the sockets answer are inputs. The counters do not wrap.
-/

namespace TradeBot

open Library

namespace AsyncNetworkClient

/-- The settings of `setReconnectPolicy` and `setHeartbeatPolicy`. -/
structure LinkPolicy where
  reconnectEnabled : Bool := true
  reconnectInitialBackoffMs : ℕ := 250
  reconnectMaxBackoffMs : ℕ := 5000
  reconnectMaxAttempts : ℕ := 8
  heartbeatPingIntervalMs : ℕ := 15000
  heartbeatPongTimeoutMs : ℕ := 45000

/-- The members of the client behind its WebSocket. -/
structure Link where
  policy : LinkPolicy := {}
  tls : TlsPolicy := ⟨false, true⟩
  running : Bool := false
  stopRequested : Bool := false
  wsConnected : Bool := false
  wsUrl : Bytes := []
  wsParsedUrl : ParsedUrl := {}
  lastWsRecvNs : ℕ := 0
  lastWsPingNs : ℕ := 0
  lastWsPongNs : ℕ := 0
  wsPingsSent : ℕ := 0
  wsPongsReceived : ℕ := 0
  wsReconnectAttempts : ℕ := 0
  reconnectCurrentBackoffMs : ℕ := 250
  nextReconnectNs : ℕ := 0
  /-- A ghost: the last reading of the clock. -/
  clockNs : ℕ := 0

/-- What an observer sees of the link. -/
inductive LinkEvent where
  | opened (atNs : ℕ)
  /-- A connection is closed without a word. -/
  | closed
  /-- The disconnect callback is called. -/
  | disconnected
  /-- Bytes or a pong have come in. -/
  | heard (atNs : ℕ)
  | pinged (atNs : ℕ)
  /-- A heartbeat finds that a connection is alive, or that it is not. -/
  | alive (atNs timeoutMs : ℕ)
  | expired (atNs timeoutMs : ℕ)
  | scheduled (atNs waitMs : ℕ)
  | attempted (atNs : ℕ)
  | pingIntervalSet (intervalMs : ℕ)
  deriving DecidableEq

/-- The calls that move the link. -/
inductive LinkCall where
  | start
  | stop
  | setReconnectPolicy (enabled : Bool) (initialBackoffMs maxBackoffMs maxAttempts : UInt32)
  | setHeartbeatPolicy (pingIntervalMs pongTimeoutMs : UInt32)
  | setStrictTlsValidation (tls : TlsPolicy)
  | connectWebSocket (url : Bytes)
  /-- The loop has read bytes, or a whole message. -/
  | received
  | pongReceived
  /-- The loop has met an error, a hang-up or a close frame. -/
  | hungUp
  | updateHeartbeat

/-- A call, and what the clock and the sockets answer during it. -/
structure LinkInput where
  call : LinkCall
  nowNs : ℕ
  /-- A second reading, once the network was used. -/
  laterNs : ℕ
  /-- Whether `start` succeeds, should it be called. -/
  started : Bool := true
  /-- Whether a socket is connected and upgraded. -/
  upgraded : Bool := false
  /-- Whether a ping is sent. -/
  pingSent : Bool := false

/-- Nanoseconds in a millisecond. -/
def nsPerMs : ℕ := 1000000

namespace Link

/-- `closeWsConnection` -/
def closeWsConnection (link : Link) : Link × List LinkEvent :=
  ({ link with wsConnected := false }, if link.wsConnected then [.closed] else [])

/-- The end of `connectWebSocketInternal` when it succeeds. -/
def established (link : Link) (nowNs : ℕ) : Link × List LinkEvent :=
  ({ link with
    wsConnected := true
    lastWsRecvNs := nowNs
    lastWsPongNs := nowNs
    lastWsPingNs := 0
    reconnectCurrentBackoffMs := link.policy.reconnectInitialBackoffMs
    nextReconnectNs := 0 }, [.opened nowNs])

/-- Whether `connectWebSocketInternal` gets through to the end. -/
def reaches (link : Link) (parsed : ParsedUrl) (upgraded : Bool) : Bool :=
  match connectWebSocketInternal link.tls parsed with
  | .mocked => true
  | .refused _ => false
  | .dials .. => upgraded

/-- `connectWebSocketInternal` -/
def connect (link : Link) (parsed : ParsedUrl) (upgraded : Bool) (nowNs : ℕ) :
    Link × List LinkEvent :=
  let (link, events) := link.closeWsConnection
  if link.reaches parsed upgraded then
    let (link, opened) := link.established nowNs
    (link, events ++ opened)
  else (link, events)

/-- `scheduleReconnect` -/
def scheduleReconnect (link : Link) (nowNs : ℕ) : Link × List LinkEvent :=
  if !link.policy.reconnectEnabled || link.stopRequested then (link, [])
  else if link.wsUrl.isEmpty || decide (link.wsParsedUrl.scheme = ascii "mock") then (link, [])
  else if 0 < link.policy.reconnectMaxAttempts ∧
      link.policy.reconnectMaxAttempts ≤ link.wsReconnectAttempts then (link, [])
  else
    let backoffMs := min link.reconnectCurrentBackoffMs link.policy.reconnectMaxBackoffMs
    ({ link with
      nextReconnectNs := (nowNs + backoffMs * nsPerMs) % 2 ^ 64
      reconnectCurrentBackoffMs :=
        min (backoffMs * 2 % 2 ^ 32) link.policy.reconnectMaxBackoffMs },
      [.scheduled nowNs backoffMs])

/-- A connection that is lost, or an attempt that has failed. -/
def failed (link : Link) (nowNs : ℕ) : Link × List LinkEvent :=
  { link with wsReconnectAttempts := link.wsReconnectAttempts + 1 }.scheduleReconnect nowNs

/-- `handleDisconnect` -/
def handleDisconnect (link : Link) (nowNs : ℕ) : Link × List LinkEvent :=
  if !link.wsConnected then (link, [])
  else
    let (link, events) := { link with wsConnected := false }.failed nowNs
    (link, .disconnected :: events)

/-- `updateHeartbeat` without a connection. -/
def attemptIfDue (link : Link) (input : LinkInput) : Link × List LinkEvent :=
  if link.nextReconnectNs ≠ 0 ∧ link.nextReconnectNs ≤ input.nowNs ∧ !link.wsUrl.isEmpty then
    let link := { link with nextReconnectNs := 0 }
    let (tried, events) := link.connect link.wsParsedUrl input.upgraded input.laterNs
    if link.reaches link.wsParsedUrl input.upgraded then
      (tried, .attempted input.nowNs :: events)
    else
      let (link, scheduled) := tried.failed input.laterNs
      (link, .attempted input.nowNs :: (events ++ scheduled))
  else (link, [])

/-- The difference of two readings: `uint64_t` arithmetic. -/
def elapsedNs (nowNs sinceNs : ℕ) : ℕ := (nowNs + 2 ^ 64 - sinceNs) % 2 ^ 64

/-- The ping of `updateHeartbeat`. -/
def pingIfDue (link : Link) (input : LinkInput) : Link × List LinkEvent :=
  if (link.lastWsPingNs = 0 ∨
      link.policy.heartbeatPingIntervalMs * nsPerMs ≤ elapsedNs input.nowNs link.lastWsPingNs) ∧
      input.pingSent then
    ({ link with
      lastWsPingNs := input.nowNs
      wsPingsSent := link.wsPingsSent + 1 }, [.pinged input.nowNs])
  else (link, [])

/-- The timeout of `updateHeartbeat`. -/
def expireIfSilent (link : Link) (input : LinkInput) : Link × List LinkEvent :=
  let reference := max link.lastWsPongNs link.lastWsRecvNs
  let timeoutMs := link.policy.heartbeatPongTimeoutMs
  if reference ≠ 0 ∧ timeoutMs * nsPerMs < elapsedNs input.nowNs reference then
    let (link, events) := link.handleDisconnect input.laterNs
    (link, .expired input.nowNs timeoutMs :: events)
  else (link, [.alive input.nowNs timeoutMs])

/-- `updateHeartbeat` -/
def updateHeartbeat (link : Link) (input : LinkInput) : Link × List LinkEvent :=
  if !link.wsConnected then link.attemptIfDue input
  else if link.wsParsedUrl.scheme = ascii "mock" then (link, [])
  else
    let (link, pinged) := link.pingIfDue input
    let (link, events) := link.expireIfSilent input
    (link, pinged ++ events)

/-- `start` -/
def start (link : Link) (started : Bool) : Link × Bool :=
  if link.running then (link, true)
  else if started then ({ link with
    stopRequested := false
    running := true }, true)
  else (link, false)

/-- `stop` -/
def stop (link : Link) : Link × List LinkEvent :=
  if !link.running then (link, [])
  else
    let (link, events) := { link with stopRequested := true }.closeWsConnection
    ({ link with running := false }, events)

/-- `setReconnectPolicy` -/
def setReconnectPolicy (link : Link) (enabled : Bool)
    (initialBackoffMs maxBackoffMs maxAttempts : UInt32) : Link :=
  let initial := max 50 initialBackoffMs.toNat
  { link with
    policy := { link.policy with
      reconnectEnabled := enabled
      reconnectInitialBackoffMs := initial
      reconnectMaxBackoffMs := max initial (max 100 maxBackoffMs.toNat)
      reconnectMaxAttempts := maxAttempts.toNat }
    reconnectCurrentBackoffMs := initial }

/-- `setHeartbeatPolicy` -/
def setHeartbeatPolicy (link : Link) (pingIntervalMs pongTimeoutMs : UInt32) :
    Link × List LinkEvent :=
  let interval := max 100 pingIntervalMs.toNat
  ({ link with
    policy := { link.policy with
      heartbeatPingIntervalMs := interval
      heartbeatPongTimeoutMs := max 500 pongTimeoutMs.toNat } }, [.pingIntervalSet interval])

/-- `connectWebSocket`. An exception of `parseUrl` leaves the link as `start` left it. -/
def connectWebSocket (link : Link) (url : Bytes) (input : LinkInput) : Link × List LinkEvent :=
  let (link, running) := link.start input.started
  if !running then (link, [])
  else
    match parseUrl url with
    | .error _ => (link, [])
    | .ok parsed =>
      if !parsed.valid then (link, [])
      else { link with
        wsUrl := url
        wsParsedUrl := parsed }.connect parsed input.upgraded input.laterNs

/-- One call. The calls of the loop come only while it runs. -/
def perform (link : Link) (input : LinkInput) : Link × List LinkEvent :=
  match input.call with
  | .start => ((link.start input.started).1, [])
  | .stop => link.stop
  | .setReconnectPolicy enabled initialBackoffMs maxBackoffMs maxAttempts =>
    (link.setReconnectPolicy enabled initialBackoffMs maxBackoffMs maxAttempts, [])
  | .setHeartbeatPolicy pingIntervalMs pongTimeoutMs =>
    link.setHeartbeatPolicy pingIntervalMs pongTimeoutMs
  | .setStrictTlsValidation tls => ({ link with tls := tls }, [])
  | .connectWebSocket url => link.connectWebSocket url input
  | .received =>
    if link.running then ({ link with lastWsRecvNs := input.nowNs }, [.heard input.nowNs])
    else (link, [])
  | .pongReceived =>
    if link.running then
      ({ link with
        lastWsPongNs := input.nowNs
        wsPongsReceived := link.wsPongsReceived + 1 }, [.heard input.nowNs])
    else (link, [])
  | .hungUp => if link.running then link.handleDisconnect input.laterNs else (link, [])
  | .updateHeartbeat => if link.running then link.updateHeartbeat input else (link, [])

end Link

/-- The link as a machine. -/
def linkMachine : Machine Link LinkInput (List LinkEvent) where
  step link input :=
    let (next, events) := link.perform input
    ({ next with clockNs := input.laterNs }, events)

/-- A steady clock: readings are positive, do not decrease and are counts of a signed 64-bit
duration. -/
def Steady (link : Link) (input : LinkInput) : Prop :=
  0 < input.nowNs ∧ link.clockNs ≤ input.nowNs ∧ input.nowNs ≤ input.laterNs ∧
    input.laterNs < 2 ^ 63

instance (link : Link) (input : LinkInput) : Decidable (Steady link input) :=
  inferInstanceAs (Decidable (_ ∧ _))

/-- What an observer knows about the link. -/
structure LinkPhase where
  up : Bool := false
  dueNs : Option ℕ := none
  heardNs : ℕ := 0
  pingedNs : Option ℕ := none
  pingIntervalMs : ℕ := 15000

/-- What a link may do: it is lost once for each time it was opened; it is pinged while it is
open, an interval after the last ping; it expires exactly when it was silent for the timeout; a
new attempt is scheduled while it is down and none is due, and made once, not before it is due. -/
def linkProtocol : Protocol LinkPhase LinkEvent where
  observe phase
    | .opened atNs => some { phase with
        up := true
        dueNs := none
        heardNs := atNs
        pingedNs := none }
    | .closed | .disconnected => if phase.up then some { phase with up := false } else none
    | .heard atNs => some { phase with heardNs := atNs }
    | .pinged atNs =>
      if phase.up ∧ phase.pingedNs.all fun lastNs =>
          decide (lastNs + phase.pingIntervalMs * nsPerMs ≤ atNs) then
        some { phase with pingedNs := some atNs }
      else none
    | .alive atNs timeoutMs =>
      if phase.up ∧ atNs ≤ phase.heardNs + timeoutMs * nsPerMs then some phase else none
    | .expired atNs timeoutMs =>
      if phase.up ∧ phase.heardNs + timeoutMs * nsPerMs < atNs then some phase else none
    | .scheduled atNs waitMs =>
      if !phase.up ∧ phase.dueNs = none then
        some { phase with dueNs := some (atNs + waitMs * nsPerMs) }
      else none
    | .attempted atNs =>
      if !phase.up ∧ phase.dueNs.any fun dueNs => decide (dueNs ≤ atNs) then
        some { phase with dueNs := none }
      else none
    | .pingIntervalSet intervalMs => some { phase with pingIntervalMs := intervalMs }

end AsyncNetworkClient

end TradeBot
