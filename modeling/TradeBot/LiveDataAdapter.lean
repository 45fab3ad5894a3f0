import TradeBot.Library.BoundedQueue
import TradeBot.Library.Bytes
import TradeBot.Library.Machine
import TradeBot.RiskEngine

/-!
# The market-data adapter

`LiveDataAdapter` hands candles from the network to the trading thread. The candles live in
nodes of two fixed pools; what moves between the threads are pointers to the nodes. The rings
between the threads are bounded queues. What the network client answers, the clocks and the
reading of numbers are inputs; the reconnection worker and the statistics are left out.
-/

namespace TradeBot

open Library

/-- The nodes in each of the two pools. -/
def poolSize : ℕ := 4096

/-- A `TickNode*`: a node of `m_tickPool` or of `m_networkPool`. -/
inductive NodePtr where
  | tick (index : Fin poolSize)
  | network (index : Fin poolSize)
  deriving DecidableEq

/-- `MarketCandle`, with the fields that the adapter fills in. -/
structure TickCandle where
  date : Bytes := []
  time : Bytes := []
  symbol : Bytes := []
  epochTimestamp : ℕ := 0
  opening : Double := 0
  high : Double := 0
  low : Double := 0
  close : Double := 0
  volume : Double := 0
  deriving DecidableEq

/-- `TickNode` -/
structure TickNode where
  candle : TickCandle := {}
  inUse : Bool := false
  networkOwned : Bool := false
  deriving DecidableEq

/-- How the C library reads numbers: `strtod` and the conversion to `uint64_t`. -/
structure NumberReader where
  strtod : Bytes → Double
  toUInt64 : Double → UInt64

section Parser

/-- What follows the first occurrence of a text. -/
def afterFirst (pattern : Bytes) : Bytes → Option Bytes
  | [] => if pattern = [] then some [] else none
  | c :: text =>
    if pattern.isPrefixOf (c :: text) then some ((c :: text).drop pattern.length)
    else afterFirst pattern text

/-- `extractString`: the text in quotes after the key, if there is one. -/
def extractString (payload : Bytes) (key : String) : Option Bytes :=
  match afterFirst (ascii "\"" ++ ascii key ++ ascii "\":\"") payload with
  | none => none
  | some rest =>
    let value := rest.takeWhile (· != byteOf '"')
    if value.length = rest.length ∨ value = [] then none else some value

/-- The bytes that can stand in a number. -/
def isNumberByte (c : UInt8) : Bool :=
  (byteOf '0' ≤ c && c ≤ byteOf '9') || c == byteOf '.' || c == byteOf '-' || c == byteOf '+' ||
    c == byteOf 'e' || c == byteOf 'E'

variable (reader : NumberReader)

/-- `extractNumber`: at most 63 bytes of the number after the key are read. -/
def extractNumber (payload : Bytes) (key : String) : Option Double :=
  match afterFirst (ascii "\"" ++ ascii key ++ ascii "\":") payload with
  | none => none
  | some rest =>
    let number := (rest.dropWhile fun c => c == byteOf ' ' || c == byteOf '"').takeWhile
      isNumberByte
    if number = [] then none else some (reader.strtod (number.take 63))

/-- `extractUInt` -/
def extractUInt (payload : Bytes) (key : String) : Option UInt64 :=
  (extractNumber reader payload key).map reader.toUInt64

/-- The first timestamp from which on a timestamp is taken to be in milliseconds, less one. -/
def millisecondsAbove : ℕ := 10000000000

/-- `parseExternalTick`, with the clock's reading in seconds: whether the payload is a tick, and
the node after it. -/
def parseExternalTick (payload : Bytes) (seconds : ℕ) (out : TickNode) : Bool × TickNode :=
  let c := { out.candle with
    date := ascii "LIVE"
    time := ascii "LIVE" }
  let symbol := ((extractString payload "s").orElse fun _ =>
    extractString payload "symbol").getD c.symbol
  let c := { c with symbol := if symbol = [] then ascii "UNKNOWN" else symbol }
  let close := (extractNumber reader payload "c").orElse fun _ =>
    (extractNumber reader payload "p").orElse fun _ => extractNumber reader payload "price"
  match close with
  | none => (false, { out with candle := c })
  | some close =>
    let ts := (((extractUInt reader payload "E").orElse fun _ =>
      (extractUInt reader payload "T").orElse fun _ =>
        extractUInt reader payload "ts").getD 0).toNat
    let ts := if ts = 0 then seconds else if millisecondsAbove < ts then ts / 1000 else ts
    (true, { out with candle := { c with
      epochTimestamp := ts
      opening := close
      high := close
      low := close
      close := close
      volume := (extractNumber reader payload "v").getD 0 } })

end Parser

/-- The slots of a ring, one of which stays free. -/
def ringCapacity : ℕ := 8192

/-- A `LockFreeRingBuffer` of node pointers. -/
abbrev NodeRing := BoundedQueue NodePtr (ringCapacity - 1)

/-- `(void)ring.push(node)` -/
def pushOrLeave (ring : NodeRing) (node : NodePtr) : NodeRing := (ring.push node).getD ring

/-- Every pointer into the simulation pool, in the order of the pool. -/
def tickNodes : List NodePtr := (List.finRange poolSize).map NodePtr.tick

/-- Every pointer into the network pool, in the order of the pool. -/
def networkNodes : List NodePtr := (List.finRange poolSize).map NodePtr.network

/-- `LiveDataAdapter` -/
structure LiveDataAdapter where
  nodes : NodePtr → TickNode
  queue : List NodePtr := []
  /-- `m_freeNodes`, used from the back. -/
  freeNodes : List NodePtr
  networkIngress : NodeRing := ∅
  networkFree : NodeRing
  networkRecycle : NodeRing := ∅
  droppedTicks : UInt32 := 0
  droppedNetworkTicks : UInt32 := 0
  connected : Bool := false
  shutdown : Bool := false
  /-- Whether the message callback has been handed to the network client. -/
  listening : Bool := false
  regimePollIntervalMs : ℕ := 100
  pendingRegimeBatch : List TickCandle := []
  /-- In nanoseconds of the steady clock. -/
  lastRegimeFlush : ℕ := 0

/-- What a call reports to the adapter's callbacks, and the candle that it returns. -/
inductive AdapterEvent where
  | integrity (restored : Bool)
  | candle (candle : TickCandle)
  | regimeBatch (batch : List TickCandle)
  | next (candle : Option TickCandle)
  deriving DecidableEq

namespace LiveDataAdapter

/-- The constructor. -/
def create (now : ℕ) : LiveDataAdapter where
  nodes := fun node =>
    match node with
    | .tick _ => { networkOwned := false }
    | .network _ => { networkOwned := true }
  freeNodes := tickNodes
  networkFree := networkNodes.foldl pushOrLeave ∅
  lastRegimeFlush := now

/-- Write to a node. -/
def write (adapter : LiveDataAdapter) (node : NodePtr) (f : TickNode → TickNode) :
    LiveDataAdapter :=
  { adapter with nodes := Function.update adapter.nodes node (f (adapter.nodes node)) }

/-- `connect`, with what `m_networkClient.start` and `connectWebSocket` answer. -/
def connect (config : SystemConfig) (started opened : Bool) (adapter : LiveDataAdapter) :
    LiveDataAdapter × List AdapterEvent :=
  if config.mode = .backtest then (adapter, [])
  else if config.mode = .live ∧ !config.canEnterLiveRuntime then
    ({ adapter with connected := false }, [.integrity false])
  else if adapter.connected then (adapter, [])
  else
    let adapter := { adapter with
      shutdown := false
      listening := true }
    if config.isPaperMode ∨ started ∧ opened then
      ({ adapter with connected := true }, [.integrity true])
    else ({ adapter with connected := false }, [.integrity false])

/-- The message callback that `connect` installs. -/
def onMessage (reader : NumberReader) (payload : Bytes) (seconds : ℕ)
    (adapter : LiveDataAdapter) : LiveDataAdapter :=
  if !adapter.listening then adapter
  else
    match adapter.networkFree.pop with
    | none => { adapter with droppedNetworkTicks := adapter.droppedNetworkTicks + 1 }
    | some (node, networkFree) =>
      let parsed := parseExternalTick reader payload seconds (adapter.nodes node)
      let adapter := { adapter with networkFree := networkFree }.write node fun _ => parsed.2
      if !parsed.1 then
        { adapter with networkRecycle := pushOrLeave adapter.networkRecycle node }
      else
        let adapter := adapter.write node fun out => { out with inUse := true }
        match adapter.networkIngress.push node with
        | none =>
          { adapter with
            droppedNetworkTicks := adapter.droppedNetworkTicks + 1
            networkRecycle := pushOrLeave adapter.networkRecycle node }
        | some networkIngress => { adapter with networkIngress := networkIngress }

/-- One recycled node of `pumpNetworkIngress`. -/
def release (adapter : LiveDataAdapter) (node : NodePtr) : LiveDataAdapter :=
  let adapter := adapter.write node fun out => { out with inUse := false }
  { adapter with networkFree := pushOrLeave adapter.networkFree node }

/-- `pumpNetworkIngress`, with what `m_networkClient.isWsConnected` answers. -/
def pumpNetworkIngress (wsConnected : Bool) (adapter : LiveDataAdapter) :
    LiveDataAdapter × List AdapterEvent :=
  let reconnects := !adapter.connected && wsConnected
  let adapter := { adapter with connected := adapter.connected || wsConnected }
  let adapter := adapter.networkRecycle.items.foldl release { adapter with networkRecycle := ∅ }
  ({ adapter with
    queue := adapter.queue ++ adapter.networkIngress.items
    networkIngress := ∅ }, if reconnects then [.integrity true] else [])

/-- `disconnect` -/
def disconnect (adapter : LiveDataAdapter) : LiveDataAdapter :=
  { adapter with
    shutdown := true
    connected := false
    queue := []
    nodes := fun node =>
      match node with
      | .tick index => { adapter.nodes (.tick index) with inUse := false }
      | .network index => adapter.nodes (.network index)
    freeNodes := tickNodes
    networkFree := (adapter.networkIngress.items ++ adapter.networkRecycle.items).foldl
      pushOrLeave adapter.networkFree
    networkIngress := ∅
    networkRecycle := ∅ }

/-- `pushSimulatedCandle`, with the steady clock's reading. -/
def pushSimulatedCandle (candle : TickCandle) (now : ℕ) (adapter : LiveDataAdapter) :
    LiveDataAdapter × List AdapterEvent :=
  match adapter.freeNodes.getLast? with
  | none => ({ adapter with droppedTicks := adapter.droppedTicks + 1 }, [])
  | some node =>
    let adapter := { adapter with freeNodes := adapter.freeNodes.dropLast }.write node fun out =>
      { out with
        candle := candle
        inUse := true }
    let pending := adapter.pendingRegimeBatch ++ [candle]
    let adapter := { adapter with
      queue := adapter.queue ++ [node]
      pendingRegimeBatch := pending }
    let elapsedMs := (now - adapter.lastRegimeFlush) / 1000000
    if adapter.regimePollIntervalMs ≤ elapsedMs ∨ 64 ≤ pending.length then
      ({ adapter with
        pendingRegimeBatch := []
        lastRegimeFlush := now }, [.candle candle, .regimeBatch pending])
    else (adapter, [.candle candle])

/-- The end of `getNextCandle`: the front of the queue, whose node goes back to its pool. -/
def takeFront (adapter : LiveDataAdapter) : LiveDataAdapter × Option TickCandle :=
  match adapter.queue with
  | [] => (adapter, none)
  | node :: queue =>
    let candle := (adapter.nodes node).candle
    let adapter := { adapter with queue := queue }.write node fun out =>
      { out with inUse := false }
    if (adapter.nodes node).networkOwned then
      ({ adapter with networkFree := pushOrLeave adapter.networkFree node }, some candle)
    else ({ adapter with freeNodes := adapter.freeNodes ++ [node] }, some candle)

/-- What other threads do while `getNextCandle` waits. -/
inductive Arrival where
  | message (payload : Bytes) (seconds : ℕ)
  | simulated (candle : TickCandle) (now : ℕ)

/-- One arrival. -/
def arrive (reader : NumberReader) (adapter : LiveDataAdapter) :
    Arrival → LiveDataAdapter × List AdapterEvent
  | .message payload seconds => (adapter.onMessage reader payload seconds, [])
  | .simulated candle now => adapter.pushSimulatedCandle candle now

/-- The arrivals of one wait, in order. -/
def arriveAll (reader : NumberReader) :
    LiveDataAdapter → List Arrival → LiveDataAdapter × List AdapterEvent
  | adapter, [] => (adapter, [])
  | adapter, arrival :: arrivals =>
    let arrived := adapter.arrive reader arrival
    let rest := arriveAll reader arrived.1 arrivals
    (rest.1, arrived.2 ++ rest.2)

/-- `getNextCandle`, with what arrives before it stops to wait. -/
def getNextCandle (config : SystemConfig) (reader : NumberReader) (wsConnected : Bool)
    (arrivals : List Arrival) (wsConnected' : Bool) (adapter : LiveDataAdapter) :
    LiveDataAdapter × List AdapterEvent :=
  if config.mode = .backtest then (adapter, [.next none])
  else
    let pumped := adapter.pumpNetworkIngress wsConnected
    let waited := pumped.1.arriveAll reader arrivals
    let again :=
      if waited.1.queue = [] ∧ waited.1.networkIngress.items ≠ [] then
        waited.1.pumpNetworkIngress wsConnected'
      else (waited.1, [])
    let taken := again.1.takeFront
    (taken.1, pumped.2 ++ waited.2 ++ again.2 ++ [.next taken.2])

/-- A call of the adapter, with what it reads from outside. -/
inductive AdapterCall where
  | connect (started opened : Bool)
  | message (payload : Bytes) (seconds : ℕ)
  | pumpNetworkIngress (wsConnected : Bool)
  | getNextCandle (wsConnected : Bool) (arrivals : List Arrival) (wsConnected' : Bool)
  | pushSimulatedCandle (candle : TickCandle) (now : ℕ)
  | disconnect

/-- The adapter as a machine. -/
def machine (config : SystemConfig) (reader : NumberReader) :
    Machine LiveDataAdapter AdapterCall (List AdapterEvent) where
  step adapter
    | .connect started opened => adapter.connect config started opened
    | .message payload seconds => (adapter.onMessage reader payload seconds, [])
    | .pumpNetworkIngress wsConnected => adapter.pumpNetworkIngress wsConnected
    | .getNextCandle wsConnected arrivals wsConnected' =>
      adapter.getNextCandle config reader wsConnected arrivals wsConnected'
    | .pushSimulatedCandle candle now => adapter.pushSimulatedCandle candle now
    | .disconnect => (adapter.disconnect, [])

end LiveDataAdapter

end TradeBot
