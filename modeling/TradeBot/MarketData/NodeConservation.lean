import TradeBot.Library.Custody
import TradeBot.LiveDataAdapter

/-!
# Conservation of the tick nodes

Where the nodes of the two pools are between calls. Every call moves nodes from one place to
another, except that `disconnect` forgets the network nodes that still wait in the queue.
-/

namespace TradeBot

open Library

/-- Whether a pointer points into the network pool. -/
def NodePtr.isNetwork : NodePtr → Bool
  | .tick _ => false
  | .network _ => true

namespace LiveDataAdapter

section Rings

/-- A ring with room takes the node at its end. -/
theorem items_pushOrLeave {ring : NodeRing} (h : ring.items.length < ringCapacity - 1)
    (node : NodePtr) : (pushOrLeave ring node).items = ring.items ++ [node] := by
  obtain ⟨ring', hpush, hitems⟩ := BoundedQueue.push_of_lt h node
  rw [pushOrLeave, hpush]
  exact hitems

/-- A ring with room for all of them takes the nodes in order. -/
theorem items_foldl_pushOrLeave {ring : NodeRing} {nodes : List NodePtr}
    (h : ring.items.length + nodes.length ≤ ringCapacity - 1) :
    (nodes.foldl pushOrLeave ring).items = ring.items ++ nodes := by
  induction nodes generalizing ring with
  | nil => exact (List.append_nil _).symm
  | cons node nodes ih =>
    rw [List.length_cons] at h
    have hitems : (pushOrLeave ring node).items = ring.items ++ [node] :=
      items_pushOrLeave (by omega) node
    rw [List.foldl_cons, ih, hitems, List.append_assoc, List.singleton_append]
    rw [hitems, List.length_append, List.length_singleton]
    omega

end Rings

section Stock

/-- The network pool has as many nodes as the source allots to it. -/
theorem length_networkNodes : networkNodes.length = poolSize := by
  rw [networkNodes, List.length_map, List.length_finRange]

/-- No node of the network pool is listed twice. -/
theorem nodup_networkNodes : networkNodes.Nodup :=
  (List.nodup_finRange _).map fun _ _ h => NodePtr.network.inj h

/-- No node of the tick pool is listed twice. -/
theorem nodup_tickNodes : tickNodes.Nodup :=
  (List.nodup_finRange _).map fun _ _ h => NodePtr.tick.inj h

/-- Every index of the network pool names one of its nodes. -/
theorem mem_networkNodes (i : Fin poolSize) : .network i ∈ networkNodes :=
  List.mem_map_of_mem (List.mem_finRange i)

/-- Every index of the tick pool names one of its nodes. -/
theorem mem_tickNodes (i : Fin poolSize) : .tick i ∈ tickNodes :=
  List.mem_map_of_mem (List.mem_finRange i)

/-- Each ring is large enough for the whole network pool, so that no push of a node fails. -/
theorem networkNodes_fit : poolSize < ringCapacity - 1 := by decide

end Stock

section Invariant

/-- The network nodes are in the rings and the queue, the simulation nodes in the free list and
the queue, and every node knows its owner. -/
structure Held (nodes : NodePtr → TickNode)
    (networkFree networkIngress networkRecycle freeNodes queue : List NodePtr) : Prop where
  network : Custody networkNodes
    [networkFree, networkIngress, networkRecycle, queue.filter (·.isNetwork)]
  simulated : Custody tickNodes [freeNodes, queue.filter (!·.isNetwork)]
  owner : ∀ node, (nodes node).networkOwned = node.isNetwork

/-- `Held` of an adapter's places. -/
def Owned (adapter : LiveDataAdapter) : Prop :=
  Held adapter.nodes adapter.networkFree.items adapter.networkIngress.items
    adapter.networkRecycle.items adapter.freeNodes adapter.queue

/-- Every node is in exactly one of the places that can hold it. -/
structure Conserved (adapter : LiveDataAdapter) : Prop where
  network : ∀ i, adapter.networkFree.items.count (.network i) +
    adapter.networkIngress.items.count (.network i) +
    adapter.networkRecycle.items.count (.network i) + adapter.queue.count (.network i) = 1
  simulated : ∀ i, adapter.freeNodes.count (.tick i) + adapter.queue.count (.tick i) = 1

/-- A call that forgets a network node. -/
def Leaks (adapter : LiveDataAdapter) : AdapterCall → Prop
  | .disconnect => ∃ node ∈ adapter.queue, node.isNetwork = true
  | _ => False

/-- Nodes that the places share out among them are in exactly one place each. -/
theorem Owned.conserved {adapter : LiveDataAdapter} (h : Owned adapter) : Conserved adapter := by
  constructor
  · intro i
    have hcount := h.network.count_eq nodup_networkNodes (mem_networkNodes i)
    have hqueue : (adapter.queue.filter (·.isNetwork)).count (.network i) =
        adapter.queue.count (.network i) := List.count_filter rfl
    simp only [List.flatten_cons, List.flatten_nil, List.append_nil, List.count_append,
      hqueue] at hcount
    omega
  · intro i
    have hcount := h.simulated.count_eq nodup_tickNodes (mem_tickNodes i)
    have hqueue : (adapter.queue.filter (!·.isNetwork)).count (.tick i) =
        adapter.queue.count (.tick i) := List.count_filter rfl
    simpa only [List.flatten_cons, List.flatten_nil, List.append_nil, List.count_append,
      hqueue] using hcount

/-- With nothing under way, every network node is free. -/
def Available (adapter : LiveDataAdapter) : Prop :=
  adapter.queue = [] → adapter.networkIngress.items = [] → adapter.networkRecycle.items = [] →
    ∀ i, .network i ∈ adapter.networkFree.items

/-- When nothing is under way, conserved network nodes are all free. -/
theorem Conserved.available {adapter : LiveDataAdapter} (h : Conserved adapter) :
    Available adapter := by
  intro hqueue hingress hrecycle i
  have hcount := h.network i
  rw [hqueue, hingress, hrecycle, List.count_nil] at hcount
  exact List.count_pos_iff.mp (by omega)

end Invariant

section Calls

variable {adapter : LiveDataAdapter}

/-- No ring ever fills up. -/
theorem Owned.fits (h : Owned adapter) :
    adapter.networkFree.items.length + adapter.networkIngress.items.length +
      adapter.networkRecycle.items.length + (adapter.queue.filter (·.isNetwork)).length <
      ringCapacity - 1 := by
  have hlength := List.Perm.length_eq h.network
  simp only [List.flatten_cons, List.flatten_nil, List.append_nil, List.length_append,
    length_networkNodes] at hlength
  have := networkNodes_fit
  omega

/-- The places hold the nodes as before when every node keeps its owner, whatever else is written to
it. -/
theorem Held.owned_by {nodes nodes' : NodePtr → TickNode}
    {networkFree networkIngress networkRecycle freeNodes queue : List NodePtr}
    (h : Held nodes networkFree networkIngress networkRecycle freeNodes queue)
    (howner : ∀ node, (nodes' node).networkOwned = (nodes node).networkOwned) :
    Held nodes' networkFree networkIngress networkRecycle freeNodes queue :=
  ⟨h.network, h.simulated, fun node => (howner node).trans (h.owner node)⟩

/-- Writing a tick to a node that keeps its ownership flag changes the flag of no node. -/
theorem networkOwned_update {nodes : NodePtr → TickNode} {node : NodePtr} {written : TickNode}
    (hwritten : written.networkOwned = (nodes node).networkOwned) (other : NodePtr) :
    (Function.update nodes node written other).networkOwned = (nodes other).networkOwned := by
  by_cases hother : other = node
  · rw [hother, Function.update_self, hwritten]
  · rw [Function.update_of_ne hother]

/-- The nodes of the network pool are told by their constructor. -/
theorem isNetwork_of_mem {node : NodePtr} (h : node ∈ networkNodes) : node.isNetwork = true := by
  obtain ⟨i, -, rfl⟩ := List.mem_map.mp h
  rfl

/-- The nodes of the tick pool are none of the network pool. -/
theorem not_isNetwork_of_mem {node : NodePtr} (h : node ∈ tickNodes) :
    node.isNetwork = false := by
  obtain ⟨i, -, rfl⟩ := List.mem_map.mp h
  rfl

/-- A move that holds every node as often as before. -/
theorem Held.move {nodes : NodePtr → TickNode}
    {networkFree networkIngress networkRecycle freeNodes queue networkFree' networkIngress'
      networkRecycle' freeNodes' queue' : List NodePtr}
    (h : Held nodes networkFree networkIngress networkRecycle freeNodes queue)
    (hnetwork : ∀ node, networkFree'.count node + networkIngress'.count node +
        networkRecycle'.count node + (queue'.filter (·.isNetwork)).count node =
      networkFree.count node + networkIngress.count node + networkRecycle.count node +
        (queue.filter (·.isNetwork)).count node)
    (hsimulated : ∀ node, freeNodes'.count node + (queue'.filter (!·.isNetwork)).count node =
      freeNodes.count node + (queue.filter (!·.isNetwork)).count node) :
    Held nodes networkFree' networkIngress' networkRecycle' freeNodes' queue' := by
  refine ⟨h.network.move fun node => ?_, h.simulated.move fun node => ?_, h.owner⟩
  · have := hnetwork node
    simp only [List.flatten_cons, List.flatten_nil, List.append_nil, List.count_append]
    omega
  · have := hsimulated node
    simp only [List.flatten_cons, List.flatten_nil, List.append_nil, List.count_append]
    omega

/-- Parsing a payload into a node leaves its ownership flag, whether or not the parse succeeds. -/
theorem networkOwned_parseExternalTick (reader : NumberReader) (payload : Bytes) (seconds : ℕ)
    (out : TickNode) :
    (parseExternalTick reader payload seconds out).2.networkOwned = out.networkOwned := by
  unfold parseExternalTick
  dsimp only
  split
  · rfl
  · rfl

/-- Pushing the whole pool to an empty ring leaves the pool in order. -/
theorem items_filled : (networkNodes.foldl pushOrLeave ∅).items = networkNodes := by
  rw [items_foldl_pushOrLeave, BoundedQueue.items_empty, List.nil_append]
  rw [BoundedQueue.items_empty, length_networkNodes, List.length_nil, Nat.zero_add]
  exact networkNodes_fit.le

/-- A new adapter has the whole network pool in its free ring. -/
theorem items_create (now : ℕ) : (create now).networkFree.items = networkNodes := by
  unfold create
  dsimp only
  rw [items_filled]

/-- In a new adapter every node is free. -/
theorem owned_create (now : ℕ) : Owned (create now) := by
  unfold Owned create
  dsimp only
  rw [items_filled]
  constructor
  · exact Custody.of_first _ _ (by simp)
  · exact Custody.of_first _ _ (by simp)
  · intro node
    cases node with
    | tick i => rfl
    | network i => rfl

/-- Connecting moves no node. -/
theorem Owned.connect (h : Owned adapter) (config : SystemConfig) (started opened : Bool) :
    Owned (adapter.connect config started opened).1 := by
  unfold LiveDataAdapter.connect
  split
  · exact h
  split
  · exact h
  split
  · exact h
  dsimp only
  split
  · exact h
  · exact h

/-- A message moves at most one node between the rings. -/
theorem Owned.onMessage (h : Owned adapter) (reader : NumberReader) (payload : Bytes)
    (seconds : ℕ) : Owned (adapter.onMessage reader payload seconds) := by
  unfold LiveDataAdapter.onMessage
  split
  · exact h
  have hfits := h.fits
  cases hpop : adapter.networkFree.pop with
  | none => exact h
  | some popped =>
    obtain ⟨node, networkFree⟩ := popped
    have hitems := BoundedQueue.items_of_pop hpop
    rw [← List.singleton_append] at hitems
    have hwritten := networkOwned_parseExternalTick reader payload seconds (adapter.nodes node)
    -- the node leaves the free ring for the place that the parser's answer decides
    have hmoved : ∀ {networkIngress networkRecycle : List NodePtr},
        (∀ other, networkIngress.count other + networkRecycle.count other =
          adapter.networkIngress.items.count other + adapter.networkRecycle.items.count other +
            [node].count other) →
        Held (Function.update adapter.nodes node
          (parseExternalTick reader payload seconds (adapter.nodes node)).2) networkFree.items
          networkIngress networkRecycle adapter.freeNodes adapter.queue := by
      intro networkIngress networkRecycle hcount
      have howned := Held.owned_by h (networkOwned_update hwritten)
      refine howned.move (fun other => ?_) (fun other => rfl)
      have := hcount other
      rw [hitems, List.count_append]
      omega
    dsimp only
    split
    · have hrecycle : (pushOrLeave adapter.networkRecycle node).items =
          adapter.networkRecycle.items ++ [node] := items_pushOrLeave (by omega) node
      unfold Owned
      dsimp only [LiveDataAdapter.write]
      rw [hrecycle]
      apply hmoved
      intro other
      rw [List.count_append]
      omega
    · have hroom : adapter.networkIngress.items.length < ringCapacity - 1 := by omega
      obtain ⟨networkIngress, hpush, hingress⟩ := BoundedQueue.push_of_lt hroom node
      dsimp only [LiveDataAdapter.write]
      rw [hpush]
      have hheld := @hmoved networkIngress.items adapter.networkRecycle.items (by
        intro other
        rw [hingress, List.count_append]
        omega)
      exact hheld.owned_by (networkOwned_update rfl)

/-- The recycled nodes go to the free ring; nothing else moves. -/
theorem foldl_release {nodes : List NodePtr}
    (h : adapter.networkFree.items.length + nodes.length ≤ ringCapacity - 1) :
    let released := nodes.foldl release adapter
    released.networkFree.items = adapter.networkFree.items ++ nodes ∧
      released.networkIngress = adapter.networkIngress ∧
      released.networkRecycle = adapter.networkRecycle ∧
      released.freeNodes = adapter.freeNodes ∧ released.queue = adapter.queue ∧
      ∀ node, (released.nodes node).networkOwned = (adapter.nodes node).networkOwned := by
  induction nodes generalizing adapter with
  | nil => exact ⟨(List.append_nil _).symm, rfl, rfl, rfl, rfl, fun _ => rfl⟩
  | cons node nodes ih =>
    rw [List.length_cons] at h
    have hitems : (adapter.release node).networkFree.items =
        adapter.networkFree.items ++ [node] :=
      @items_pushOrLeave adapter.networkFree (by omega) node
    have hfits : (adapter.release node).networkFree.items.length + nodes.length ≤
        ringCapacity - 1 := by
      rw [hitems, List.length_append, List.length_singleton]
      omega
    obtain ⟨hfree, hingress, hrecycle, hnodes, hqueue, howner⟩ := ih hfits
    refine ⟨?_, hingress, hrecycle, hnodes, hqueue, fun other => ?_⟩
    · rw [List.foldl_cons, hfree, hitems, List.append_assoc, List.singleton_append]
    · rw [List.foldl_cons, howner]
      apply networkOwned_update
      rfl

/-- Pumping moves the nodes of the ingress ring to the queue of candles. -/
theorem Owned.pumpNetworkIngress (h : Owned adapter) (wsConnected : Bool) :
    Owned (adapter.pumpNetworkIngress wsConnected).1 := by
  have hfits := h.fits
  have hwaiting : ∀ node ∈ adapter.networkIngress.items, node.isNetwork = true := fun node hmem =>
    isNetwork_of_mem (h.network.mem (List.mem_cons_of_mem _ List.mem_cons_self) hmem)
  unfold LiveDataAdapter.pumpNetworkIngress
  dsimp only
  obtain ⟨hfree, hingress, hrecycle, hnodes, hqueue, howner⟩ :=
    @foldl_release { adapter with
      connected := adapter.connected || wsConnected
      networkRecycle := ∅ } adapter.networkRecycle.items (by dsimp only; omega)
  generalize List.foldl release _ _ = released at *
  unfold Owned
  dsimp only at *
  rw [hfree, hingress, hrecycle, hnodes, hqueue]
  refine Held.move (Held.owned_by h howner) (fun node => ?_) (fun node => ?_)
  · rw [List.filter_append, List.filter_eq_self.mpr hwaiting]
    simp only [List.count_append, BoundedQueue.items_empty, List.count_nil]
    omega
  · have hnone : adapter.networkIngress.items.filter (!·.isNetwork) = [] := by
      apply List.filter_eq_nil_iff.mpr
      intro node hmem
      simp [hwaiting node hmem]
    rw [List.filter_append, hnone, List.append_nil]

/-- A simulated candle takes a node of the tick pool to the queue. -/
theorem Owned.pushSimulatedCandle (h : Owned adapter) (candle : TickCandle) (now : ℕ) :
    Owned (adapter.pushSimulatedCandle candle now).1 := by
  unfold LiveDataAdapter.pushSimulatedCandle
  cases hlast : adapter.freeNodes.getLast? with
  | none => exact h
  | some node =>
    have hnodes : adapter.freeNodes.dropLast ++ [node] = adapter.freeNodes :=
      List.dropLast_append_getLast? node hlast
    have hnode : node.isNetwork = false := not_isNetwork_of_mem
      (h.simulated.mem List.mem_cons_self (List.mem_of_getLast? hlast))
    have hheld : Held (Function.update adapter.nodes node { adapter.nodes node with
        candle := candle
        inUse := true }) adapter.networkFree.items adapter.networkIngress.items
        adapter.networkRecycle.items adapter.freeNodes.dropLast (adapter.queue ++ [node]) := by
      have howned := @networkOwned_update adapter.nodes node { adapter.nodes node with
        candle := candle
        inUse := true } rfl
      refine (Held.owned_by h howned).move (fun other => ?_) (fun other => ?_)
      · rw [List.filter_append, List.filter_cons_of_neg (by simp [hnode]), List.filter_nil,
          List.append_nil]
      · rw [List.filter_append, List.filter_cons_of_pos (by simp [hnode]), List.filter_nil,
          List.count_append, ← hnodes, List.count_append, hnodes]
        omega
    dsimp only
    split
    · exact hheld
    · exact hheld

/-- The occurrences of a node in a list are those at its head and those behind it. -/
theorem count_cons_eq (node other : NodePtr) (nodes : List NodePtr) :
    (node :: nodes).count other = [node].count other + nodes.count other := by
  rw [← List.singleton_append, List.count_append]

/-- Taking the front of the queue returns its node to the pool that it came from. -/
theorem Owned.takeFront (h : Owned adapter) : Owned adapter.takeFront.1 := by
  have hfits := h.fits
  unfold LiveDataAdapter.takeFront
  cases hqueue : adapter.queue with
  | nil => exact h
  | cons node queue =>
    have howned := @networkOwned_update adapter.nodes node { adapter.nodes node with
      inUse := false } rfl
    have howner := (howned node).trans (h.owner node)
    have hheld : Held (Function.update adapter.nodes node { adapter.nodes node with
        inUse := false }) adapter.networkFree.items adapter.networkIngress.items
        adapter.networkRecycle.items adapter.freeNodes (node :: queue) := by
      rw [← hqueue]
      exact Held.owned_by h howned
    dsimp only [LiveDataAdapter.write]
    rw [howner]
    cases hnode : node.isNetwork with
    | true =>
      rw [hqueue, List.filter_cons_of_pos hnode, List.length_cons] at hfits
      have hfree : (pushOrLeave adapter.networkFree node).items =
          adapter.networkFree.items ++ [node] := items_pushOrLeave (by omega) node
      rw [if_pos rfl]
      unfold Owned
      dsimp only
      rw [hfree]
      refine hheld.move (fun other => ?_) (fun other => ?_)
      · have hcons := count_cons_eq node other (queue.filter (·.isNetwork))
        rw [List.filter_cons_of_pos hnode, List.count_append, hcons]
        omega
      · rw [List.filter_cons_of_neg (by simp [hnode])]
    | false =>
      rw [if_neg Bool.false_ne_true]
      unfold Owned
      dsimp only
      refine hheld.move (fun other => ?_) (fun other => ?_)
      · rw [List.filter_cons_of_neg (by simp [hnode])]
      · have hcons := count_cons_eq node other (queue.filter (!·.isNetwork))
        rw [List.filter_cons_of_pos (by simp [hnode]), List.count_append, hcons]
        omega

/-- Messages that arrive one after the other leave every node in some place. -/
theorem Owned.arriveAll (h : Owned adapter) (reader : NumberReader) (arrivals : List Arrival) :
    Owned (adapter.arriveAll reader arrivals).1 := by
  induction arrivals generalizing adapter with
  | nil => exact h
  | cons arrival arrivals ih =>
    apply ih
    cases arrival with
    | message payload seconds => exact h.onMessage reader payload seconds
    | simulated candle now => exact h.pushSimulatedCandle candle now

/-- A request for the next candle, with the messages that arrive during it, loses no node. -/
theorem Owned.getNextCandle (h : Owned adapter) (config : SystemConfig) (reader : NumberReader)
    (wsConnected : Bool) (arrivals : List Arrival) (wsConnected' : Bool) :
    Owned (adapter.getNextCandle config reader wsConnected arrivals wsConnected').1 := by
  have hwaited := (h.pumpNetworkIngress wsConnected).arriveAll reader arrivals
  unfold LiveDataAdapter.getNextCandle
  split
  · exact h
  dsimp only
  apply Owned.takeFront
  split
  · exact hwaited.pumpNetworkIngress wsConnected'
  · exact hwaited

/-- Disconnecting drains the ingress and the recycle ring into the free ring. -/
theorem items_disconnect (h : Owned adapter) : adapter.disconnect.networkFree.items =
    adapter.networkFree.items ++ (adapter.networkIngress.items ++
      adapter.networkRecycle.items) := by
  have hfits := h.fits
  apply items_foldl_pushOrLeave
  rw [List.length_append]
  omega

/-- Disconnecting keeps every node in its place, unless it forgets network nodes of the queue. -/
theorem Owned.disconnect (h : Owned adapter) (hleaks : ¬Leaks adapter .disconnect) :
    Owned adapter.disconnect := by
  have hnone : adapter.queue.filter (·.isNetwork) = [] := by
    apply List.filter_eq_nil_iff.mpr
    exact fun node hmem hnode => hleaks ⟨node, hmem, hnode⟩
  unfold Owned
  rw [items_disconnect h]
  dsimp only [LiveDataAdapter.disconnect]
  constructor
  · refine h.network.move fun node => ?_
    rw [hnone]
    simp only [BoundedQueue.items_empty, List.filter_nil, List.flatten_cons, List.flatten_nil,
      List.append_nil, List.count_append]
  · exact Custody.of_first _ _ (by simp)
  · intro node
    cases node with
    | tick i => exact h.owner (.tick i)
    | network i => exact h.owner (.network i)

/-- A forgotten node stays away, though nothing is under way. -/
theorem not_available_disconnect (h : Owned adapter) (hleaks : Leaks adapter .disconnect) :
    ¬Available adapter.disconnect := by
  obtain ⟨node, hmem, hnode⟩ := hleaks
  cases node with
  | tick i => cases hnode
  | network i =>
    intro havailable
    have hfree := havailable rfl rfl rfl i
    rw [items_disconnect h, ← List.count_pos_iff, List.count_append, List.count_append] at hfree
    have hqueue : 0 < adapter.queue.count (.network i) := List.count_pos_iff.mpr hmem
    have hcount := h.conserved.network i
    omega

/-- Every call that does not leak leaves every node in some place. -/
theorem Owned.next (h : Owned adapter) (config : SystemConfig) (reader : NumberReader)
    (call : AdapterCall) (hleaks : ¬Leaks adapter call) :
    Owned ((machine config reader).next adapter call) := by
  cases call with
  | connect started opened => exact h.connect config started opened
  | message payload seconds => exact h.onMessage reader payload seconds
  | pumpNetworkIngress wsConnected => exact h.pumpNetworkIngress wsConnected
  | getNextCandle wsConnected arrivals wsConnected' =>
    exact h.getNextCandle config reader wsConnected arrivals wsConnected'
  | pushSimulatedCandle candle now => exact h.pushSimulatedCandle candle now
  | disconnect => exact h.disconnect hleaks

end Calls

section Conservation

variable (config : SystemConfig) (reader : NumberReader)

/-- Between the calls of a run every node is in exactly one place, and all network nodes are
free when nothing is under way, exactly when no `disconnect` forgets a node. -/
theorem nodes_conserved (now : ℕ) (calls : List AdapterCall) :
    (∀ before after, calls = before ++ after →
        let adapter := (machine config reader).run (create now) before
        Conserved adapter ∧ Available adapter) ↔
      (machine config reader).Along (fun adapter call => ¬Leaks adapter call) (create now)
        calls := by
  refine Machine.forall_prefix_iff_along (I := Owned)
    (Q := fun adapter => Conserved adapter ∧ Available adapter) ?hQ ?hstep ?hbreak ?hs calls
  case hQ =>
    intro adapter howned
    exact ⟨howned.conserved, howned.conserved.available⟩
  case hstep =>
    intro adapter call howned hleaks
    exact howned.next config reader call hleaks
  case hbreak =>
    rintro adapter call howned hleaks ⟨-, havailable⟩
    rw [not_not] at hleaks
    cases call with
    | disconnect => exact not_available_disconnect howned hleaks havailable
    | _ => exact hleaks
  case hs => exact owned_create now

/-- Whether a payload is a tick does not depend on the node. -/
theorem accepted_parseExternalTick (payload : Bytes) (seconds : ℕ) (out out' : TickNode) :
    (parseExternalTick reader payload seconds out).1 =
      (parseExternalTick reader payload seconds out').1 := by
  unfold parseExternalTick
  dsimp only
  split
  · rfl
  · rfl

variable {reader} in

/-- While the adapter listens, an accepted payload puts the popped node into the ingress ring. -/
theorem mem_ingress_onMessage {adapter : LiveDataAdapter} (h : Owned adapter)
    (hlistening : adapter.listening = true) {node : NodePtr} {networkFree : NodeRing}
    (hpop : adapter.networkFree.pop = some (node, networkFree)) {payload : Bytes} {seconds : ℕ}
    (haccepted : (parseExternalTick reader payload seconds {}).1 = true) :
    node ∈ (adapter.onMessage reader payload seconds).networkIngress.items := by
  have hfits := h.fits
  have hroom : adapter.networkIngress.items.length < ringCapacity - 1 := by omega
  obtain ⟨networkIngress, hpush, hingress⟩ := BoundedQueue.push_of_lt hroom node
  rw [accepted_parseExternalTick reader payload seconds {} (adapter.nodes node)] at haccepted
  unfold onMessage
  rw [hlistening, Bool.not_true, if_neg Bool.false_ne_true, hpop]
  dsimp only [write]
  rw [haccepted, Bool.not_true, if_neg Bool.false_ne_true, hpush]
  dsimp only
  rw [hingress]
  exact List.mem_append_right _ (List.mem_singleton_self node)

/-- Pumping appends what has arrived to the queue, in the order of arrival. -/
theorem queue_pumpNetworkIngress {adapter : LiveDataAdapter} (h : Owned adapter)
    (wsConnected : Bool) : (adapter.pumpNetworkIngress wsConnected).1.queue =
      adapter.queue ++ adapter.networkIngress.items := by
  have hfits := h.fits
  obtain ⟨-, hingress, -, -, hqueue, -⟩ :=
    @foldl_release { adapter with
      connected := adapter.connected || wsConnected
      networkRecycle := ∅ } adapter.networkRecycle.items (by dsimp only; omega)
  unfold pumpNetworkIngress
  dsimp only
  rw [hqueue, hingress]

section Runs

variable (adapter : LiveDataAdapter)

/-- What a call to connect makes of the adapter. -/
theorem next_connect (started opened : Bool) : (machine config reader).next adapter
    (.connect started opened) = (adapter.connect config started opened).1 := rfl

/-- What a message makes of the adapter. -/
theorem next_message (payload : Bytes) (seconds : ℕ) : (machine config reader).next adapter
    (.message payload seconds) = adapter.onMessage reader payload seconds := rfl

/-- What a call to pump makes of the adapter. -/
theorem next_pumpNetworkIngress (wsConnected : Bool) : (machine config reader).next adapter
    (.pumpNetworkIngress wsConnected) = (adapter.pumpNetworkIngress wsConnected).1 := rfl

/-- What a call to disconnect makes of the adapter. -/
theorem next_disconnect : (machine config reader).next adapter .disconnect =
    adapter.disconnect := rfl

end Runs

/-- A tick from the network waits in the queue when the adapter disconnects. -/
theorem disconnect_forgets_node :
    let reader : NumberReader := ⟨fun _ => .finite 1, fun _ => 0⟩
    ¬Available ((machine { mode := .paper } reader).run (create 0)
      [.connect false false, .message (ascii "\"c\":1") 0, .pumpNetworkIngress false,
        .disconnect]) := by
  intro reader
  have howned := owned_create 0
  have hitems := items_create 0
  have hclosed : (create 0).connected = false := rfl
  generalize create 0 = adapter at *
  have hconnected : (adapter.connect { mode := .paper } false false).1 = { adapter with
      shutdown := false
      listening := true
      connected := true } := by
    simp [LiveDataAdapter.connect, hclosed, SystemConfig.isPaperMode]
  have hopen := howned.connect { mode := .paper } false false
  rw [hconnected] at hopen
  cases hpop : adapter.networkFree.pop with
  | none =>
    rw [BoundedQueue.items_of_pop_eq_none hpop] at hitems
    cases hitems ▸ mem_networkNodes ⟨0, by decide⟩
  | some popped =>
    obtain ⟨node, networkFree⟩ := popped
    have hmem := mem_ingress_onMessage hopen rfl hpop
      (by decide : (parseExternalTick reader (ascii "\"c\":1") 0 {}).1 = true)
    have hreceived := hopen.onMessage reader (ascii "\"c\":1") 0
    have hnode := isNetwork_of_mem
      (hreceived.network.mem (List.mem_cons_of_mem _ List.mem_cons_self) hmem)
    have hleaks : Leaks _ .disconnect := ⟨node, by
      rw [queue_pumpNetworkIngress hreceived false]
      exact List.mem_append_right _ hmem, hnode⟩
    have := not_available_disconnect (hreceived.pumpNetworkIngress false) hleaks
    rw [← hconnected] at this
    rw [Machine.run_cons, Machine.run_cons, Machine.run_cons, Machine.run_cons, Machine.run_nil,
      next_connect, next_message, next_pumpNetworkIngress, next_disconnect]
    exact this

end Conservation

end LiveDataAdapter

end TradeBot
