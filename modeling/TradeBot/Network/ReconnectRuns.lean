import TradeBot.Network.Reconnection

/-!
# The link keeps to its protocol

Every run of the link over a steady clock is one that its protocol allows. What the members of
the link say about the past is what an observer has seen of it.
-/

namespace TradeBot

open Library

namespace AsyncNetworkClient

/-- What an observer knows, and what the members say. -/
structure Tracks (bound : ℕ) (link : Link) (phase : LinkPhase) : Prop where
  up : phase.up = link.wsConnected
  due : phase.dueNs = if link.nextReconnectNs = 0 then none else some link.nextReconnectNs
  idle : link.wsConnected = true → link.nextReconnectNs = 0
  heard : phase.heardNs = max link.lastWsPongNs link.lastWsRecvNs
  heard_pos : link.wsConnected = true → 0 < phase.heardNs
  heard_le : phase.heardNs ≤ bound
  pinged : phase.pingedNs = if link.lastWsPingNs = 0 then none else some link.lastWsPingNs
  pinged_le : link.lastWsPingNs ≤ bound
  interval : phase.pingIntervalMs = link.policy.heartbeatPingIntervalMs
  backoff_lt : link.policy.reconnectMaxBackoffMs < 2 ^ 32

/-- The events of a call are allowed, and lead to what the members say after it. -/
def Keeps (bound : ℕ) (result : Link × List LinkEvent) (phase : LinkPhase) : Prop :=
  ∃ next, linkProtocol.follow phase result.2 = some next ∧ Tracks bound result.1 next

section Steps

variable {bound nowNs : ℕ} {link : Link} {phase : LinkPhase} {input : LinkInput}

/-- A client that is tracked up to a time is tracked up to a later one. -/
theorem Tracks.mono {bound' : ℕ} (h : Tracks bound link phase) (hle : bound ≤ bound') :
    Tracks bound' link phase :=
  { h with
    heard_le := h.heard_le.trans hle
    pinged_le := h.pinged_le.trans hle }

/-- A client without a new event keeps to its phase. -/
theorem Tracks.keeps (h : Tracks bound link phase) : Keeps bound (link, []) phase :=
  ⟨phase, rfl, h⟩

/-- What keeps to a phase up to a time does so up to a later one. -/
theorem Keeps.mono {bound' : ℕ} {result : Link × List LinkEvent} (h : Keeps bound result phase)
    (hle : bound ≤ bound') : Keeps bound' result phase := by
  obtain ⟨next, hfollow, htracks⟩ := h
  exact ⟨next, hfollow, htracks.mono hle⟩

/-- What comes after a call continues from the phase that the call leads to. -/
theorem Keeps.append {events : List LinkEvent} {next : LinkPhase}
    (hfirst : linkProtocol.follow phase events = some next) {result : Link × List LinkEvent}
    (h : Keeps bound result next) : Keeps bound (result.1, events ++ result.2) phase := by
  obtain ⟨final, hfollow, htracks⟩ := h
  refine ⟨final, ?_, htracks⟩
  rw [Protocol.follow_append, hfirst]
  exact hfollow

/-- A client and its phase lose the connection together. -/
theorem Tracks.down (h : Tracks bound link phase) :
    Tracks bound { link with wsConnected := false } { phase with up := false } :=
  { h with
    up := rfl
    idle := fun hconnected => by cases hconnected
    heard_pos := fun hconnected => by cases hconnected }

/-- A connection that is closed leaves the link down. -/
theorem Tracks.closed (h : Tracks bound link phase) :
    ∃ next, linkProtocol.follow phase link.closeWsConnection.2 = some next ∧
      Tracks bound { link with wsConnected := false } next := by
  unfold Link.closeWsConnection
  cases hup : link.wsConnected with
  | false =>
    refine ⟨phase, rfl, ?_⟩
    rwa [← hup]
  | true =>
    refine ⟨{ phase with up := false }, ?_, ?_⟩
    · simp [Protocol.follow, linkProtocol, h.up, hup]
    · exact h.down

/-- An established connection follows the protocol: it is up, no attempt is due any more, and the
peer was heard just now. -/
theorem Tracks.established (h : Tracks bound link phase) (hpos : 0 < nowNs) :
    Keeps nowNs (link.established nowNs) phase := by
  refine ⟨{ phase with
    up := true
    dueNs := none
    heardNs := nowNs
    pingedNs := none }, rfl, ?_⟩
  exact { h with
    up := rfl
    due := rfl
    idle := fun _ => rfl
    heard := (Nat.max_self nowNs).symm
    heard_pos := fun _ => hpos
    heard_le := Nat.le_refl nowNs
    pinged := rfl
    pinged_le := Nat.zero_le nowNs }

/-- A connection that is tried follows the protocol, whether or not it opens. -/
theorem Tracks.connect (h : Tracks bound link phase) (parsed : ParsedUrl) (upgraded : Bool)
    (hpos : 0 < nowNs) (hle : bound ≤ nowNs) :
    Keeps nowNs (link.connect parsed upgraded nowNs) phase := by
  obtain ⟨next, hclosed, htracks⟩ := h.closed
  unfold Link.connect
  dsimp only
  split
  · exact (htracks.established hpos).append hclosed
  · exact ⟨next, hclosed, htracks.mono hle⟩

/-- A new attempt is scheduled while the link is down and none is due. -/
theorem Tracks.scheduleReconnect (h : Tracks bound link phase) (hdown : link.wsConnected = false)
    (hnone : link.nextReconnectNs = 0) (hpos : 0 < nowNs) (hlt : nowNs < 2 ^ 63) :
    Keeps bound (link.scheduleReconnect nowNs) phase := by
  unfold Link.scheduleReconnect
  split
  · exact h.keeps
  split
  · exact h.keeps
  split
  · exact h.keeps
  generalize hbackoff : min link.reconnectCurrentBackoffMs link.policy.reconnectMaxBackoffMs =
    backoffMs
  have hle : backoffMs < 2 ^ 32 := by
    have hmax := h.backoff_lt
    omega
  have hsmall : (nowNs + backoffMs * nsPerMs) % 2 ^ 64 = nowNs + backoffMs * nsPerMs := by
    unfold nsPerMs
    omega
  refine ⟨{ phase with dueNs := some (nowNs + backoffMs * nsPerMs) }, ?_, ?_⟩
  · have hdue : phase.dueNs = none := by rw [h.due, if_pos hnone]
    simp [Protocol.follow, linkProtocol, h.up, hdown, hdue]
  · exact { h with
      due := by
        change some _ = if (nowNs + backoffMs * nsPerMs) % 2 ^ 64 = 0 then none
          else some ((nowNs + backoffMs * nsPerMs) % 2 ^ 64)
        rw [hsmall, if_neg (by omega)]
      idle := fun hconnected => by rw [hdown] at hconnected; cases hconnected }

/-- A failed attempt follows the protocol: the next one is scheduled, or the client gives up. -/
theorem Tracks.failed (h : Tracks bound link phase) (hdown : link.wsConnected = false)
    (hnone : link.nextReconnectNs = 0) (hpos : 0 < nowNs) (hlt : nowNs < 2 ^ 63) :
    Keeps bound (link.failed nowNs) phase := by
  have hcounted : Tracks bound
      { link with wsReconnectAttempts := link.wsReconnectAttempts + 1 } phase := { h with }
  exact hcounted.scheduleReconnect hdown hnone hpos hlt

/-- A connection that is lost is reported once. -/
theorem Tracks.handleDisconnect (h : Tracks bound link phase) (hpos : 0 < nowNs)
    (hlt : nowNs < 2 ^ 63) : Keeps bound (link.handleDisconnect nowNs) phase := by
  unfold Link.handleDisconnect
  cases hup : link.wsConnected with
  | false => exact h.keeps
  | true =>
    have hfirst : linkProtocol.follow phase [.disconnected] = some { phase with up := false } := by
      simp [Protocol.follow, linkProtocol, h.up, hup]
    exact (h.down.failed rfl (h.idle hup) hpos hlt).append hfirst

/-- Without a connection, an attempt is made once it is due. -/
theorem Tracks.attemptIfDue (h : Tracks bound link phase) (hdown : link.wsConnected = false)
    (hpos : 0 < input.nowNs) (hle : bound ≤ input.laterNs) (hlater : input.nowNs ≤ input.laterNs)
    (hlt : input.laterNs < 2 ^ 63) : Keeps input.laterNs (link.attemptIfDue input) phase := by
  unfold Link.attemptIfDue
  split
  · next hdue =>
    obtain ⟨hsome, hreached, -⟩ := hdue
    have hfirst : linkProtocol.follow phase [.attempted input.nowNs] =
        some { phase with dueNs := none } := by
      have hphase : phase.dueNs = some link.nextReconnectNs := by rw [h.due, if_neg hsome]
      simp [Protocol.follow, linkProtocol, h.up, hdown, hphase, hreached]
    have hcleared : Tracks bound { link with nextReconnectNs := 0 } { phase with dueNs := none } :=
      { h with
        due := rfl
        idle := fun _ => rfl }
    obtain ⟨next, hclosed, htracks⟩ := hcleared.closed
    dsimp only
    split
    · next hreaches =>
      have hconnect := hcleared.connect link.wsParsedUrl input.upgraded (by omega) hle
      exact hconnect.append hfirst
    · next hreaches =>
      have hfails : { link with nextReconnectNs := 0 }.connect link.wsParsedUrl input.upgraded
          input.laterNs = { link with nextReconnectNs := 0 }.closeWsConnection := by
        unfold Link.connect
        exact if_neg hreaches
      have hfailed := (htracks.mono hle).failed rfl rfl (by omega : 0 < input.laterNs) hlt
      rw [hfails]
      exact (hfailed.append hclosed).append hfirst
  · exact h.keeps.mono hle

/-- On a steady clock the elapsed time is the difference of the readings. -/
theorem elapsedNs_eq {sinceNs : ℕ} (hle : sinceNs ≤ nowNs) (hlt : nowNs < 2 ^ 64) :
    Link.elapsedNs nowNs sinceNs = nowNs - sinceNs := by
  unfold Link.elapsedNs
  omega

/-- A ping leaves the other knowledge of an observer alone. -/
theorem Tracks.pingIfDue (h : Tracks bound link phase) (hup : link.wsConnected = true)
    (hpos : 0 < input.nowNs) (hle : bound ≤ input.nowNs) (hlt : input.nowNs < 2 ^ 63) :
    ∃ next, linkProtocol.follow phase (link.pingIfDue input).2 = some next ∧
      next.heardNs = phase.heardNs ∧ Tracks input.nowNs (link.pingIfDue input).1 next := by
  unfold Link.pingIfDue
  split
  · next hdue =>
    refine ⟨{ phase with pingedNs := some input.nowNs }, ?_, rfl, ?_⟩
    · have hpinged := h.pinged
      have hlast := h.pinged_le
      rw [elapsedNs_eq (by omega) (by omega)] at hdue
      refine Protocol.follow_singleton _ (if_pos ⟨h.up.trans hup, ?_⟩)
      by_cases hnone : link.lastWsPingNs = 0
      · rw [hpinged, if_pos hnone]
        rfl
      · have hspaced := hdue.1.resolve_left hnone
        have hafter : link.lastWsPingNs +
            link.policy.heartbeatPingIntervalMs * nsPerMs ≤ input.nowNs := by omega
        rw [hpinged, if_neg hnone, h.interval, Option.all_some]
        exact decide_eq_true hafter
    · exact { h with
        heard_le := h.heard_le.trans hle
        pinged := (if_neg hpos.ne').symm
        pinged_le := Nat.le_refl _ }
  · exact ⟨phase, rfl, rfl, h.mono hle⟩

/-- A connection expires exactly when it was silent for the timeout. -/
theorem Tracks.expireIfSilent (h : Tracks input.nowNs link phase) (hup : link.wsConnected = true)
    (hpos : 0 < input.laterNs) (hnow : input.nowNs < 2 ^ 63) (hlater : input.nowNs ≤ input.laterNs)
    (hlt : input.laterNs < 2 ^ 63) : Keeps input.laterNs (link.expireIfSilent input) phase := by
  have hheard := h.heard
  have hheardPos := h.heard_pos hup
  have hheardLe := h.heard_le
  unfold Link.expireIfSilent
  dsimp only
  rw [← hheard, elapsedNs_eq hheardLe (by omega)]
  split
  · next hsilent =>
    have hexpired : phase.heardNs + link.policy.heartbeatPongTimeoutMs * nsPerMs < input.nowNs := by
      omega
    have hfirst : linkProtocol.follow phase
        [.expired input.nowNs link.policy.heartbeatPongTimeoutMs] = some phase := by
      exact Protocol.follow_singleton _ (if_pos ⟨h.up.trans hup, hexpired⟩)
    exact ((h.handleDisconnect hpos hlt).mono hlater).append hfirst
  · next hlive =>
    have halive : input.nowNs ≤ phase.heardNs + link.policy.heartbeatPongTimeoutMs * nsPerMs := by
      omega
    exact ⟨phase, Protocol.follow_singleton _ (if_pos ⟨h.up.trans hup, halive⟩), h.mono hlater⟩

/-- A ping that is due leaves the connection. -/
theorem wsConnected_pingIfDue : (link.pingIfDue input).1.wsConnected = link.wsConnected := by
  unfold Link.pingIfDue
  split <;> rfl

/-- The heartbeat follows the protocol. -/
theorem Tracks.updateHeartbeat (h : Tracks bound link phase) (hpos : 0 < input.nowNs)
    (hle : bound ≤ input.nowNs) (hlater : input.nowNs ≤ input.laterNs)
    (hlt : input.laterNs < 2 ^ 63) : Keeps input.laterNs (link.updateHeartbeat input) phase := by
  unfold Link.updateHeartbeat
  split
  · next hdown =>
    exact h.attemptIfDue (by simpa using hdown) hpos (hle.trans hlater) hlater hlt
  · next hup =>
    have hup : link.wsConnected = true := by simpa using hup
    split
    · exact h.keeps.mono (hle.trans hlater)
    · obtain ⟨next, hping, -, htracks⟩ := h.pingIfDue hup hpos hle (by omega)
      exact (htracks.expireIfSilent (wsConnected_pingIfDue.trans hup) (by omega) (by omega) hlater
        hlt).append hping

/-- Starting the client follows the protocol. -/
theorem Tracks.start (h : Tracks bound link phase) (started : Bool) :
    Tracks bound (link.start started).1 phase := by
  unfold Link.start
  split
  · exact h
  split
  · exact { h with }
  · exact h

/-- Stopping the client follows the protocol. -/
theorem Tracks.stop (h : Tracks bound link phase) : Keeps bound link.stop phase := by
  unfold Link.stop
  split
  · exact h.keeps
  · have hrequested : Tracks bound { link with stopRequested := true } phase := { h with }
    obtain ⟨next, hclosed, htracks⟩ := hrequested.closed
    exact ⟨next, hclosed, { htracks with }⟩

/-- A new reconnect policy leaves the phase. -/
theorem Tracks.setReconnectPolicy (h : Tracks bound link phase) (enabled : Bool)
    (initialBackoffMs maxBackoffMs maxAttempts : UInt32) :
    Tracks bound (link.setReconnectPolicy enabled initialBackoffMs maxBackoffMs maxAttempts)
      phase :=
  { h with
    backoff_lt := by
      have hinitial := initialBackoffMs.toNat_lt
      have hmax := maxBackoffMs.toNat_lt
      change max (max 50 initialBackoffMs.toNat) (max 100 maxBackoffMs.toNat) < 2 ^ 32
      omega }

/-- A new heartbeat policy leaves the phase. -/
theorem Tracks.setHeartbeatPolicy (h : Tracks bound link phase)
    (pingIntervalMs pongTimeoutMs : UInt32) :
    Keeps bound (link.setHeartbeatPolicy pingIntervalMs pongTimeoutMs) phase :=
  ⟨{ phase with pingIntervalMs := max 100 pingIntervalMs.toNat }, rfl, { h with interval := rfl }⟩

/-- A call to connect follows the protocol. -/
theorem Tracks.connectWebSocket (h : Tracks bound link phase) (url : Bytes)
    (hpos : 0 < input.laterNs) (hle : bound ≤ input.laterNs) :
    Keeps input.laterNs (link.connectWebSocket url input) phase := by
  have hstarted := h.start input.started
  unfold Link.connectWebSocket
  dsimp only
  split
  · exact hstarted.keeps.mono hle
  split
  · exact hstarted.keeps.mono hle
  split
  · exact hstarted.keeps.mono hle
  · next parsed _ _ =>
    have hurl : Tracks bound { (link.start input.started).1 with
        wsUrl := url
        wsParsedUrl := parsed } phase := { hstarted with }
    exact hurl.connect parsed input.upgraded hpos hle

/-- Every call keeps to the protocol. -/
theorem Tracks.perform (h : Tracks link.clockNs link phase) (hsteady : Steady link input) :
    Keeps input.laterNs (link.perform input) phase := by
  obtain ⟨hpos, hclock, hlater, hlt⟩ := hsteady
  have hle := hclock.trans hlater
  unfold Link.perform
  cases input.call with
  | start => exact (h.start input.started).keeps.mono hle
  | stop => exact h.stop.mono hle
  | setReconnectPolicy enabled initialBackoffMs maxBackoffMs maxAttempts =>
    exact (h.setReconnectPolicy enabled initialBackoffMs maxBackoffMs maxAttempts).keeps.mono hle
  | setHeartbeatPolicy pingIntervalMs pongTimeoutMs =>
    exact (h.setHeartbeatPolicy pingIntervalMs pongTimeoutMs).mono hle
  | setStrictTlsValidation tls =>
    have htls : Tracks link.clockNs { link with tls := tls } phase := { h with }
    exact htls.keeps.mono hle
  | connectWebSocket url => exact h.connectWebSocket url (by omega) hle
  | received =>
    dsimp only
    split
    · have hpong := h.heard
      have hbefore := h.heard_le
      refine ⟨{ phase with heardNs := input.nowNs }, rfl, ?_⟩
      exact { h with
        heard := by dsimp only; omega
        heard_pos := fun _ => hpos
        heard_le := hlater
        pinged_le := h.pinged_le.trans hle }
    · exact h.keeps.mono hle
  | pongReceived =>
    dsimp only
    split
    · have hpong := h.heard
      have hbefore := h.heard_le
      refine ⟨{ phase with heardNs := input.nowNs }, rfl, ?_⟩
      exact { h with
        heard := by dsimp only; omega
        heard_pos := fun _ => hpos
        heard_le := hlater
        pinged_le := h.pinged_le.trans hle }
    · exact h.keeps.mono hle
  | hungUp =>
    dsimp only
    split
    · exact (h.handleDisconnect (by omega) hlt).mono hle
    · exact h.keeps.mono hle
  | updateHeartbeat =>
    dsimp only
    split
    · exact h.updateHeartbeat hpos hclock hlater hlt
    · exact h.keeps.mono hle

end Steps

/-- A new client is at the start of the protocol. -/
theorem tracks_fresh : Tracks 0 {} {} where
  up := rfl
  due := rfl
  idle := fun _ => rfl
  heard := rfl
  heard_pos := fun hconnected => by cases hconnected
  heard_le := Nat.le_refl 0
  pinged := rfl
  pinged_le := Nat.le_refl 0
  interval := rfl
  backoff_lt := by decide

/-- **The link keeps to its protocol.** Over a steady clock, every run of a client is allowed: a
connection is reported lost at most once, a ping is sent only on an open connection and an
interval after the last one, a connection expires exactly when nothing was heard on it for the
timeout, and an attempt to reconnect is made only while the link is down, once for each time that
one was scheduled and not before it is due. -/
theorem link_follows_protocol {inputs : List LinkInput}
    (hsteady : linkMachine.Along Steady {} inputs) :
    ∃ phase, linkProtocol.follow {} (linkMachine.outputs {} inputs).flatten = some phase ∧
      phase.up = (linkMachine.run {} inputs).wsConnected := by
  have hstep : ∀ (link : Link) (input : LinkInput) (phase : LinkPhase),
      Tracks link.clockNs link phase → Steady link input →
      ∃ next, linkProtocol.follow phase (linkMachine.output link input) = some next ∧
        Tracks (linkMachine.next link input).clockNs (linkMachine.next link input) next := by
    intro link input phase htracks hinput
    obtain ⟨next, hfollow, hnext⟩ := htracks.perform hinput
    exact ⟨next, hfollow, { hnext with }⟩
  obtain ⟨phase, hfollow, htracks⟩ := Protocol.follow_outputs
    (R := fun link phase => Tracks link.clockNs link phase) hstep tracks_fresh hsteady
  exact ⟨phase, hfollow, htracks.up⟩

/-- A connection is opened. -/
def opening : List LinkInput := [{
  call := .connectWebSocket (ascii "ws://feed")
  nowNs := 1000000000
  laterNs := 1000000000
  upgraded := true }]

/-- The connection is lost, and an attempt fails once it is due. -/
def lostLink : List LinkInput := [
  { call := .hungUp
    nowNs := 2000000000
    laterNs := 2000000000 },
  { call := .updateHeartbeat
    nowNs := 2250000000
    laterNs := 2300000000 }]

/-- The loss of a connection as an observer sees it. -/
theorem link_follows_protocol_lost :
    (linkMachine.outputs {} (opening ++ lostLink)).flatten = [.opened 1000000000, .disconnected,
      .scheduled 2000000000 250, .attempted 2250000000, .scheduled 2300000000 500] ∧
      ∃ phase, linkProtocol.follow {}
        (linkMachine.outputs {} (opening ++ lostLink)).flatten = some phase ∧
        phase.up = (linkMachine.run {} (opening ++ lostLink)).wsConnected :=
  ⟨by decide +kernel, link_follows_protocol (by decide +kernel)⟩

end AsyncNetworkClient

end TradeBot
