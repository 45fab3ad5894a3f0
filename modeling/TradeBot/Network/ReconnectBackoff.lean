import Mathlib.Data.List.Count
import Mathlib.Data.List.Range
import TradeBot.Network.ReconnectRuns

/-!
# How often and how late a client reconnects

The delays of an outage double from the initial delay up to the longest one. The counter of the
attempts is never set back, so it bounds the attempts of the whole life of a client.
-/

namespace TradeBot

open Library

namespace AsyncNetworkClient

/-- The delay that an event schedules. -/
def LinkEvent.wait? : LinkEvent → Option ℕ
  | .scheduled _ waitMs => some waitMs
  | _ => none

def LinkEvent.isAttempt : LinkEvent → Bool
  | .attempted _ => true
  | _ => false

/-- The delays that are scheduled, in order. -/
def waits (events : List LinkEvent) : List ℕ := events.filterMap LinkEvent.wait?

/-- The attempts that the loop makes on its own. -/
def attempts (events : List LinkEvent) : ℕ := events.countP LinkEvent.isAttempt

/-- The delays of a stretch of events are those of its parts. -/
@[simp] theorem waits_append (first second : List LinkEvent) :
    waits (first ++ second) = waits first ++ waits second := List.filterMap_append

/-- The attempts of a stretch of events are those of its parts. -/
@[simp] theorem attempts_append (first second : List LinkEvent) :
    attempts (first ++ second) = attempts first + attempts second := List.countP_append

/-- One if an attempt is pending. -/
def Link.pending (link : Link) : ℕ := if link.nextReconnectNs = 0 then 0 else 1

/-- The attempts of a client so far are within its counter and below the limit. -/
structure Limited (limit made : ℕ) (link : Link) : Prop where
  positive : 0 < link.policy.reconnectMaxAttempts
  within : link.policy.reconnectMaxAttempts ≤ limit
  idle : link.wsConnected = true → link.nextReconnectNs = 0
  counted : made + link.pending ≤ link.wsReconnectAttempts
  below : made + link.pending < limit

/-- A call sets no limit on the attempts but one from 1 to `limit`. -/
def LinkInput.SetsLimit (limit : ℕ) (input : LinkInput) : Prop :=
  match input.call with
  | .setReconnectPolicy _ _ _ maxAttempts => 0 < maxAttempts.toNat ∧ maxAttempts.toNat ≤ limit
  | _ => True

section Limit

variable {limit made nowNs : ℕ} {link : Link} {input : LinkInput}

/-- Losing the connection makes no attempt. -/
theorem Limited.down (h : Limited limit made link) :
    Limited limit made { link with wsConnected := false } :=
  { h with idle := fun hconnected => by cases hconnected }

/-- Closing a connection is no attempt to reconnect. -/
theorem attempts_closeWsConnection (link : Link) : attempts link.closeWsConnection.2 = 0 := by
  unfold Link.closeWsConnection
  cases link.wsConnected <;> rfl

/-- A connection that is asked for is no attempt to reconnect, and resets the count when it opens.
-/
theorem Limited.connect (h : Limited limit made link) (parsed : ParsedUrl) (upgraded : Bool)
    (nowNs : ℕ) :
    attempts (link.connect parsed upgraded nowNs).2 = 0 ∧
      Limited limit made (link.connect parsed upgraded nowNs).1 := by
  have hclosed : attempts link.closeWsConnection.2 = 0 := attempts_closeWsConnection link
  unfold Link.connect
  dsimp only
  split
  · refine ⟨?_, { h with idle := fun _ => rfl, counted := ?_, below := ?_ }⟩
    · rw [attempts_append, hclosed]
      rfl
    · have hcounted := h.counted
      change made + 0 ≤ link.wsReconnectAttempts
      omega
    · have hbelow := h.below
      change made + 0 < limit
      omega
  · exact ⟨hclosed, h.down⟩

/-- A lost connection or a failed attempt makes at most one new attempt pending. -/
theorem Limited.failed (h : Limited limit made link) (hdown : link.wsConnected = false)
    (hnone : link.nextReconnectNs = 0) (nowNs : ℕ) :
    attempts (link.failed nowNs).2 = 0 ∧ Limited limit made (link.failed nowNs).1 := by
  have hpending : link.pending = 0 := if_pos hnone
  have hcounted := h.counted
  have hbelow := h.below
  have hkept : Limited limit made
      { link with wsReconnectAttempts := link.wsReconnectAttempts + 1 } :=
    { h with counted := Nat.le_succ_of_le hcounted }
  unfold Link.failed Link.scheduleReconnect
  split
  · exact ⟨rfl, hkept⟩
  split
  · exact ⟨rfl, hkept⟩
  split
  · exact ⟨rfl, hkept⟩
  · next hallowed =>
    have hpositive := h.positive
    have hwithin := h.within
    have hfew : link.wsReconnectAttempts + 1 < link.policy.reconnectMaxAttempts := by
      by_contra hmany
      exact hallowed ⟨hpositive, Nat.le_of_not_lt hmany⟩
    have hone (link : Link) : link.pending ≤ 1 := by
      unfold Link.pending
      split <;> omega
    refine ⟨rfl, { h with idle := fun hconnected => ?_, counted := ?_, below := ?_ }⟩
    · rw [hdown] at hconnected
      cases hconnected
    · refine (Nat.add_le_add_left (hone _) made).trans ?_
      change made + 1 ≤ link.wsReconnectAttempts + 1
      omega
    · refine Nat.lt_of_le_of_lt (Nat.add_le_add_left (hone _) made) ?_
      omega

/-- Handling a disconnect schedules an attempt and makes none. -/
theorem Limited.handleDisconnect (h : Limited limit made link) :
    attempts (link.handleDisconnect nowNs).2 = 0 ∧
      Limited limit made (link.handleDisconnect nowNs).1 := by
  unfold Link.handleDisconnect
  cases hup : link.wsConnected with
  | false => exact ⟨rfl, h⟩
  | true => exact h.down.failed rfl (h.idle hup) nowNs

/-- An attempt is a pending one. -/
theorem Limited.attemptIfDue (h : Limited limit made link) :
    Limited limit (made + attempts (link.attemptIfDue input).2) (link.attemptIfDue input).1 := by
  unfold Link.attemptIfDue
  split
  · next hdue =>
    have hpending : link.pending = 1 := if_neg hdue.1
    have hcounted := h.counted
    have hbelow := h.below
    have hmade : Limited limit (made + 1) { link with nextReconnectNs := 0 } :=
      { h with
        idle := fun _ => rfl
        counted := by
          change made + 1 + 0 ≤ link.wsReconnectAttempts
          omega
        below := by
          change made + 1 + 0 < limit
          omega }
    dsimp only
    split
    · obtain ⟨hnone, hlimited⟩ := hmade.connect link.wsParsedUrl input.upgraded
        input.laterNs
      have hone : attempts ([.attempted input.nowNs] ++
          ({ link with nextReconnectNs := 0 }.connect link.wsParsedUrl input.upgraded
            input.laterNs).2) = 1 := by rw [attempts_append, hnone]; rfl
      rw [List.singleton_append] at hone
      rwa [hone]
    · next hreaches =>
      have hfails : { link with nextReconnectNs := 0 }.connect link.wsParsedUrl input.upgraded
          input.laterNs = { link with nextReconnectNs := 0 }.closeWsConnection := by
        unfold Link.connect
        exact if_neg hreaches
      rw [hfails]
      obtain ⟨hnone, hlimited⟩ := hmade.down.failed rfl rfl input.laterNs
      have hone : attempts ([.attempted input.nowNs] ++
          ({ link with nextReconnectNs := 0 }.closeWsConnection.2 ++
            ({ link with nextReconnectNs := 0, wsConnected := false }.failed
              input.laterNs).2)) = 1 := by
        rw [attempts_append, attempts_append, attempts_closeWsConnection, hnone]
        rfl
      rw [List.singleton_append] at hone
      exact hone.symm ▸ hlimited
  · exact h

/-- The heartbeat makes an attempt only where the limit leaves room for it. -/
theorem Limited.updateHeartbeat (h : Limited limit made link) :
    Limited limit (made + attempts (link.updateHeartbeat input).2) (link.updateHeartbeat input).1
    := by
  unfold Link.updateHeartbeat
  split
  · exact h.attemptIfDue
  split
  · exact h
  have hpinged : attempts (link.pingIfDue input).2 = 0 ∧
      Limited limit made (link.pingIfDue input).1 := by
    unfold Link.pingIfDue
    split
    · exact ⟨rfl, { h with }⟩
    · exact ⟨rfl, h⟩
  have hexpired : ∀ link : Link, Limited limit made link →
      attempts (link.expireIfSilent input).2 = 0 ∧
        Limited limit made (link.expireIfSilent input).1 := by
    intro link h
    unfold Link.expireIfSilent
    dsimp only
    split
    · exact h.handleDisconnect
    · exact ⟨rfl, h⟩
  dsimp only
  obtain ⟨hnone, hlimited⟩ := hexpired _ hpinged.2
  rw [attempts_append, hpinged.1, hnone]
  exact hlimited

/-- Starting the client keeps the attempts within the limit. -/
theorem Limited.start (h : Limited limit made link) (started : Bool) :
    Limited limit made (link.start started).1 := by
  unfold Link.start
  split
  · exact h
  split
  · exact { h with }
  · exact h

/-- Stopping the client makes no attempt. -/
theorem Limited.stop (h : Limited limit made link) :
    attempts link.stop.2 = 0 ∧ Limited limit made link.stop.1 := by
  unfold Link.stop
  split
  · exact ⟨rfl, h⟩
  · have hrequested : Limited limit made { link with stopRequested := true } := { h with }
    exact ⟨attempts_closeWsConnection { link with stopRequested := true },
      { hrequested.down with }⟩

/-- A call to connect keeps the attempts within the limit. -/
theorem Limited.connectWebSocket (h : Limited limit made link) (url : Bytes) :
    attempts (link.connectWebSocket url input).2 = 0 ∧
      Limited limit made (link.connectWebSocket url input).1 := by
  have hstarted := h.start input.started
  unfold Link.connectWebSocket
  dsimp only
  split
  · exact ⟨rfl, hstarted⟩
  split
  · exact ⟨rfl, hstarted⟩
  split
  · exact ⟨rfl, hstarted⟩
  · next parsed _ _ =>
    have hurl : Limited limit made { (link.start input.started).1 with
        wsUrl := url
        wsParsedUrl := parsed } := { hstarted with }
    exact hurl.connect parsed input.upgraded input.laterNs

/-- Every call keeps the attempts within the counter and below the limit. -/
theorem Limited.perform (h : Limited limit made link) (hsets : input.SetsLimit limit) :
    Limited limit (made + attempts (link.perform input).2) (link.perform input).1 := by
  have hquiet {result : Link × List LinkEvent}
      (hresult : attempts result.2 = 0 ∧ Limited limit made result.1) :
      Limited limit (made + attempts result.2) result.1 := by
    rw [hresult.1]
    exact hresult.2
  unfold LinkInput.SetsLimit at hsets
  unfold Link.perform
  cases hcall : input.call with
  | start => exact h.start input.started
  | stop => exact hquiet h.stop
  | setReconnectPolicy enabled initialBackoffMs maxBackoffMs maxAttempts =>
    rw [hcall] at hsets
    exact { h with
      positive := hsets.1
      within := hsets.2 }
  | setHeartbeatPolicy pingIntervalMs pongTimeoutMs => exact hquiet ⟨rfl, { h with }⟩
  | setStrictTlsValidation tls => exact hquiet ⟨rfl, { h with }⟩
  | connectWebSocket url => exact hquiet (h.connectWebSocket url)
  | received =>
    dsimp only
    split
    · exact hquiet ⟨rfl, { h with }⟩
    · exact h
  | pongReceived =>
    dsimp only
    split
    · exact hquiet ⟨rfl, { h with }⟩
    · exact h
  | hungUp =>
    dsimp only
    split
    · exact hquiet h.handleDisconnect
    · exact h
  | updateHeartbeat =>
    dsimp only
    split
    · exact h.updateHeartbeat
    · exact h

end Limit

/-- **The counter bounds the attempts of a whole life.** A client whose limits on the attempts
all lie between 1 and `limit` makes fewer than `limit` attempts on its own as long as it exists,
however long that is, however often an attempt succeeds and however often it is stopped and
started again. -/
theorem attempts_lt_limit {limit : ℕ} {inputs : List LinkInput} (hdefault : 8 ≤ limit)
    (hsets : ∀ input ∈ inputs, input.SetsLimit limit) :
    attempts (linkMachine.outputs {} inputs).flatten < limit := by
  have hrun : ∀ (made : ℕ) (link : Link), Limited limit made link →
      made + attempts (linkMachine.outputs link inputs).flatten < limit := by
    induction inputs with
    | nil =>
      intro made link h
      have hbelow := h.below
      change made + 0 < limit
      omega
    | cons input inputs ih =>
      intro made link h
      rw [List.forall_mem_cons] at hsets
      have hperform := h.perform hsets.1
      have hnext : Limited limit (made + attempts (linkMachine.output link input))
          (linkMachine.next link input) := { hperform with }
      have hrest := ih hsets.2 _ _ hnext
      rw [Machine.outputs_cons, List.flatten_cons, attempts_append]
      omega
  have hfresh : Limited limit 0 {} := by
    refine ⟨?_, hdefault, fun hconnected => ?_, Nat.le_refl 0, ?_⟩
    · decide
    · cases hconnected
    · change 0 + 0 < limit
      omega
  have hall := hrun 0 {} hfresh
  omega

/-- The loss of `lostLink` is followed by one attempt. -/
theorem attempts_lt_limit_lost :
    attempts (linkMachine.outputs {} (opening ++ lostLink)).flatten = 1 ∧
      attempts (linkMachine.outputs {} (opening ++ lostLink)).flatten < 8 :=
  ⟨by decide +kernel, attempts_lt_limit (Nat.le_refl 8) (by
    intro input hinput
    simp only [opening, lostLink, List.mem_append, List.mem_cons, List.not_mem_nil,
      or_false] at hinput
    rcases hinput with rfl | rfl | rfl <;> trivial)⟩

/-- The event opens a connection. -/
def LinkEvent.isOpening : LinkEvent → Bool
  | .opened _ => true
  | _ => false

def LinkInput.setsReconnectPolicy (input : LinkInput) : Bool :=
  match input.call with
  | .setReconnectPolicy .. => true
  | _ => false

/-- What a call does to the delay: it schedules nothing and leaves the next delay alone, or it
schedules the next delay and doubles it up to the longest. -/
inductive Paces (link : Link) (result : Link × List LinkEvent) : Prop where
  | quiet (hwaits : waits result.2 = [])
      (hinitial : result.1.policy.reconnectInitialBackoffMs =
        link.policy.reconnectInitialBackoffMs)
      (hmax : result.1.policy.reconnectMaxBackoffMs = link.policy.reconnectMaxBackoffMs)
      (hcurrent : result.1.reconnectCurrentBackoffMs = link.reconnectCurrentBackoffMs)
  | waited (hwaits : waits result.2 =
        [min link.reconnectCurrentBackoffMs link.policy.reconnectMaxBackoffMs])
      (hinitial : result.1.policy.reconnectInitialBackoffMs =
        link.policy.reconnectInitialBackoffMs)
      (hmax : result.1.policy.reconnectMaxBackoffMs = link.policy.reconnectMaxBackoffMs)
      (hcurrent : result.1.reconnectCurrentBackoffMs =
        min (min link.reconnectCurrentBackoffMs link.policy.reconnectMaxBackoffMs * 2 % 2 ^ 32)
          link.policy.reconnectMaxBackoffMs)

/-- A call paces the delays unless it opens a connection, which sets the delay back. -/
def PacesOrOpens (link : Link) (result : Link × List LinkEvent) : Prop :=
  result.2.any LinkEvent.isOpening = false ∧ Paces link result ∨
    result.2.any LinkEvent.isOpening = true ∧
      result.1.policy.reconnectInitialBackoffMs = link.policy.reconnectInitialBackoffMs ∧
      result.1.policy.reconnectMaxBackoffMs = link.policy.reconnectMaxBackoffMs ∧
      result.1.reconnectCurrentBackoffMs = result.1.policy.reconnectInitialBackoffMs

section Pacing

variable {nowNs : ℕ} {link : Link} {input : LinkInput}

/-- Events that neither schedule nor open anything can come first. -/
theorem PacesOrOpens.after {before : Link} {result : Link × List LinkEvent}
    (h : PacesOrOpens link result) (events : List LinkEvent) (hwaits : waits events = [])
    (hopening : events.any LinkEvent.isOpening = false)
    (hinitial : link.policy.reconnectInitialBackoffMs = before.policy.reconnectInitialBackoffMs)
    (hmax : link.policy.reconnectMaxBackoffMs = before.policy.reconnectMaxBackoffMs)
    (hcurrent : link.reconnectCurrentBackoffMs = before.reconnectCurrentBackoffMs) :
    PacesOrOpens before (result.1, events ++ result.2) := by
  have hany : (events ++ result.2).any LinkEvent.isOpening = result.2.any LinkEvent.isOpening := by
    rw [List.any_append, hopening, Bool.false_or]
  have happend : waits (events ++ result.2) = waits result.2 := by
    rw [waits_append, hwaits, List.nil_append]
  unfold PacesOrOpens
  dsimp only
  rw [hany]
  refine h.imp (And.imp_right fun hpaces => ?_)
    (And.imp_right (And.imp (·.trans hinitial) (And.imp_left (·.trans hmax))))
  cases hpaces with
  | quiet hnone hinitial' hmax' hcurrent' =>
    exact .quiet (happend.trans hnone) (hinitial'.trans hinitial) (hmax'.trans hmax)
      (hcurrent'.trans hcurrent)
  | waited hone hinitial' hmax' hcurrent' =>
    rw [hcurrent, hmax] at hone hcurrent'
    exact .waited (happend.trans hone) (hinitial'.trans hinitial) (hmax'.trans hmax) hcurrent'

/-- What schedules nothing, opens nothing and leaves policy and delay keeps the pace. -/
theorem PacesOrOpens.quiet {result : Link × List LinkEvent}
    (hopening : result.2.any LinkEvent.isOpening = false) (hwaits : waits result.2 = [])
    (hinitial : result.1.policy.reconnectInitialBackoffMs = link.policy.reconnectInitialBackoffMs)
    (hmax : result.1.policy.reconnectMaxBackoffMs = link.policy.reconnectMaxBackoffMs)
    (hcurrent : result.1.reconnectCurrentBackoffMs = link.reconnectCurrentBackoffMs) :
    PacesOrOpens link result := .inl ⟨hopening, .quiet hwaits hinitial hmax hcurrent⟩

/-- Closing a connection keeps the pace. -/
theorem pacesOrOpens_closeWsConnection (link : Link) :
    PacesOrOpens link link.closeWsConnection := by
  unfold Link.closeWsConnection
  cases link.wsConnected <;> exact .quiet rfl rfl rfl rfl rfl

/-- A connection opens, or a failed one keeps the pace. -/
theorem pacesOrOpens_connect (link : Link) (parsed : ParsedUrl) (upgraded : Bool) :
    PacesOrOpens link (link.connect parsed upgraded nowNs) := by
  unfold Link.connect
  dsimp only
  split
  · refine .inr ⟨?_, rfl, rfl, rfl⟩
    rw [List.any_append]
    exact Bool.or_true _
  · exact pacesOrOpens_closeWsConnection link

/-- A failed attempt is followed by the next delay. -/
theorem pacesOrOpens_failed (link : Link) : PacesOrOpens link (link.failed nowNs) := by
  unfold Link.failed Link.scheduleReconnect
  split
  · exact .quiet rfl rfl rfl rfl rfl
  split
  · exact .quiet rfl rfl rfl rfl rfl
  split
  · exact .quiet rfl rfl rfl rfl rfl
  · exact .inl ⟨rfl, .waited rfl rfl rfl rfl⟩

/-- A disconnect is followed by the next delay. -/
theorem pacesOrOpens_handleDisconnect (link : Link) :
    PacesOrOpens link (link.handleDisconnect nowNs) := by
  unfold Link.handleDisconnect
  split
  · exact .quiet rfl rfl rfl rfl rfl
  · exact (pacesOrOpens_failed { link with wsConnected := false }).after [.disconnected]
      rfl rfl rfl rfl rfl

/-- An attempt that is due opens a connection, or is followed by the next delay. -/
theorem pacesOrOpens_attemptIfDue (link : Link) (input : LinkInput) :
    PacesOrOpens link (link.attemptIfDue input) := by
  unfold Link.attemptIfDue
  split
  · dsimp only
    split
    · exact (pacesOrOpens_connect { link with nextReconnectNs := 0 } link.wsParsedUrl
        input.upgraded).after [.attempted input.nowNs] rfl rfl rfl rfl rfl
    · next hreaches =>
      have hfails : { link with nextReconnectNs := 0 }.connect link.wsParsedUrl input.upgraded
          input.laterNs = { link with nextReconnectNs := 0 }.closeWsConnection := by
        unfold Link.connect
        exact if_neg hreaches
      rw [hfails]
      have hclosed : waits link.closeWsConnection.2 = [] ∧
          link.closeWsConnection.2.any LinkEvent.isOpening = false := by
        unfold Link.closeWsConnection
        cases link.wsConnected <;> exact ⟨rfl, rfl⟩
      have hfailed : PacesOrOpens link
          (({ link with nextReconnectNs := 0, wsConnected := false }.failed input.laterNs).1,
            link.closeWsConnection.2 ++
              ({ link with nextReconnectNs := 0, wsConnected := false }.failed input.laterNs).2) :=
        (pacesOrOpens_failed { link with nextReconnectNs := 0, wsConnected := false }).after
          _ hclosed.1 hclosed.2 rfl rfl rfl
      exact hfailed.after [.attempted input.nowNs] rfl rfl rfl rfl rfl
  · exact .quiet rfl rfl rfl rfl rfl

/-- The heartbeat keeps the pace or opens a connection. -/
theorem pacesOrOpens_updateHeartbeat (link : Link) (input : LinkInput) :
    PacesOrOpens link (link.updateHeartbeat input) := by
  unfold Link.updateHeartbeat
  split
  · exact pacesOrOpens_attemptIfDue link input
  split
  · exact .quiet rfl rfl rfl rfl rfl
  have hexpire : ∀ link : Link, PacesOrOpens link (link.expireIfSilent input) := by
    intro link
    unfold Link.expireIfSilent
    dsimp only
    split
    · exact (pacesOrOpens_handleDisconnect link).after
        [.expired input.nowNs link.policy.heartbeatPongTimeoutMs] rfl rfl rfl rfl rfl
    · exact .quiet rfl rfl rfl rfl rfl
  dsimp only
  unfold Link.pingIfDue
  split
  · exact (hexpire _).after [.pinged input.nowNs] rfl rfl rfl rfl rfl
  · exact hexpire link

/-- Every call but a new reconnect policy keeps the pace or opens a connection. -/
theorem pacesOrOpens_perform (link : Link) (hpolicy : input.setsReconnectPolicy = false) :
    PacesOrOpens link (link.perform input) := by
  have hstart : ∀ started, (link.start started).1.policy = link.policy ∧
      (link.start started).1.reconnectCurrentBackoffMs = link.reconnectCurrentBackoffMs := by
    intro started
    unfold Link.start
    split
    · exact ⟨rfl, rfl⟩
    split <;> exact ⟨rfl, rfl⟩
  unfold LinkInput.setsReconnectPolicy at hpolicy
  unfold Link.perform
  cases hcall : input.call with
  | start =>
    obtain ⟨hsame, hcurrent⟩ := hstart input.started
    exact .quiet rfl rfl (congrArg _ hsame) (congrArg _ hsame) hcurrent
  | stop =>
    dsimp only
    unfold Link.stop Link.closeWsConnection
    cases link.running <;> cases link.wsConnected <;> exact .quiet rfl rfl rfl rfl rfl
  | setReconnectPolicy enabled initialBackoffMs maxBackoffMs maxAttempts =>
    rw [hcall] at hpolicy
    cases hpolicy
  | setHeartbeatPolicy pingIntervalMs pongTimeoutMs => exact .quiet rfl rfl rfl rfl rfl
  | setStrictTlsValidation tls => exact .quiet rfl rfl rfl rfl rfl
  | connectWebSocket url =>
    obtain ⟨hsame, hcurrent⟩ := hstart input.started
    have hstarted : PacesOrOpens link ((link.start input.started).1, []) :=
      .quiet rfl rfl (congrArg _ hsame) (congrArg _ hsame) hcurrent
    dsimp only
    unfold Link.connectWebSocket
    dsimp only
    cases (link.start input.started).2 with
    | false => exact hstarted
    | true =>
      cases parseUrl url with
      | error e => exact hstarted
      | ok parsed =>
        cases hvalid : parsed.valid with
        | false =>
          dsimp only
          rw [hvalid]
          exact hstarted
        | true =>
          dsimp only
          rw [hvalid]
          exact (pacesOrOpens_connect { (link.start input.started).1 with
            wsUrl := url
            wsParsedUrl := parsed } parsed input.upgraded).after [] rfl rfl
              (congrArg _ hsame) (congrArg _ hsame) hcurrent
  | received =>
    dsimp only
    split <;> exact .quiet rfl rfl rfl rfl rfl
  | pongReceived =>
    dsimp only
    split <;> exact .quiet rfl rfl rfl rfl rfl
  | hungUp =>
    dsimp only
    split
    · exact pacesOrOpens_handleDisconnect link
    · exact .quiet rfl rfl rfl rfl rfl
  | updateHeartbeat =>
    dsimp only
    split
    · exact pacesOrOpens_updateHeartbeat link input
    · exact .quiet rfl rfl rfl rfl rfl

end Pacing

/-- The delays of a run in which nothing is opened go on from the next delay. -/
theorem waits_outputs {inputs : List LinkInput} {link : Link} {k : ℕ}
    (hpolicy : ∀ input ∈ inputs, input.setsReconnectPolicy = false)
    (hdown : (linkMachine.outputs link inputs).flatten.any LinkEvent.isOpening = false)
    (hmax : link.policy.reconnectMaxBackoffMs < 2 ^ 31)
    (hcurrent : link.reconnectCurrentBackoffMs = cappedDoubling
      link.policy.reconnectInitialBackoffMs link.policy.reconnectMaxBackoffMs k) :
    ∃ count, waits (linkMachine.outputs link inputs).flatten = (List.range' k count).map
      (cappedDoubling link.policy.reconnectInitialBackoffMs
        link.policy.reconnectMaxBackoffMs) := by
  induction inputs generalizing link k with
  | nil => exact ⟨0, rfl⟩
  | cons input inputs ih =>
    rw [List.forall_mem_cons] at hpolicy
    rw [Machine.outputs_cons, List.flatten_cons, List.any_append, Bool.or_eq_false_iff] at hdown
    rw [Machine.outputs_cons, List.flatten_cons, waits_append]
    have hperform : PacesOrOpens link (link.perform input) :=
      pacesOrOpens_perform link hpolicy.1
    obtain ⟨-, hpaces⟩ | ⟨hopens, -⟩ := hperform
    · cases hpaces with
      | quiet hwaits hinitial' hmax' hcurrent' =>
        obtain ⟨count, hrest⟩ := ih (k := k) hpolicy.2 hdown.2 (hmax' ▸ hmax) (by
          change (link.perform input).1.reconnectCurrentBackoffMs = cappedDoubling
            (link.perform input).1.policy.reconnectInitialBackoffMs
            (link.perform input).1.policy.reconnectMaxBackoffMs k
          rw [hcurrent', hinitial', hmax', hcurrent])
        refine ⟨count, ?_⟩
        change waits (link.perform input).2 ++ _ = _
        rw [hwaits, hrest, List.nil_append]
        change List.map (cappedDoubling (link.perform input).1.policy.reconnectInitialBackoffMs
          (link.perform input).1.policy.reconnectMaxBackoffMs) _ = _
        rw [hinitial', hmax']
      | waited hwaits hinitial' hmax' hcurrent' =>
        have hle := cappedDoubling_le_limit link.policy.reconnectInitialBackoffMs
          link.policy.reconnectMaxBackoffMs k
        rw [hcurrent, Nat.min_eq_left hle] at hwaits hcurrent'
        rw [Nat.mod_eq_of_lt (by omega), cappedDoubling_succ] at hcurrent'
        obtain ⟨count, hrest⟩ := ih (k := k + 1) hpolicy.2 hdown.2 (hmax' ▸ hmax) (by
          change (link.perform input).1.reconnectCurrentBackoffMs = cappedDoubling
            (link.perform input).1.policy.reconnectInitialBackoffMs
            (link.perform input).1.policy.reconnectMaxBackoffMs (k + 1)
          rw [hcurrent', hinitial', hmax'])
        refine ⟨count + 1, ?_⟩
        change waits (link.perform input).2 ++ _ = _
        rw [hwaits, hrest, List.range'_succ, List.map_cons, List.singleton_append]
        change _ :: List.map (cappedDoubling
          (link.perform input).1.policy.reconnectInitialBackoffMs
          (link.perform input).1.policy.reconnectMaxBackoffMs) _ = _
        rw [hinitial', hmax']
    · have hnone : (link.perform input).2.any LinkEvent.isOpening = false := hdown.1
      rw [hopens] at hnone
      cases hnone

/-- A new reconnect policy is set without an event. -/
theorem perform_setsReconnectPolicy {link : Link} {input : LinkInput}
    (hsets : input.setsReconnectPolicy = true) : (link.perform input).2 = [] := by
  unfold LinkInput.setsReconnectPolicy at hsets
  unfold Link.perform
  cases hcall : input.call with
  | setReconnectPolicy enabled initialBackoffMs maxBackoffMs maxAttempts => rfl
  | _ => exact absurd hsets (by simp [hcall])

/-- The initial delay stays at most the longest one: a new policy is raised to meet this. -/
theorem initial_le_max {link : Link} (input : LinkInput)
    (h : link.policy.reconnectInitialBackoffMs ≤ link.policy.reconnectMaxBackoffMs) :
    (linkMachine.next link input).policy.reconnectInitialBackoffMs ≤
      (linkMachine.next link input).policy.reconnectMaxBackoffMs := by
  change (link.perform input).1.policy.reconnectInitialBackoffMs ≤
    (link.perform input).1.policy.reconnectMaxBackoffMs
  cases hpolicy : input.setsReconnectPolicy with
  | false =>
    obtain ⟨-, hpaces⟩ | ⟨-, hinitial, hmax, -⟩ := pacesOrOpens_perform link hpolicy
    · cases hpaces with
      | quiet _ hinitial hmax _ => rwa [hinitial, hmax]
      | waited _ hinitial hmax _ => rwa [hinitial, hmax]
    · rwa [hinitial, hmax]
  | true =>
    unfold LinkInput.setsReconnectPolicy at hpolicy
    unfold Link.perform
    cases hcall : input.call with
    | setReconnectPolicy enabled initialBackoffMs maxBackoffMs maxAttempts =>
      exact Nat.le_max_left _ _
    | _ =>
      rw [hcall] at hpolicy
      cases hpolicy

/-- **The delays of an outage double up to the longest.** After a connection was opened, the
delays that are scheduled before the next one is opened are the initial delay, its double and so
on, none above the longest delay, whatever else the client is asked for in between. The longest
delay is below `2 ^ 31` milliseconds, so that no doubling wraps in 32 bits. -/
theorem reconnect_backoff {before outage : List LinkInput} {opening : LinkInput} {link : Link}
    (hopened : (linkMachine.output (linkMachine.run {} before) opening).any LinkEvent.isOpening =
      true)
    (hlink : linkMachine.run {} (before ++ [opening]) = link)
    (hpolicy : ∀ input ∈ outage, input.setsReconnectPolicy = false)
    (hdown : (linkMachine.outputs link outage).flatten.any LinkEvent.isOpening = false)
    (hmax : link.policy.reconnectMaxBackoffMs < 2 ^ 31) :
    ∃ count, waits (linkMachine.outputs link outage).flatten = (List.range count).map
      (cappedDoubling link.policy.reconnectInitialBackoffMs
        link.policy.reconnectMaxBackoffMs) := by
  have hordered : link.policy.reconnectInitialBackoffMs ≤ link.policy.reconnectMaxBackoffMs := by
    rw [← hlink]
    exact Machine.invariant_run (M := linkMachine)
      (I := fun link => link.policy.reconnectInitialBackoffMs ≤ link.policy.reconnectMaxBackoffMs)
      (fun link input h => initial_le_max input h) (by decide) (before ++ [opening])
  have hreset : link.reconnectCurrentBackoffMs = link.policy.reconnectInitialBackoffMs := by
    rw [← hlink, Machine.run_append]
    have hopening : opening.setsReconnectPolicy = false := by
      by_contra hsets
      have hany : ((linkMachine.run {} before).perform opening).2.any LinkEvent.isOpening = true :=
        hopened
      rw [perform_setsReconnectPolicy (by simpa using hsets)] at hany
      cases hany
    obtain ⟨hnone, -⟩ | ⟨-, -, -, hcurrent⟩ :=
      pacesOrOpens_perform (linkMachine.run {} before) hopening
    · have hany : ((linkMachine.run {} before).perform opening).2.any LinkEvent.isOpening = true :=
        hopened
      rw [hnone] at hany
      cases hany
    · exact hcurrent
  rw [← cappedDoubling_zero hordered] at hreset
  obtain ⟨count, hwaits⟩ := waits_outputs hpolicy hdown hmax hreset
  exact ⟨count, by rw [hwaits, List.range_eq_range']⟩

/-- After the loss of `lostLink`, two delays. -/
theorem reconnect_backoff_lost :
    waits (linkMachine.outputs (linkMachine.run {} opening) lostLink).flatten = [250, 500] ∧
      ∃ count, waits (linkMachine.outputs (linkMachine.run {} opening) lostLink).flatten =
        (List.range count).map (cappedDoubling 250 5000) :=
  ⟨by decide +kernel, @reconnect_backoff [] lostLink (opening.head (by decide)) _
    (by decide +kernel) rfl (by decide) (by decide +kernel) (by decide +kernel)⟩

end AsyncNetworkClient

end TradeBot
