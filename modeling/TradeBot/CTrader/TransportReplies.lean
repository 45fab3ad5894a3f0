import TradeBot.CTrader.Transport

/-!
# What a reception takes from the stream

A reception that succeeds has read whole frames: heartbeats and then the reply, with its type and
correlation. So what it returns and what it leaves are determined by the bytes of the peer,
whatever the pieces in which they arrive, the waits between them, the clock and the heartbeats
that are sent meanwhile.
-/

namespace TradeBot

open Library

namespace CTraderGate7Runtime

/-- The first frame of a stream and what follows it. -/
structure FirstFrame (stream frame rest : Bytes) : Prop where
  split : ∃ header, header.length = 4 ∧ ofBigEndian header = frame.length ∧
    stream = header ++ frame ++ rest
  positive : 0 < frame.length
  within : frame.length ≤ maxProtoFrameBytes

/-- A stream has one first frame. -/
theorem FirstFrame.unique {stream frame rest frame' rest' : Bytes}
    (h : FirstFrame stream frame rest) (h' : FirstFrame stream frame' rest') :
    frame = frame' ∧ rest = rest' := by
  obtain ⟨header, hfour, hlength, heq⟩ := h.split
  obtain ⟨header', hfour', hlength', heq'⟩ := h'.split
  rw [heq, List.append_assoc, List.append_assoc] at heq'
  obtain ⟨rfl, htail⟩ := List.append_inj heq' (hfour.trans hfour'.symm)
  exact List.append_inj htail (hlength.symm.trans hlength')

variable {parse : Bytes → Option ProtoMessage} {parsesAs : ℕ → Bytes → Bool}

/-- The reply of a stream: heartbeats, and then a message of the expected type and correlation.
A message without a payload leaves the payload that was there before, which a heartbeat
clears. -/
inductive Answered (parse : Bytes → Option ProtoMessage) (expected : ℕ) (correlation : Bytes) :
    Bytes → Bytes → Bytes → Bytes → Prop
  | beat {previous stream frame next payload rest : Bytes} {message : ProtoMessage}
      (hframe : FirstFrame stream frame next) (hparse : parse frame = some message)
      (hbeat : message.payloadType = heartbeatEvent)
      (hrest : Answered parse expected correlation [] next payload rest) :
      Answered parse expected correlation previous stream payload rest
  | reply {previous stream frame rest : Bytes} {message : ProtoMessage}
      (hframe : FirstFrame stream frame rest) (hparse : parse frame = some message)
      (hother : message.payloadType ≠ heartbeatEvent) (htype : message.payloadType = expected)
      (hcorrelation : message.clientMsgId.getD [] = correlation) :
      Answered parse expected correlation previous stream (message.payload.getD previous) rest

/-- A stream has at most one reply. -/
theorem Answered.unique {expected : ℕ} {correlation previous stream payload rest payload' rest' :
    Bytes} (h : Answered parse expected correlation previous stream payload rest)
    (h' : Answered parse expected correlation previous stream payload' rest') :
    payload = payload' ∧ rest = rest' := by
  induction h with
  | beat hframe hparse hbeat _ ih =>
    cases h' with
    | beat hframe' _ _ hrest' =>
      obtain ⟨rfl, rfl⟩ := hframe.unique hframe'
      exact ih hrest'
    | reply hframe' hparse' hother' =>
      obtain ⟨rfl, rfl⟩ := hframe.unique hframe'
      cases hparse.symm.trans hparse'
      exact absurd hbeat hother'
  | reply hframe hparse hother =>
    cases h' with
    | beat hframe' hparse' hbeat' =>
      obtain ⟨rfl, rfl⟩ := hframe.unique hframe'
      cases hparse.symm.trans hparse'
      exact absurd hbeat' hother
    | reply hframe' hparse' =>
      obtain ⟨rfl, rfl⟩ := hframe.unique hframe'
      cases hparse.symm.trans hparse'
      exact ⟨rfl, rfl⟩

/-- A heartbeat takes nothing from the stream. -/
theorem incoming_of_beat {connection next : Connection} {turn : Turn}
    (h : connection.beat turn = .ok next) : next.incoming = connection.incoming := by
  unfold Connection.beat at h
  split at h
  · split at h <;> cases h
    rfl
  · cases h
    rfl

/-- **Reading exactly.** A read that succeeds has moved the next bytes of the stream, as many as
were missing. -/
theorem readExact_eq_ok {size deadline : ℕ} {turns later : List Turn} {got bytes : Bytes}
    {connection next : Connection} (hgot : got.length ≤ size)
    (h : readExact size deadline got connection turns = some (.ok bytes, next, later)) :
    bytes.length = size ∧ got ++ connection.incoming = bytes ++ next.incoming := by
  induction turns generalizing got connection with
  | nil =>
    rw [readExact, Option.ite_none_right_eq_some] at h
    obtain ⟨hfull, h⟩ := h
    cases h
    exact ⟨by omega, rfl⟩
  | cons turn turns ih =>
    rw [readExact] at h
    split at h
    · next hfull =>
      cases h
      exact ⟨by omega, rfl⟩
    next hmissing =>
    split at h
    · cases h
    cases hbeat : connection.beat turn with
    | error outcome =>
      rw [hbeat] at h
      cases h
    | ok kept =>
      rw [hbeat] at h
      have hkept := incoming_of_beat hbeat
      cases hanswer : turn.answer with
      | read count =>
        rw [hanswer] at h
        dsimp only at h
        have hmoved :
            (got ++ kept.incoming.take (min count (size - got.length))).length ≤ size := by
          rw [List.length_append, List.length_take]
          omega
        obtain ⟨hlength, heq⟩ := ih hmoved h
        refine ⟨hlength, ?_⟩
        rw [← heq, ← hkept, List.append_assoc, List.take_append_drop]
      | ready =>
        rw [hanswer] at h
        obtain ⟨hlength, heq⟩ := ih hgot h
        exact ⟨hlength, by rw [← heq, hkept]⟩
      | waitTimedOut time =>
        rw [hanswer] at h
        dsimp only at h
        split at h
        · cases h
        · obtain ⟨hlength, heq⟩ := ih hgot h
          exact ⟨hlength, by rw [← heq, hkept]⟩
      | closed =>
        rw [hanswer] at h
        cases h

/-- A failed heartbeat is never taken for a reply. -/
theorem beat_error {connection : Connection} {turn : Turn} {outcome : TransportOutcome}
    (h : connection.beat turn = .error outcome) : outcome ≠ .expected := by
  unfold Connection.beat at h
  split at h
  · split at h <;> cases h <;> decide
  · cases h

/-- A read that fails says so. -/
theorem readExact_error {size deadline : ℕ} {turns later : List Turn} {got : Bytes}
    {connection next : Connection} {outcome : TransportOutcome}
    (h : readExact size deadline got connection turns = some (.error outcome, next, later)) :
    outcome ≠ .expected := by
  induction turns generalizing got connection with
  | nil =>
    rw [readExact, Option.ite_none_right_eq_some] at h
    cases h.2
  | cons turn turns ih =>
    rw [readExact] at h
    split at h
    · cases h
    split at h
    · cases h
      decide
    cases hbeat : connection.beat turn with
    | error outcome' =>
      rw [hbeat] at h
      cases h
      exact beat_error hbeat
    | ok kept =>
      rw [hbeat] at h
      cases hanswer : turn.answer with
      | read count =>
        rw [hanswer] at h
        exact ih h
      | ready =>
        rw [hanswer] at h
        exact ih h
      | waitTimedOut time =>
        rw [hanswer] at h
        dsimp only at h
        split at h
        · cases h
          decide
        · exact ih h
      | closed =>
        rw [hanswer] at h
        cases h
        decide

/-- Nor is a failed read of one envelope. -/
theorem receiveOne_error {deadline : ℕ} {connection next : Connection} {turns later : List Turn}
    {outcome : TransportOutcome}
    (h : receiveOne parse deadline connection turns = some (.error outcome, next, later)) :
    outcome ≠ .expected := by
  unfold receiveOne at h
  split at h
  · cases h
  · next hheader =>
    cases h
    exact readExact_error hheader
  · dsimp only at h
    split at h
    · cases h
      decide
    split at h
    · cases h
    · next hbody =>
      cases h
      exact readExact_error hbody
    · rw [Option.some.injEq, Prod.mk.injEq] at h
      obtain ⟨hopen, -⟩ := h
      unfold openEnvelope at hopen
      split at hopen
      · cases hopen
        decide
      · split at hopen
        · cases hopen
        · cases hopen
          decide

/-- A message that is received is the first frame of the stream. -/
theorem receiveOne_eq_ok {deadline : ℕ} {connection next : Connection} {turns later : List Turn}
    {message : ProtoMessage}
    (h : receiveOne parse deadline connection turns = some (.ok message, next, later)) :
    ∃ frame, FirstFrame connection.incoming frame next.incoming ∧ parse frame = some message ∧
      isAllowedInboundPayload message.payloadType = true := by
  unfold receiveOne at h
  cases hheader : readExact 4 deadline [] connection turns with
  | none =>
    rw [hheader] at h
    cases h
  | some read =>
    obtain ⟨result, between, turns'⟩ := read
    rw [hheader] at h
    cases result with
    | error outcome => cases h
    | ok header =>
      obtain ⟨hfour, hsplit⟩ := readExact_eq_ok (Nat.zero_le 4) hheader
      dsimp only at h
      split at h
      · cases h
      next hsize =>
      cases hbody : readExact (ofBigEndian header) deadline [] between turns' with
      | none =>
        rw [hbody] at h
        cases h
      | some read =>
        obtain ⟨result, after, turns''⟩ := read
        rw [hbody] at h
        cases result with
        | error outcome => cases h
        | ok frame =>
          obtain ⟨hlength, hrest⟩ := readExact_eq_ok (Nat.zero_le _) hbody
          dsimp only at h
          rw [Option.some.injEq, Prod.mk.injEq, Prod.mk.injEq] at h
          obtain ⟨hopen, rfl, -⟩ := h
          unfold openEnvelope at hopen
          cases hparse : parse frame with
          | none =>
            rw [hparse] at hopen
            cases hopen
          | some message' =>
            rw [hparse] at hopen
            dsimp only at hopen
            split at hopen
            · next hallowed =>
              cases hopen
              have hbounds := not_or.mp hsize
              refine ⟨frame, ⟨⟨header, hfour, hlength.symm, ?_⟩, ?_, ?_⟩, hparse, hallowed⟩
              · rw [List.nil_append] at hsplit hrest
                rw [hsplit, hrest, List.append_assoc]
              · omega
              · omega
            · cases hopen

/-- **What a reception takes.** A reception that succeeds returns the reply of the stream and
leaves what follows it. -/
theorem answered_of_receiveExpected {expected deadline : ℕ} {correlation previous payload : Bytes}
    {clock : List ℕ} {connection next : Connection} {turns : List Turn}
    (h : receiveExpected parse parsesAs expected correlation deadline previous clock connection
      turns = some (.expected, payload, next)) :
    Answered parse expected correlation previous connection.incoming payload next.incoming := by
  induction clock generalizing previous connection turns with
  | nil => cases h
  | cons now clock ih =>
    rw [receiveExpected] at h
    split at h
    · cases h
    cases hone : receiveOne parse deadline connection turns with
    | none =>
      rw [hone] at h
      cases h
    | some received =>
      obtain ⟨result, after, turns'⟩ := received
      rw [hone] at h
      cases result with
      | error outcome =>
        rw [Option.some.injEq, Prod.mk.injEq] at h
        exact absurd h.1 (receiveOne_error hone)
      | ok message =>
        obtain ⟨frame, hframe, hparse, -⟩ := receiveOne_eq_ok hone
        dsimp only at h
        split at h
        · next hbeat => exact .beat hframe hparse hbeat (ih h)
        next hother =>
        split at h
        · next hcontrol =>
          rw [Option.some.injEq, Prod.mk.injEq] at h
          exact absurd h.1 hcontrol
        split at h
        · cases h
        next htype =>
        split at h
        · cases h
        next hcorrelation =>
        cases h
        exact .reply hframe hparse hother (not_not.mp htype) (not_not.mp hcorrelation)

/-- **Receptions do not depend on the schedule.** Two receptions of one stream that succeed,
however the bytes arrive, whatever the clock reads and whichever heartbeats are sent in between,
return the same payload and leave the same stream: the reply after the heartbeats, with the
expected type and correlation. -/
theorem receiveExpected_agree {expected deadline deadline' : ℕ}
    {correlation previous payload payload' : Bytes} {clock clock' : List ℕ}
    {connection connection' next next' : Connection} {turns turns' : List Turn}
    (hincoming : connection'.incoming = connection.incoming)
    (h : receiveExpected parse parsesAs expected correlation deadline previous clock connection
      turns = some (.expected, payload, next))
    (h' : receiveExpected parse parsesAs expected correlation deadline' previous clock' connection'
      turns' = some (.expected, payload', next')) :
    Answered parse expected correlation previous connection.incoming payload next.incoming ∧
      payload' = payload ∧ next'.incoming = next.incoming := by
  have hanswered := answered_of_receiveExpected h
  have hanswered' := answered_of_receiveExpected h'
  rw [hincoming] at hanswered'
  exact ⟨hanswered, hanswered'.unique hanswered⟩

section Prompt

/-- A round that is in time, moves a byte at least, and sends its heartbeat if one is due. -/
structure Turn.Prompt (deadline : ℕ) (turn : Turn) : Prop where
  inTime : turn.now < deadline
  sent : turn.heartbeat = .sent
  reads : ∃ count, 0 < count ∧ turn.answer = .read count

/-- A prompt turn beats without an error. -/
theorem beat_prompt {deadline : ℕ} {turn : Turn} (h : turn.Prompt deadline)
    (connection : Connection) :
    ∃ cadence, connection.beat turn = .ok { connection with cadence := cadence } := by
  unfold Connection.beat
  split
  · rw [h.sent]
    exact ⟨_, rfl⟩
  · exact ⟨connection.cadence, rfl⟩

/-- Prompt rounds move what is missing, one byte a round at worst. -/
theorem readExact_prompt {size deadline : ℕ} {turns : List Turn} {got chunk : Bytes}
    {cadence : HeartbeatCadence} (rest : Bytes) (hturns : ∀ turn ∈ turns, turn.Prompt deadline)
    (hsize : got.length + chunk.length = size) (henough : chunk.length ≤ turns.length) :
    ∃ cadence' later, readExact size deadline got ⟨chunk ++ rest, cadence⟩ turns =
        some (.ok (got ++ chunk), ⟨rest, cadence'⟩, later) ∧
      (∀ turn ∈ later, turn.Prompt deadline) ∧ turns.length ≤ later.length + chunk.length := by
  induction turns generalizing got chunk cadence with
  | nil =>
    have hnil : chunk = [] := List.eq_nil_of_length_eq_zero (Nat.le_zero.mp henough)
    subst hnil
    have hfull : size ≤ got.length := by
      rw [List.length_nil] at hsize
      omega
    refine ⟨cadence, [], ?_, hturns, Nat.zero_le _⟩
    rw [readExact, if_pos hfull, List.append_nil, List.nil_append]
  | cons turn turns ih =>
    rw [List.forall_mem_cons] at hturns
    rw [List.length_cons] at henough
    rw [readExact]
    by_cases hfull : size ≤ got.length
    · have hnil : chunk = [] := List.eq_nil_of_length_eq_zero (by omega)
      subst hnil
      refine ⟨cadence, turn :: turns, ?_, List.forall_mem_cons.mpr hturns, Nat.le_refl _⟩
      rw [if_pos hfull, List.append_nil, List.nil_append]
    · obtain ⟨kept, hbeat⟩ := beat_prompt hturns.1 ⟨chunk ++ rest, cadence⟩
      obtain ⟨count, hcount, hanswer⟩ := hturns.1.reads
      have hmissing : size - got.length = chunk.length := by omega
      have hle : min count chunk.length ≤ chunk.length := Nat.min_le_right _ _
      have hpos : 0 < min count chunk.length := by omega
      rw [if_neg hfull, if_neg (Nat.not_le_of_lt hturns.1.inTime), hbeat, hanswer]
      dsimp only
      rw [hmissing, List.take_append_of_le_length hle, List.drop_append_of_le_length hle]
      obtain ⟨cadence', later, hread, hlater, hlength⟩ :=
        @ih (got ++ chunk.take (min count chunk.length)) (chunk.drop (min count chunk.length))
          kept hturns.2 (by
            rw [List.length_append, List.length_take, List.length_drop]
            omega) (by
            rw [List.length_drop]
            omega)
      refine ⟨cadence', later, ?_, hlater, ?_⟩
      · rw [hread, List.append_assoc, List.take_append_drop]
      · rw [List.length_drop] at hlength
        rw [List.length_cons]
        omega

/-- Enough prompt turns read the first frame of the stream, and enough are left for the rest. -/
theorem receiveOne_prompt {deadline : ℕ} {turns : List Turn} {stream frame rest : Bytes}
    {cadence : HeartbeatCadence} (hframe : FirstFrame stream frame rest)
    (hturns : ∀ turn ∈ turns, turn.Prompt deadline) (henough : stream.length ≤ turns.length) :
    ∃ cadence' later, receiveOne parse deadline ⟨stream, cadence⟩ turns =
        some (openEnvelope parse frame, ⟨rest, cadence'⟩, later) ∧
      (∀ turn ∈ later, turn.Prompt deadline) ∧ rest.length ≤ later.length := by
  obtain ⟨header, hfour, hvalue, rfl⟩ := hframe.split
  have hbounds : ¬(ofBigEndian header = 0 ∨ maxProtoFrameBytes < ofBigEndian header) := by
    have hpositive := hframe.positive
    have hwithin := hframe.within
    omega
  rw [List.length_append, List.length_append] at henough
  obtain ⟨cadence₁, turns₁, hheader, hturns₁, hlength₁⟩ :=
    @readExact_prompt 4 deadline turns [] header cadence (frame ++ rest) hturns
      ((Nat.zero_add _).trans hfour) (by omega)
  obtain ⟨cadence₂, turns₂, hbody, hturns₂, hlength₂⟩ :=
    @readExact_prompt (ofBigEndian header) deadline turns₁ [] frame cadence₁ rest hturns₁
      ((Nat.zero_add _).trans hvalue.symm) (by omega)
  refine ⟨cadence₂, turns₂, ?_, hturns₂, by omega⟩
  rw [List.append_assoc, receiveOne, hheader]
  dsimp only [List.nil_append]
  rw [if_neg hbounds, hbody]
  rfl

/-- A frame leaves less than the stream. -/
theorem FirstFrame.length_lt {stream frame rest : Bytes} (h : FirstFrame stream frame rest) :
    rest.length < stream.length := by
  obtain ⟨header, hfour, -, rfl⟩ := h.split
  rw [List.length_append, List.length_append]
  omega

/-- A message type that a request can wait for: it is let in, and it is not one that ends the
connection. The type of a heartbeat is among them, although no request waits for it. -/
def isReplyType (payloadType : ℕ) : Bool :=
  isAllowedInboundPayload payloadType && !([50, 2142, 2147, 2164, 2148].contains payloadType)

/-- A payload of a reply type is expected, whatever it says. -/
theorem classifyControlPayload_of_isReplyType {payloadType : ℕ}
    (h : isReplyType payloadType = true) (payload : Bytes) :
    classifyControlPayload parsesAs payloadType payload = .expected := by
  rw [isReplyType, Bool.and_eq_true, Bool.not_eq_true', List.contains_eq_mem,
    decide_eq_false_iff_not] at h
  simp only [List.mem_cons, List.not_mem_nil, or_false, not_or] at h
  obtain ⟨-, hcommon, hopen, htoken, haccount, hclient⟩ := h
  unfold classifyControlPayload
  rw [if_neg hcommon, if_neg hopen, if_neg htoken, if_neg haccount, if_neg hclient]

/-- A message of an allowed type is opened. -/
theorem openEnvelope_of_allowed {frame : Bytes} {message : ProtoMessage}
    (hparse : parse frame = some message)
    (hallowed : isAllowedInboundPayload message.payloadType = true) :
    openEnvelope parse frame = .ok message := by
  rw [openEnvelope, hparse]
  dsimp only
  rw [if_pos hallowed]

/-- **Prompt receptions.** When every round is in time and moves a byte, and there are as many
rounds as bytes, a reception returns exactly when the stream has the reply, and it returns
that. -/
theorem receiveExpected_iff {expected deadline : ℕ} {correlation previous stream payload rest :
    Bytes} {clock : List ℕ} {turns : List Turn} (cadence : HeartbeatCadence)
    (hexpected : isReplyType expected = true) (hclock : ∀ now ∈ clock, now < deadline)
    (hrounds : stream.length ≤ clock.length) (hturns : ∀ turn ∈ turns, turn.Prompt deadline)
    (henough : stream.length ≤ turns.length) :
    (∃ cadence', receiveExpected parse parsesAs expected correlation deadline previous clock
        ⟨stream, cadence⟩ turns = some (.expected, payload, ⟨rest, cadence'⟩)) ↔
      Answered parse expected correlation previous stream payload rest := by
  constructor
  · rintro ⟨cadence', h⟩
    exact answered_of_receiveExpected h
  · intro h
    induction h generalizing clock turns cadence with
    | @beat previous stream frame next payload rest message hframe hparse hbeat _ ih =>
      have hless := hframe.length_lt
      obtain ⟨cadence₁, turns₁, hone, hturns₁, hlength⟩ :=
        @receiveOne_prompt parse deadline turns stream frame next cadence hframe hturns henough
      cases clock with
      | nil => exact absurd hrounds (by rw [List.length_nil]; omega)
      | cons now clock =>
        rw [List.forall_mem_cons] at hclock
        rw [List.length_cons] at hrounds
        obtain ⟨cadence', hrest⟩ := ih cadence₁ hclock.2 (by omega) hturns₁ hlength
        have hallowed : isAllowedInboundPayload message.payloadType = true := by
          rw [hbeat]
          rfl
        have hopen := openEnvelope_of_allowed hparse hallowed
        refine ⟨cadence', ?_⟩
        rw [receiveExpected, if_neg (Nat.not_le_of_lt hclock.1), hone, hopen]
        dsimp only
        rw [if_pos hbeat, hrest]
    | @reply previous stream frame rest message hframe hparse hother htype hcorrelation =>
      have hless := hframe.length_lt
      obtain ⟨cadence₁, turns₁, hone, -, -⟩ :=
        @receiveOne_prompt parse deadline turns stream frame rest cadence hframe hturns henough
      cases clock with
      | nil => exact absurd hrounds (by rw [List.length_nil]; omega)
      | cons now clock =>
        rw [List.forall_mem_cons] at hclock
        have hallowed : isAllowedInboundPayload message.payloadType = true := by
          rw [htype]
          exact (Bool.and_eq_true _ _ ▸ hexpected).1
        have hopen := openEnvelope_of_allowed hparse hallowed
        have hcontrol := @classifyControlPayload_of_isReplyType parsesAs message.payloadType
          (htype ▸ hexpected) (message.payload.getD previous)
        refine ⟨cadence₁, ?_⟩
        rw [receiveExpected, if_neg (Nat.not_le_of_lt hclock.1), hone, hopen]
        dsimp only
        rw [if_neg hother, hcontrol, if_neg (not_not.mpr rfl), if_neg (not_not.mpr htype),
          if_neg (not_not.mpr hcorrelation)]

end Prompt

/-- A heartbeat as the provider encodes it. -/
def heartbeatBytes : Bytes := [0x08, 0x33]

/-- A confirmed subscription for the request `g7-1-6`. -/
def subscribedBytes : Bytes := [0x08, 0xd0, 0x10, 0x12, 0x00, 0x1a, 0x06] ++ ascii "g7-1-6"

/-- The two messages as they are decoded. -/
def decodeSample (frame : Bytes) : Option ProtoMessage :=
  if frame = heartbeatBytes then some ⟨51, none, none⟩
  else if frame = subscribedBytes then some ⟨2128, some (ascii "g7-1-6"), some []⟩
  else none

/-- Both frames, and the first byte of the next one. -/
def sampleStream : Bytes :=
  [0, 0, 0, 2] ++ heartbeatBytes ++ ([0, 0, 0, 13] ++ subscribedBytes) ++ [0]

/-- A round that reads, with no heartbeat due. -/
def readTurn (count : ℕ) : Turn := ⟨1, .sent, 1, .read count⟩

/-- The stream in whole frames, and in pieces with waits and a heartbeat in between. -/
theorem receiveExpected_agree_pieces :
    let whole : Connection := ⟨sampleStream, {}⟩
    let pieces : Connection := ⟨sampleStream, ⟨1, true⟩⟩
    Answered decodeSample 2128 (ascii "g7-1-6") [] sampleStream [] [0] ∧
      (receiveExpected decodeSample (fun _ _ => true) 2128 (ascii "g7-1-6") 20 [] [1, 2] whole
        [readTurn 4, readTurn 2, readTurn 4, readTurn 13]).map (·.2.2.incoming) = some [0] ∧
      (receiveExpected decodeSample (fun _ _ => true) 2128 (ascii "g7-1-6") 90 [] [1, 2] pieces
        [readTurn 3, ⟨3, .sent, 4, .ready⟩, readTurn 1, readTurn 2, ⟨5, .sent, 6, .waitTimedOut 7⟩,
          readTurn 9, readTurn 6, readTurn 7]).map (·.2.2.incoming) = some [0] := by
  have hwhole : receiveExpected decodeSample (fun _ _ => true) 2128 (ascii "g7-1-6") 20 [] [1, 2]
      ⟨sampleStream, {}⟩ [readTurn 4, readTurn 2, readTurn 4, readTurn 13] =
      some (.expected, [], ⟨[0], {}⟩) := rfl
  have hpieces : receiveExpected decodeSample (fun _ _ => true) 2128 (ascii "g7-1-6") 90 [] [1, 2]
      ⟨sampleStream, ⟨1, true⟩⟩ [readTurn 3, ⟨3, .sent, 4, .ready⟩, readTurn 1, readTurn 2,
        ⟨5, .sent, 6, .waitTimedOut 7⟩, readTurn 9, readTurn 6, readTurn 7] =
      some (.expected, [], ⟨[0], ⟨9000000001, true⟩⟩) := rfl
  have hsame : (⟨sampleStream, ⟨1, true⟩⟩ : Connection).incoming =
      (⟨sampleStream, {}⟩ : Connection).incoming := rfl
  have hagree := receiveExpected_agree hsame hwhole hpieces
  exact ⟨hagree.1, congrArg _ hwhole, congrArg _ hpieces⟩

/-- The stream byte by byte. -/
theorem receiveExpected_iff_bytes :
    ∃ cadence, receiveExpected decodeSample (fun _ _ => true) 2128 (ascii "g7-1-6") 20 []
      (List.replicate 24 1) ⟨sampleStream, {}⟩ (List.replicate 24 (readTurn 1)) =
        some (.expected, [], ⟨[0], cadence⟩) := by
  have hwhole : receiveExpected decodeSample (fun _ _ => true) 2128 (ascii "g7-1-6") 20 [] [1, 2]
      ⟨sampleStream, {}⟩ [readTurn 4, readTurn 2, readTurn 4, readTurn 13] =
      some (.expected, [], ⟨[0], {}⟩) := rfl
  have hprompt : (readTurn 1).Prompt 20 := ⟨by decide, rfl, 1, by decide, rfl⟩
  refine (receiveExpected_iff {} (by decide) ?_ (by decide) ?_ (by decide)).mpr
    (answered_of_receiveExpected hwhole)
  · intro now hnow
    rw [List.eq_of_mem_replicate hnow]
    decide
  · intro turn hturn
    rw [List.eq_of_mem_replicate hturn]
    exact hprompt

end CTraderGate7Runtime

end TradeBot
