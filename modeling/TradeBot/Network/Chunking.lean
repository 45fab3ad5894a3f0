import TradeBot.Library.Framing
import TradeBot.Network.WebSocketDecoder

/-!
# Decoding does not depend on chunks

A complete frame stays the same when more bytes follow it, so the frames of a stream, and with
them the messages and the answered pings, are those of its bytes.
-/

namespace TradeBot

open Library

namespace AsyncNetworkClient

section Frames

/-- More bytes after a length do not change it, and none of the old ones is added to the rest. -/
theorem payloadLength_append {short : UInt8} {bytes rest : Bytes} {length : ℕ}
    (h : payloadLength short bytes = some (length, rest)) (more : Bytes) :
    payloadLength short (bytes ++ more) = some (length, rest ++ more) ∧
      rest.length ≤ bytes.length := by
  unfold payloadLength at h ⊢
  split at h
  · rename_i hshort
    rw [if_pos hshort]
    split at h
    · cases h
      exact ⟨rfl, by rw [List.length_cons, List.length_cons]; omega⟩
    · cases h
  rename_i hshort
  rw [if_neg hshort]
  split at h
  · rename_i hlong
    rw [if_pos hlong]
    split at h
    · cases h
    · rename_i henough
      cases h
      rw [if_neg (by rw [List.length_append]; omega), List.take_append_of_le_length (by omega),
        List.drop_append_of_le_length (by omega)]
      exact ⟨rfl, (List.drop_sublist 8 bytes).length_le⟩
  · rename_i hlong
    cases h
    rw [if_neg hlong]
    exact ⟨rfl, Nat.le_refl _⟩

/-- The same of the key that may follow it. -/
theorem maskKey_append {masked : Bool} {bytes key rest : Bytes}
    (h : maskKey masked bytes = some (key, rest)) (more : Bytes) :
    maskKey masked (bytes ++ more) = some (key, rest ++ more) ∧ rest.length ≤ bytes.length := by
  unfold maskKey at h ⊢
  split at h
  · rename_i hmasked
    rw [if_pos hmasked]
    split at h
    · cases h
    · rename_i henough
      cases h
      rw [if_neg (by rw [List.length_append]; omega), List.take_append_of_le_length (by omega),
        List.drop_append_of_le_length (by omega)]
      exact ⟨rfl, (List.drop_sublist 4 bytes).length_le⟩
  · rename_i hmasked
    cases h
    rw [if_neg hmasked]
    exact ⟨rfl, Nat.le_refl _⟩

/-- More bytes change neither a complete frame nor an over-limit one. -/
theorem popOneFrame_append {bytes rest : Bytes} {frame : DecodedFrame}
    (h : popOneFrame bytes = some (frame, rest)) (more : Bytes) :
    rest.length < bytes.length ∧
      (popOneFrame (bytes ++ more) = some (frame, rest ++ more) ∨
        frame.opcode = wsOpcodeClose ∧ popOneFrame (bytes ++ more) = some (frame, [])) := by
  unfold popOneFrame at h
  split at h
  · rename_i b0 b1 bytes
    rw [List.cons_append, List.cons_append, popOneFrame]
    dsimp only at h ⊢
    cases hlength : payloadLength (b1 &&& 0x7f) bytes with
    | none =>
      rw [hlength] at h
      cases h
    | some pair =>
      obtain ⟨payloadLen, bytes₁⟩ := pair
      rw [hlength] at h
      obtain ⟨hlength', hle⟩ := payloadLength_append hlength more
      rw [hlength']
      dsimp only at h ⊢
      cases hkey : maskKey (b1 &&& 0x80 != 0) bytes₁ with
      | none =>
        rw [hkey] at h
        cases h
      | some pair =>
        obtain ⟨key, bytes₂⟩ := pair
        rw [hkey] at h
        obtain ⟨hkey', hle'⟩ := maskKey_append hkey more
        rw [hkey']
        dsimp only at h ⊢
        split at h
        · rename_i hlimit
          cases h
          rw [if_pos hlimit]
          exact ⟨by simp, Or.inr ⟨rfl, rfl⟩⟩
        · rename_i hlimit
          rw [if_neg hlimit]
          split at h
          · cases h
          · rename_i henough
            cases h
            rw [if_neg (by rw [List.length_append]; omega),
              List.take_append_of_le_length (by omega), List.drop_append_of_le_length (by omega)]
            refine ⟨?_, Or.inl rfl⟩
            rw [List.length_drop, List.length_cons, List.length_cons]
            omega
  · cases h

/-- The frames of the receive buffer. -/
def framing : Framing UInt8 DecodedFrame where
  pop := popOneFrame
  closes frame := frame.opcode == wsOpcodeClose
  shrinks h := (popOneFrame_append h []).1
  appends h hopen more := by
    obtain hmore | ⟨hclose, -⟩ := (popOneFrame_append h more).2
    · exact hmore
    · rw [hclose, beq_self_eq_true] at hopen
      cases hopen
  closed h _ more := by
    obtain hmore | ⟨-, hmore⟩ := (popOneFrame_append h more).2
    · exact ⟨_, hmore⟩
    · exact ⟨_, hmore⟩

end Frames

section Dispatch

/-- Only a frame that closes the stream closes the connection. -/
theorem isOpen_dispatchFrame (messages : WsMessages) {frame : DecodedFrame}
    (h : frame.opcode ≠ wsOpcodeClose) :
    (dispatchFrame messages frame).1.isOpen = messages.isOpen := by
  unfold dispatchFrame
  rw [if_neg h]
  dsimp only
  repeat' split
  all_goals rfl

/-- The loop dispatches the frames of the buffer, one after the other. -/
theorem processWsRxBuffer_eq {fuel : ℕ} {connection : WsConnection}
    (hfuel : connection.rxBuffer.length < fuel) (hopen : connection.messages.isOpen = true) :
    processWsRxBuffer fuel connection =
      ({ rxBuffer := (framing.drain connection.rxBuffer).2.getD []
         messages := frameMachine.run connection.messages (framing.drain connection.rxBuffer).1 },
        (frameMachine.outputs connection.messages
          (framing.drain connection.rxBuffer).1).flatten) := by
  induction fuel generalizing connection with
  | zero => omega
  | succ fuel ih =>
    rw [processWsRxBuffer]
    cases hpop : popOneFrame connection.rxBuffer with
    | none =>
      rw [Framing.drain_of_none (F := framing) hpop]
      rfl
    | some popped =>
      obtain ⟨frame, rest⟩ := popped
      have hshorter := (popOneFrame_append hpop []).1
      have hstep : frameMachine.step connection.messages frame =
          dispatchFrame connection.messages frame := if_pos hopen
      dsimp only
      by_cases hclose : frame.opcode = wsOpcodeClose
      · rw [if_pos hclose, Framing.drain_of_closes (F := framing) hpop (beq_iff_eq.mpr hclose)]
        simp [Machine.next, Machine.output, hstep]
      · have hopen' : (dispatchFrame connection.messages frame).1.isOpen = true := by
          rw [isOpen_dispatchFrame connection.messages hclose, hopen]
        rw [if_neg hclose,
          Framing.drain_of_some (F := framing) hpop (beq_eq_false_iff_ne.mpr hclose),
          @ih { rxBuffer := rest, messages := (dispatchFrame connection.messages frame).1 }
            (by dsimp only; omega) hopen']
        simp [Machine.next, Machine.output, hstep]

/-- The connection stays open exactly when no frame of the buffer closes the stream. -/
theorem isOpen_run_drain (bytes : Bytes) {messages : WsMessages} (hopen : messages.isOpen = true) :
    (frameMachine.run messages (framing.drain bytes).1).isOpen =
      (framing.drain bytes).2.isSome := by
  have hnext : ∀ {messages : WsMessages} {frame : DecodedFrame}, messages.isOpen = true →
      frameMachine.next messages frame = (dispatchFrame messages frame).1 := by
    intro messages frame h
    exact congrArg Prod.fst (if_pos h)
  induction bytes using framing.drain_induction generalizing messages with
  | hnone bytes hpop =>
    rw [Framing.drain_of_none hpop]
    exact hopen
  | hcloses bytes frame rest hpop hcloses =>
    have hopcode : frame.opcode = wsOpcodeClose := beq_iff_eq.mp hcloses
    rw [Framing.drain_of_closes hpop hcloses, Machine.run_cons, Machine.run_nil, hnext hopen]
    unfold dispatchFrame
    rw [hopcode]
    rfl
  | hsome bytes frame rest hpop hcloses ih =>
    have hopcode : frame.opcode ≠ wsOpcodeClose := beq_eq_false_iff_ne.mp hcloses
    rw [Framing.drain_of_some hpop hcloses, Machine.run_cons, hnext hopen]
    apply ih
    rw [isOpen_dispatchFrame messages hopcode, hopen]

/-- An open connection reads all frames that the chunk completes. -/
theorem receiveChunk_eq {connection : WsConnection} (hopen : connection.messages.isOpen = true)
    (chunk : Bytes) :
    receiveChunk connection chunk =
      ({ rxBuffer := (framing.feed (some connection.rxBuffer) chunk).2.getD []
         messages := frameMachine.run connection.messages
          (framing.feed (some connection.rxBuffer) chunk).1 },
        (frameMachine.outputs connection.messages
          (framing.feed (some connection.rxBuffer) chunk).1).flatten) := by
  unfold receiveChunk
  rw [hopen]
  exact processWsRxBuffer_eq (Nat.lt_succ_self _) hopen

/-- A closed one drops the chunk. -/
theorem receiveChunk_closed {connection : WsConnection}
    (hclosed : connection.messages.isOpen = false) (chunk : Bytes) :
    receiveChunk connection chunk = (connection, []) := by
  unfold receiveChunk
  rw [hclosed]
  rfl

end Dispatch

section Chunks

/-- It drops all later ones too. -/
theorem run_closed {connection : WsConnection} (hclosed : connection.messages.isOpen = false)
    (chunks : List Bytes) : connectionMachine.run connection chunks = connection ∧
      (connectionMachine.outputs connection chunks).flatten = [] := by
  induction chunks with
  | nil => exact ⟨rfl, rfl⟩
  | cons chunk chunks ih =>
    have hstep : connectionMachine.step connection chunk = (connection, []) :=
      receiveChunk_closed hclosed chunk
    rw [Machine.run_cons, Machine.outputs_cons, Machine.next, Machine.output, hstep]
    exact ih

/-- Chunks of bytes dispatch the frames that they feed. -/
theorem run_eq_feedAll {connection : WsConnection} (hopen : connection.messages.isOpen = true)
    (chunks : List Bytes) :
    connectionMachine.run connection chunks =
      { rxBuffer := (framing.feedAll (some connection.rxBuffer) chunks).2.getD []
        messages := frameMachine.run connection.messages
          (framing.feedAll (some connection.rxBuffer) chunks).1 } ∧
    (connectionMachine.outputs connection chunks).flatten =
      (frameMachine.outputs connection.messages
        (framing.feedAll (some connection.rxBuffer) chunks).1).flatten := by
  induction chunks generalizing connection with
  | nil => exact ⟨rfl, rfl⟩
  | cons chunk chunks ih =>
    have hstep : connectionMachine.step connection chunk = _ := receiveChunk_eq hopen chunk
    have hopen' := isOpen_run_drain (connection.rxBuffer ++ chunk) hopen
    rw [Machine.run_cons, Machine.outputs_cons, Machine.next, Machine.output, hstep,
      Framing.feedAll]
    rw [Framing.feed] at *
    dsimp only
    rw [List.flatten_cons, Machine.run_append, Machine.outputs_append, List.flatten_append]
    cases hrest : (framing.drain (connection.rxBuffer ++ chunk)).2 with
    | none =>
      rw [hrest] at hopen'
      obtain ⟨hrun, houtputs⟩ := @run_closed
        { rxBuffer := []
          messages := frameMachine.run connection.messages
            (framing.drain (connection.rxBuffer ++ chunk)).1 } hopen' chunks
      rw [Framing.feedAll_none]
      refine ⟨hrun, ?_⟩
      rw [Option.getD_none, houtputs]
      rfl
    | some rest =>
      rw [hrest] at hopen'
      obtain ⟨hrun, houtputs⟩ := @ih
        { rxBuffer := rest
          messages := frameMachine.run connection.messages
            (framing.drain (connection.rxBuffer ++ chunk)).1 } hopen'
      refine ⟨hrun, ?_⟩
      rw [Option.getD_some, houtputs]

/-- **Decoding does not depend on chunks.** For every stream of a new connection and every way of
cutting it: the delivered messages and the answered pings, in their order, and the state
reached are those of the whole stream; two ways of cutting it give the same; and what follows
the frame that closes the stream changes nothing. -/
theorem chunks_irrelevant (chunks : List Bytes) :
    (connectionMachine.outputs {} chunks).flatten = connectionMachine.output {} chunks.flatten ∧
    connectionMachine.run {} chunks = connectionMachine.next {} chunks.flatten ∧
    (∀ chunks' : List Bytes, chunks'.flatten = chunks.flatten →
      (connectionMachine.outputs {} chunks').flatten =
        (connectionMachine.outputs {} chunks).flatten) ∧
    ∀ more, (connectionMachine.next {} chunks.flatten).messages.isOpen = false →
      connectionMachine.output {} (chunks.flatten ++ more) =
        connectionMachine.output {} chunks.flatten := by
  have hwhole : ∀ chunks : List Bytes,
      (connectionMachine.outputs {} chunks).flatten = connectionMachine.output {} chunks.flatten ∧
      connectionMachine.run {} chunks = connectionMachine.next {} chunks.flatten := by
    intro chunks
    have hstep : connectionMachine.step {} chunks.flatten = _ :=
      @receiveChunk_eq {} rfl chunks.flatten
    obtain ⟨hrun, houtputs⟩ := @run_eq_feedAll {} rfl chunks
    rw [Framing.feedAll_eq (show framing.pop [] = none from rfl)] at hrun houtputs
    rw [hrun, houtputs, Machine.next, Machine.output, hstep]
    exact ⟨rfl, rfl⟩
  refine ⟨(hwhole chunks).1, (hwhole chunks).2, fun chunks' h => ?_, fun more hclosed => ?_⟩
  · rw [(hwhole chunks').1, (hwhole chunks).1, h]
  · have hlonger := (hwhole (chunks ++ [more])).1
    rw [← (hwhole chunks).2] at hclosed
    rw [Machine.outputs_append, List.flatten_append, (run_closed hclosed [more]).2,
      List.append_nil, (hwhole chunks).1, List.flatten_append, List.flatten_singleton] at hlonger
    exact hlonger.symm

end Chunks

end AsyncNetworkClient

end TradeBot
