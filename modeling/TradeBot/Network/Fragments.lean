import TradeBot.Network.WebSocketDecoder

/-!
# Fragmented messages

What the fragment buffer holds, in terms of the frames that were dispatched, and from it when a
delivered message is one that the frames carry.
-/

namespace TradeBot

open Library

namespace AsyncNetworkClient

section Messages

/-- A text or binary frame. -/
def DecodedFrame.IsData (frame : DecodedFrame) : Prop :=
  frame.opcode = wsOpcodeText ∨ frame.opcode = wsOpcodeBinary

/-- A data frame that starts a fragmented message. -/
def DecodedFrame.IsStart (frame : DecodedFrame) : Prop := frame.IsData ∧ frame.fin = false

/-- A continuation frame. -/
def DecodedFrame.isContinuation (frame : DecodedFrame) : Bool :=
  frame.opcode == wsOpcodeContinuation

/-- A frame that neither starts nor ends a fragmented message, nor closes the connection. -/
def DecodedFrame.IsBetween (frame : DecodedFrame) : Prop :=
  ¬frame.IsStart ∧ ¬(frame.isContinuation = true ∧ frame.fin = true) ∧
    frame.opcode ≠ wsOpcodeClose

/-- The payloads of the continuation frames of a list, in order. -/
def continued (frames : List DecodedFrame) : Bytes :=
  (frames.filter (·.isContinuation)).flatMap (·.payload)

/-- `message` is what the frames say when the last of them ends a message: the payload of one
final data frame, or of a started message and of all continuation frames after its start. -/
def Assembled (frames : List DecodedFrame) (message : Bytes) : Prop :=
  (∃ before last, frames = before ++ [last] ∧ last.IsData ∧ last.fin = true ∧
    message = last.payload) ∨
  ∃ before start between last, frames = before ++ start :: between ++ [last] ∧ start.IsStart ∧
    (∀ frame ∈ between, frame.IsBetween) ∧ last.isContinuation = true ∧ last.fin = true ∧
    message = start.payload ++ continued between ++ last.payload

/-- A final continuation frame with something to deliver although no message is started. -/
def Orphan (messages : WsMessages) (frame : DecodedFrame) : Prop :=
  messages.isOpen = true ∧ frame.isContinuation = true ∧ frame.fin = true ∧
    messages.fragmentOpcode = 0 ∧ messages.fragmentBuffer ++ frame.payload ≠ []

instance (messages : WsMessages) (frame : DecodedFrame) : Decidable (Orphan messages frame) :=
  inferInstanceAs (Decidable (_ ∧ _ ∧ _ ∧ _ ∧ _))

end Messages

section Steps

variable {messages : WsMessages} {frame : DecodedFrame}

/-- What dispatching a frame can do. -/
inductive Dispatched (messages : WsMessages) (frame : DecodedFrame) :
    WsMessages × List WsEvent → Prop
  | passes (messages' : WsMessages) (events : List WsEvent)
    (hbetween : frame.IsBetween) (hplain : frame.isContinuation = false)
    (hopen : messages'.isOpen = messages.isOpen)
    (hbuffer : messages'.fragmentBuffer = messages.fragmentBuffer)
    (hopcode : messages'.fragmentOpcode = messages.fragmentOpcode)
    (hevents : ∀ message, .message message ∈ events →
      frame.IsData ∧ frame.fin = true ∧ message = frame.payload) :
    Dispatched messages frame (messages', events)
  | starts (hstart : frame.IsStart) :
    Dispatched messages frame
      ({ messages with
        fragmentBuffer := frame.payload
        fragmentOpcode := frame.opcode }, [])
  | continues (hcontinuation : frame.isContinuation = true) (hfin : frame.fin = false) :
    Dispatched messages frame
      ({ messages with fragmentBuffer := messages.fragmentBuffer ++ frame.payload }, [])
  | ends (messages' : WsMessages) (hcontinuation : frame.isContinuation = true)
    (hfin : frame.fin = true) (hopcode : messages'.fragmentOpcode = 0) :
    Dispatched messages frame
      (messages', if (messages.fragmentBuffer ++ frame.payload).isEmpty then []
        else [.message (messages.fragmentBuffer ++ frame.payload)])
  | closes (messages' : WsMessages) (hclose : frame.opcode = wsOpcodeClose)
    (hclosed : messages'.isOpen = false) : Dispatched messages frame (messages', [.disconnect])

/-- A frame that neither starts nor continues a message, nor closes the connection, stands between
the parts of one. -/
theorem isBetween_of_ne (hdata : ¬frame.IsData ∨ frame.fin = true)
    (hcontinuation : frame.opcode ≠ wsOpcodeContinuation) (hclose : frame.opcode ≠ wsOpcodeClose) :
    frame.IsBetween ∧ frame.isContinuation = false := by
  have hplain : frame.isContinuation = false := beq_eq_false_iff_ne.mpr hcontinuation
  refine ⟨⟨?_, ?_, hclose⟩, hplain⟩
  · rintro ⟨hdata', hfin⟩
    rcases hdata with hdata | hfin'
    · exact hdata hdata'
    · rw [hfin] at hfin'
      cases hfin'
  · rintro ⟨hcontinuation', -⟩
    rw [hplain] at hcontinuation'
    cases hcontinuation'

/-- Dispatching does one of the things that are listed. -/
theorem dispatched_dispatchFrame (messages : WsMessages) (frame : DecodedFrame) :
    Dispatched messages frame (dispatchFrame messages frame) := by
  have hother : ∀ {opcode : UInt8}, frame.opcode = opcode → opcode ≠ wsOpcodeText →
      opcode ≠ wsOpcodeBinary → opcode ≠ wsOpcodeContinuation → opcode ≠ wsOpcodeClose →
      frame.IsBetween ∧ frame.isContinuation = false := by
    rintro opcode rfl htext hbinary hcontinuation hclose
    exact isBetween_of_ne (Or.inl fun hdata => hdata.elim htext hbinary) hcontinuation hclose
  unfold dispatchFrame
  split
  · rename_i hping
    obtain ⟨hbetween, hplain⟩ := hother hping (by decide) (by decide) (by decide) (by decide)
    exact .passes _ _ hbetween hplain rfl rfl rfl (fun message h => by simp at h)
  split
  · rename_i hpong
    obtain ⟨hbetween, hplain⟩ := hother hpong (by decide) (by decide) (by decide) (by decide)
    exact .passes _ _ hbetween hplain rfl rfl rfl (fun message h => by simp at h)
  split
  · exact .closes _ ‹_› rfl
  rename_i hclose
  split
  · rename_i hcontinuation
    dsimp only
    split
    · exact .ends _ (beq_iff_eq.mpr hcontinuation) ‹_› rfl
    · rename_i hfin
      exact .continues (beq_iff_eq.mpr hcontinuation) (Bool.eq_false_iff.mpr hfin)
  rename_i hcontinuation
  split
  · rename_i hstart
    exact .starts ⟨hstart.1, by simpa using hstart.2⟩
  rename_i hstart
  split
  · rename_i hdata
    have hfin : frame.fin = true := by
      cases hfin : frame.fin with
      | true => rfl
      | false => exact (hstart ⟨hdata, by rw [hfin]; rfl⟩).elim
    obtain ⟨hbetween, hplain⟩ := isBetween_of_ne (Or.inr hfin) hcontinuation hclose
    refine .passes _ _ hbetween hplain rfl rfl rfl ?_
    intro message hmessage
    rw [List.mem_singleton, WsEvent.message.injEq] at hmessage
    exact ⟨hdata, hfin, hmessage⟩
  · rename_i hdata
    obtain ⟨hbetween, hplain⟩ := isBetween_of_ne (Or.inl hdata) hcontinuation hclose
    exact .passes _ _ hbetween hplain rfl rfl rfl (fun message h => by cases h)

end Steps

section Runs

/-- While a message is started, the fragment buffer holds it as far as it has come. -/
def Holds (past : List DecodedFrame) (messages : WsMessages) : Prop :=
  messages.isOpen = true → messages.fragmentOpcode ≠ 0 →
    ∃ before start between, past = before ++ start :: between ∧ start.IsStart ∧
      (∀ frame ∈ between, frame.IsBetween) ∧
      messages.fragmentBuffer = start.payload ++ continued between

/-- One more frame appends its payload if it is a continuation. -/
theorem continued_concat (between : List DecodedFrame) (frame : DecodedFrame) :
    continued (between ++ [frame]) =
      continued between ++ if frame.isContinuation then frame.payload else [] := by
  unfold continued
  rw [List.filter_append, List.flatMap_append]
  cases hframe : frame.isContinuation <;> simp [hframe]

/-- An open connection dispatches the frame. -/
theorem step_open {messages : WsMessages} (hopen : messages.isOpen = true)
    (frame : DecodedFrame) : frameMachine.step messages frame = dispatchFrame messages frame :=
  if_pos hopen

/-- A closed one ignores it. -/
theorem step_closed {messages : WsMessages} (hclosed : ¬messages.isOpen = true)
    (frame : DecodedFrame) : frameMachine.step messages frame = (messages, []) :=
  if_neg hclosed

/-- A frame keeps what the buffer and the opcode say about the frames before. -/
theorem Holds.next {past : List DecodedFrame} {messages : WsMessages} (h : Holds past messages)
    (frame : DecodedFrame) : Holds (past ++ [frame]) (frameMachine.next messages frame) := by
  unfold Machine.next
  by_cases hopen : messages.isOpen = true
  · rw [step_open hopen]
    intro hopen' hopcode'
    have hdispatched := dispatched_dispatchFrame messages frame
    generalize dispatchFrame messages frame = result at *
    -- a started message goes on with one more frame
    have hgoes : frame.IsBetween → messages.fragmentOpcode ≠ 0 →
        ∃ before start between, past ++ [frame] = before ++ start :: between ∧ start.IsStart ∧
          (∀ frame ∈ between, frame.IsBetween) ∧
          messages.fragmentBuffer ++ (if frame.isContinuation then frame.payload else []) =
            start.payload ++ continued between := by
      intro hbetween hopcode
      obtain ⟨before, start, between, rfl, hstart, hall, hbuffer⟩ := h hopen hopcode
      refine ⟨before, start, between ++ [frame], by simp, hstart, ?_, ?_⟩
      · intro other hother
        rcases List.mem_append.mp hother with hother | hother
        · exact hall other hother
        · rw [List.mem_singleton.mp hother]
          exact hbetween
      · rw [hbuffer, continued_concat, List.append_assoc]
    cases hdispatched with
    | passes messages' events hbetween hplain hopen'' hbuffer hopcode hevents =>
      dsimp only at hopcode' ⊢
      rw [hopcode] at hopcode'
      have := hgoes hbetween hopcode'
      rw [hplain, if_neg Bool.false_ne_true, List.append_nil] at this
      rwa [hbuffer]
    | starts hstart =>
      exact ⟨past, frame, [], rfl, hstart, fun _ hmem => (List.not_mem_nil hmem).elim,
        (List.append_nil _).symm⟩
    | continues hcontinuation hfin =>
      have hbetween : frame.IsBetween := by
        refine ⟨?_, ?_, ?_⟩
        · rintro ⟨hdata, -⟩
          rw [DecodedFrame.isContinuation, beq_iff_eq] at hcontinuation
          rw [DecodedFrame.IsData, hcontinuation] at hdata
          exact absurd hdata (by decide)
        · rintro ⟨-, hfin'⟩
          rw [hfin] at hfin'
          cases hfin'
        · rw [DecodedFrame.isContinuation, beq_iff_eq] at hcontinuation
          rw [hcontinuation]
          decide
      have := hgoes hbetween hopcode'
      rwa [hcontinuation, if_pos rfl] at this
    | ends messages' hcontinuation hfin hopcode => exact (hopcode' hopcode).elim
    | closes messages' hclose hclosed =>
      rw [hclosed] at hopen'
      cases hopen'
  · rw [step_closed hopen]
    exact fun hopen' => (hopen hopen').elim

/-- So they say it after every run. -/
theorem holds (frames : List DecodedFrame) : Holds frames (frameMachine.run {} frames) := by
  induction frames using List.reverseRecOn with
  | nil => exact fun _ hopcode => (hopcode rfl).elim
  | append_singleton frames frame ih =>
    rw [Machine.run_append]
    exact ih.next frame

/-- A frame between keeps a started message started. -/
theorem fragmentOpcode_next_of_isBetween {messages : WsMessages} (hopen : messages.isOpen = true)
    {frame : DecodedFrame} (hbetween : frame.IsBetween) :
    (frameMachine.next messages frame).isOpen = true ∧
      (frameMachine.next messages frame).fragmentOpcode = messages.fragmentOpcode := by
  have hdispatched := dispatched_dispatchFrame messages frame
  unfold Machine.next
  rw [step_open hopen]
  generalize dispatchFrame messages frame = result at *
  cases hdispatched with
  | passes messages' events _ hplain hopen' hbuffer hopcode hevents =>
    exact ⟨hopen'.trans hopen, hopcode⟩
  | starts hstart => exact (hbetween.1 hstart).elim
  | continues hcontinuation hfin => exact ⟨hopen, rfl⟩
  | ends messages' hcontinuation hfin hopcode => exact (hbetween.2.1 ⟨hcontinuation, hfin⟩).elim
  | closes messages' hclose hclosed => exact (hbetween.2.2 hclose).elim

/-- A started message stays open over frames that stand between its parts. -/
theorem started_of_between {messages : WsMessages} (hopen : messages.isOpen = true)
    {start : DecodedFrame} (hstart : start.IsStart) {between : List DecodedFrame}
    (hall : ∀ frame ∈ between, frame.IsBetween) :
    (frameMachine.run messages (start :: between)).fragmentOpcode ≠ 0 := by
  have hstarted : (frameMachine.next messages start).isOpen = true ∧
      (frameMachine.next messages start).fragmentOpcode ≠ 0 := by
    have hdispatched := dispatched_dispatchFrame messages start
    unfold Machine.next
    rw [step_open hopen]
    generalize dispatchFrame messages start = result at *
    cases hdispatched with
    | passes _ _ hbetween => exact (hbetween.1 hstart).elim
    | starts _ =>
      refine ⟨hopen, ?_⟩
      rcases hstart.1 with hopcode | hopcode
      · change start.opcode ≠ 0
        rw [hopcode]
        decide
      · change start.opcode ≠ 0
        rw [hopcode]
        decide
    | continues hcontinuation _ =>
      rw [DecodedFrame.isContinuation, beq_iff_eq] at hcontinuation
      have hdata := hstart.1
      rw [DecodedFrame.IsData, hcontinuation] at hdata
      exact absurd hdata (by decide)
    | ends _ _ hfin =>
      rw [hstart.2] at hfin
      cases hfin
    | closes _ hclose =>
      have hdata := hstart.1
      rw [DecodedFrame.IsData, hclose] at hdata
      exact absurd hdata (by decide)
  rw [Machine.run_cons]
  generalize frameMachine.next messages start = messages' at *
  obtain ⟨hopen', hopcode⟩ := hstarted
  induction between generalizing messages' with
  | nil => exact hopcode
  | cons frame between ih =>
    rw [List.forall_mem_cons] at hall
    obtain ⟨hopen'', hopcode'⟩ := fragmentOpcode_next_of_isBetween hopen' hall.1
    exact ih hall.2 _ hopen'' (by rw [hopcode']; exact hopcode)

/-- A connection that is open at the end of a run was open at its start, since nothing opens it
again. -/
theorem isOpen_of_run {messages : WsMessages} {frames : List DecodedFrame}
    (h : (frameMachine.run messages frames).isOpen = true) : messages.isOpen = true := by
  induction frames generalizing messages with
  | nil => exact h
  | cons frame frames ih =>
    have hnext := ih h
    by_contra hclosed
    rw [Machine.next, step_closed hclosed] at hnext
    exact hclosed hnext

end Runs

section Delivery

/-- What an orphan ends is delivered. -/
theorem Orphan.delivered {messages : WsMessages} {frame : DecodedFrame}
    (h : Orphan messages frame) : .message (messages.fragmentBuffer ++ frame.payload) ∈
      frameMachine.output messages frame := by
  obtain ⟨hopen, hcontinuation, hfin, -, hnonempty⟩ := h
  rw [DecodedFrame.isContinuation, beq_iff_eq] at hcontinuation
  rw [Machine.output, step_open hopen]
  unfold dispatchFrame
  rw [if_neg (by rw [hcontinuation]; decide), if_neg (by rw [hcontinuation]; decide),
    if_neg (by rw [hcontinuation]; decide), if_pos hcontinuation]
  dsimp only
  rw [if_pos hfin, if_neg (by simpa using hnonempty)]
  exact List.mem_singleton_self _

/-- No message that the frames carry ends with an orphan. -/
theorem Orphan.not_assembled {frames : List DecodedFrame} {frame : DecodedFrame}
    (h : Orphan (frameMachine.run {} frames) frame) (message : Bytes) :
    ¬Assembled (frames ++ [frame]) message := by
  obtain ⟨hopen, hcontinuation, -, hopcode, -⟩ := h
  rintro (⟨before, last, heq, hdata, -, -⟩ | ⟨before, start, between, last, heq, hstart, hall, -⟩)
  · obtain ⟨-, hlast⟩ := List.append_inj' heq rfl
    obtain rfl : frame = last := List.singleton_inj.mp hlast
    rw [DecodedFrame.isContinuation, beq_iff_eq] at hcontinuation
    rw [DecodedFrame.IsData, hcontinuation] at hdata
    exact absurd hdata (by decide)
  · obtain ⟨rfl, -⟩ := List.append_inj' heq rfl
    rw [Machine.run_append] at hopen hopcode
    have hopen' : (frameMachine.run {} before).isOpen = true := isOpen_of_run hopen
    exact started_of_between hopen' hstart hall hopcode

/-- A frame delivers a message that the frames carry exactly when it is no orphan. -/
theorem assembled_iff (frames : List DecodedFrame) (frame : DecodedFrame) :
    (∀ message, .message message ∈ frameMachine.output (frameMachine.run {} frames) frame →
        Assembled (frames ++ [frame]) message) ↔
      ¬Orphan (frameMachine.run {} frames) frame := by
  have hholds := holds frames
  constructor
  · intro h horphan
    exact horphan.not_assembled _ (h _ horphan.delivered)
  · intro horphan message hmessage
    unfold Machine.output at hmessage
    by_cases hopen : (frameMachine.run {} frames).isOpen = true
    · rw [step_open hopen] at hmessage
      have hdispatched := dispatched_dispatchFrame (frameMachine.run {} frames) frame
      generalize dispatchFrame (frameMachine.run {} frames) frame = result at *
      cases hdispatched with
      | passes _ events _ _ _ _ _ hevents =>
        obtain ⟨hdata, hfin, rfl⟩ := hevents message hmessage
        exact Or.inl ⟨frames, frame, rfl, hdata, hfin, rfl⟩
      | starts hstart => cases hmessage
      | continues hcontinuation hfin => cases hmessage
      | ends _ hcontinuation hfin hopcode =>
        dsimp only at hmessage
        split at hmessage
        · cases hmessage
        rename_i hnonempty
        rw [List.mem_singleton, WsEvent.message.injEq] at hmessage
        have hstarted : (frameMachine.run {} frames).fragmentOpcode ≠ 0 := by
          intro hzero
          exact horphan ⟨hopen, hcontinuation, hfin, hzero, by simpa using hnonempty⟩
        obtain ⟨before, start, between, heq, hstart, hall, hbuffer⟩ := hholds hopen hstarted
        refine Or.inr ⟨before, start, between, frame, by rw [heq], hstart, hall, hcontinuation,
          hfin, ?_⟩
        rw [hmessage, hbuffer]
      | closes _ hclose hclosed => simp at hmessage
    · rw [step_closed hopen] at hmessage
      cases hmessage

/-- Every delivered message of a run is one that its frames carry exactly when no final
continuation frame arrives while no message is started. -/
theorem fragments_sound (frames : List DecodedFrame) :
    (∀ before frame after, frames = before ++ frame :: after →
        ∀ message, .message message ∈
          frameMachine.output (frameMachine.run {} before) frame →
          Assembled (before ++ [frame]) message) ↔
      frameMachine.Along (fun messages frame => ¬Orphan messages frame) {} frames := by
  constructor
  · intro h
    refine Machine.along_of_splits ?_
    rintro before frame after rfl
    exact (assembled_iff before frame).mp (h before frame after rfl)
  · rintro h before frame after rfl
    exact (assembled_iff before frame).mpr h.at_split

/-- A final continuation frame alone is delivered, though no message was started. -/
theorem orphan_delivered :
    let frame : DecodedFrame := { opcode := wsOpcodeContinuation, fin := true, payload := [0x41] }
    .message [0x41] ∈ frameMachine.output {} frame ∧ ¬Assembled [frame] [0x41] := by
  intro frame
  have horphan : Orphan (frameMachine.run {} []) frame := by decide
  exact ⟨horphan.delivered, horphan.not_assembled [0x41]⟩

end Delivery

end AsyncNetworkClient

end TradeBot
