import TradeBot.Library.Machine

/-!
# Protocols of observable events

A protocol says which sequences of events are allowed: each event is refused or moves the
protocol on to its next phase. A machine keeps to it when the events of every run are allowed.
-/

namespace TradeBot.Library

/-- What an observer allows to happen next. -/
structure Protocol (Phase Event : Type*) where
  /-- The phase after an event, unless the event is refused. -/
  observe : Phase → Event → Option Phase

namespace Protocol

variable {Phase Event : Type*} (P : Protocol Phase Event)

/-- The phase after a sequence of events, unless one of them is refused. -/
def follow : Phase → List Event → Option Phase
  | phase, [] => some phase
  | phase, event :: events => (P.observe phase event).bind fun next => follow next events

/-- No event leaves the phase. -/
@[simp] theorem follow_nil (phase : Phase) : P.follow phase [] = some phase := rfl

/-- The first event is observed first. -/
theorem follow_cons (phase : Phase) (event : Event) (events : List Event) :
    P.follow phase (event :: events) =
      (P.observe phase event).bind fun next => P.follow next events := rfl

/-- Following one event is observing it. -/
theorem follow_singleton {phase next : Phase} {event : Event}
    (h : P.observe phase event = some next) : P.follow phase [event] = some next := by
  rw [follow_cons, h]
  rfl

/-- Two lists of events are followed one after the other. -/
theorem follow_append (phase : Phase) (first second : List Event) :
    P.follow phase (first ++ second) =
      (P.follow phase first).bind fun next => P.follow next second := by
  induction first generalizing phase with
  | nil => rfl
  | cons event first ih =>
    rw [List.cons_append, follow_cons, follow_cons, Option.bind_assoc]
    exact congrArg _ (funext ih)

/-- **Phase rule.** What every allowed event preserves, every allowed sequence preserves. -/
theorem phase_invariant {I : List Event → Phase → Prop}
    (hstep : ∀ past phase event next, I past phase → P.observe phase event = some next →
      I (past ++ [event]) next) {past : List Event} {phase final : Phase} (hphase : I past phase)
    {events : List Event} (h : P.follow phase events = some final) : I (past ++ events) final := by
  induction events generalizing past phase with
  | nil =>
    cases h
    rwa [List.append_nil]
  | cons event events ih =>
    rw [follow_cons, Option.bind_eq_some_iff] at h
    obtain ⟨next, hevent, hrest⟩ := h
    have hnext := ih (hstep past phase event next hphase hevent) hrest
    rwa [List.append_assoc] at hnext

variable {P} {State Input : Type*} {M : Machine State Input (List Event)}

/-- **Refinement rule.** When the events of each step are allowed in a phase that is related to
the state before it, the events of every run are. -/
theorem follow_outputs {R : State → Phase → Prop} {C : State → Input → Prop}
    (hstep : ∀ s i phase, R s phase → C s i →
      ∃ next, P.follow phase (M.output s i) = some next ∧ R (M.next s i) next)
    {s : State} {phase : Phase} (h : R s phase) {inputs : List Input} (hC : M.Along C s inputs) :
    ∃ final, P.follow phase (M.outputs s inputs).flatten = some final ∧
      R (M.run s inputs) final := by
  induction inputs generalizing s phase with
  | nil => exact ⟨phase, rfl, h⟩
  | cons i inputs ih =>
    obtain ⟨next, hfollow, hnext⟩ := hstep s i phase h hC.1
    obtain ⟨final, hrest, hfinal⟩ := ih hnext hC.2
    refine ⟨final, ?_, hfinal⟩
    rw [Machine.outputs_cons, List.flatten_cons, follow_append, hfollow]
    exact hrest

/-- An event of a run is one of a step. -/
theorem exists_of_mem_outputs {s : State} {inputs : List Input} {event : Event}
    (h : event ∈ (M.outputs s inputs).flatten) : ∃ here, ∃ i ∈ inputs, event ∈ M.output here i := by
  induction inputs generalizing s with
  | nil => cases h
  | cons i inputs ih =>
    rw [Machine.outputs_cons, List.flatten_cons, List.mem_append] at h
    obtain hfirst | hrest := h
    · exact ⟨s, i, List.mem_cons_self, hfirst⟩
    · obtain ⟨here, j, hj, hevent⟩ := ih hrest
      exact ⟨here, j, List.mem_cons_of_mem i hj, hevent⟩

end Protocol

end TradeBot.Library
