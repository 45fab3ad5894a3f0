import TradeBot.Library.Protocols
import Mathlib.Logic.Function.Basic

/-!
# Atomic registers

Threads write named registers by calls that take time. A call takes effect at one instant
between its beginning and its return, or never, and it returns normally exactly when it took
effect; a reader sees the last value that took effect. A crash ends all calls and leaves the
registers.
-/

namespace TradeBot.Library

/-- What an observer of registers sees. -/
inductive RegisterEvent (Thread Key Value Error : Type*)
  | called (thread : Thread) (key : Key) (value : Value)
  | committed (thread : Thread) (key : Key) (value : Value)
  | returned (thread : Thread) (result : Except Error Unit)
  | observed (key : Key) (value : Option Value)
  | crashed

/-- A call that has not returned. -/
inductive RegisterCall (Key Value : Type*)
  | pending (key : Key) (value : Value)
  | effective

/-- The registers, and the calls of the threads. -/
structure Registers (Thread Key Value : Type*) where
  values : Key → Option Value
  calls : Thread → Option (RegisterCall Key Value)

namespace Registers

variable {Thread Key Value Error : Type*}

/-- Registers that no thread writes. -/
def atRest (values : Key → Option Value) : Registers Thread Key Value := ⟨values, fun _ => none⟩

/-- The value of a call becomes that of its register. -/
def commit [DecidableEq Thread] [DecidableEq Key] (r : Registers Thread Key Value)
    (thread : Thread) (key : Key) (value : Value) : Registers Thread Key Value where
  values := Function.update r.values key (some value)
  calls := Function.update r.calls thread (some .effective)

/-- The registers with another call of a thread. -/
def withCall [DecidableEq Thread] (r : Registers Thread Key Value) (thread : Thread)
    (call : Option (RegisterCall Key Value)) : Registers Thread Key Value :=
  { r with calls := Function.update r.calls thread call }

/-- The last commit of a register in a sequence of events. -/
structure LastCommit (events : List (RegisterEvent Thread Key Value Error)) (key : Key)
    (thread : Thread) (value : Value) : Prop where
  /-- A call asked for it, and no later one of the register took effect. -/
  split : ∃ before after, events = before ++ .committed thread key value :: after ∧
    .called thread key value ∈ before ∧
    ∀ thread' value', .committed thread' key value' ∉ after

/-- The last commit to a key stays the last one until there is another to it. -/
theorem LastCommit.append {events : List (RegisterEvent Thread Key Value Error)} {key : Key}
    {thread : Thread} {value : Value} (h : LastCommit events key thread value)
    {event : RegisterEvent Thread Key Value Error}
    (hevent : ∀ thread' value', event ≠ .committed thread' key value') :
    LastCommit (events ++ [event]) key thread value := by
  obtain ⟨before, after, rfl, hcalled, hlast⟩ := h.split
  refine ⟨before, after ++ [event], by simp, hcalled, fun thread' value' hmem => ?_⟩
  rw [List.mem_append, List.mem_singleton] at hmem
  obtain hafter | hsame := hmem
  · exact hlast thread' value' hafter
  · exact hevent thread' value' hsame.symm

/-- What a sequence of events leaves in registers that had some values. -/
structure Recorded (values : Key → Option Value)
    (events : List (RegisterEvent Thread Key Value Error)) (r : Registers Thread Key Value) :
    Prop where
  calls : ∀ thread key value, r.calls thread = some (.pending key value) →
    .called thread key value ∈ events
  value : ∀ key, (r.values key = values key ∧
      ∀ thread value, .committed thread key value ∉ events) ∨
    ∃ thread value, r.values key = some value ∧ LastCommit events key thread value

variable [DecidableEq Thread] [DecidableEq Key] [DecidableEq Value]

/-- The protocol of atomic registers. -/
def protocol : Protocol (Registers Thread Key Value) (RegisterEvent Thread Key Value Error) where
  observe r
    | .called thread key value =>
      match r.calls thread with
      | none => some (r.withCall thread (some (.pending key value)))
      | some _ => none
    | .committed thread key value =>
      match r.calls thread with
      | some (.pending key' value') =>
        if key = key' ∧ value = value' then some (r.commit thread key value) else none
      | _ => none
    | .returned thread result =>
      match r.calls thread, result with
      | some .effective, .ok () => some (r.withCall thread none)
      | some (.pending _ _), .error _ => some (r.withCall thread none)
      | _, _ => none
    | .observed key value => if r.values key = value then some r else none
    | .crashed => some (atRest r.values)

/-- A value that is committed was the argument of a call, and the register keeps it. -/
theorem observe_committed {r next : Registers Thread Key Value} {thread : Thread} {key : Key}
    {value : Value} (h : protocol.observe r
      (.committed thread key value : RegisterEvent Thread Key Value Error) = some next) :
    r.calls thread = some (.pending key value) ∧ next = r.commit thread key value := by
  unfold protocol at h
  dsimp only at h
  split at h
  · next key' value' hcall =>
    rw [Option.ite_none_right_eq_some] at h
    obtain ⟨⟨rfl, rfl⟩, h⟩ := h
    exact ⟨hcall, (Option.some.inj h).symm⟩
  · cases h

/-- An event other than a commit leaves the values. -/
theorem values_of_observe {r next : Registers Thread Key Value}
    {event : RegisterEvent Thread Key Value Error}
    (hevent : ∀ thread key value, event ≠ .committed thread key value)
    (h : protocol.observe r event = some next) : next.values = r.values := by
  cases event with
  | called thread key value =>
    unfold protocol at h
    dsimp only at h
    split at h <;> cases h
    rfl
  | committed thread key value => exact absurd rfl (hevent thread key value)
  | returned thread result =>
    unfold protocol at h
    dsimp only at h
    split at h <;> cases h <;> rfl
  | observed key value =>
    have hnext := (Option.ite_none_right_eq_some.mp h).2
    rw [← Option.some.inj hnext]
  | crashed =>
    cases h
    rfl

/-- A call that is pending after an event was so before, or the event began it. -/
theorem pending_of_observe {r next : Registers Thread Key Value}
    {event : RegisterEvent Thread Key Value Error} (h : protocol.observe r event = some next)
    {thread : Thread} {key : Key} {value : Value}
    (hpending : next.calls thread = some (.pending key value)) :
    r.calls thread = some (.pending key value) ∨ event = .called thread key value := by
  have hupdate {other : Thread} {call : Option (RegisterCall Key Value)}
      (hcalls : Function.update r.calls other call thread = some (.pending key value)) :
      r.calls thread = some (.pending key value) ∨
        thread = other ∧ call = some (.pending key value) := by
    by_cases heq : thread = other
    · subst heq
      rw [Function.update_self] at hcalls
      exact .inr ⟨rfl, hcalls⟩
    · rw [Function.update_of_ne heq] at hcalls
      exact .inl hcalls
  cases event with
  | called other key' value' =>
    unfold protocol at h
    dsimp only at h
    split at h <;> cases h
    obtain hbefore | ⟨rfl, hcall⟩ := hupdate hpending
    · exact .inl hbefore
    · cases hcall
      exact .inr rfl
  | committed other key' value' =>
    obtain ⟨-, rfl⟩ := observe_committed h
    obtain hbefore | ⟨-, hcall⟩ := hupdate hpending
    · exact .inl hbefore
    · cases hcall
  | returned other result =>
    unfold protocol at h
    dsimp only at h
    split at h <;> cases h <;>
    · obtain hbefore | ⟨-, hcall⟩ := hupdate hpending
      · exact .inl hbefore
      · cases hcall
  | observed key' value' =>
    have hnext := (Option.ite_none_right_eq_some.mp h).2
    rw [← Option.some.inj hnext] at hpending
    exact .inl hpending
  | crashed =>
    cases h
    cases hpending

/-- An observed event keeps the record of the commits. -/
theorem Recorded.observe {values : Key → Option Value}
    {past : List (RegisterEvent Thread Key Value Error)} {r next : Registers Thread Key Value}
    {event : RegisterEvent Thread Key Value Error} (h : Recorded values past r)
    (hobserve : protocol.observe r event = some next) : Recorded values (past ++ [event]) next where
  calls := by
    intro thread key value hpending
    obtain hbefore | rfl := pending_of_observe hobserve hpending
    · exact List.mem_append_left _ (h.calls thread key value hbefore)
    · exact List.mem_append_right _ List.mem_cons_self
  value := by
    intro key
    by_cases hevent : ∃ thread value, event = .committed thread key value
    · obtain ⟨thread, value, rfl⟩ := hevent
      obtain ⟨hcall, rfl⟩ := observe_committed hobserve
      have hcalled := h.calls thread key value hcall
      refine .inr ⟨thread, value, Function.update_self _ _ _, ⟨past, [], rfl, hcalled, ?_⟩⟩
      exact fun _ _ hmem => List.not_mem_nil hmem
    · push Not at hevent
      have hkept : next.values key = r.values key := by
        by_cases hother : ∃ thread other value, event = .committed thread other value
        · obtain ⟨thread, other, value, rfl⟩ := hother
          obtain ⟨-, rfl⟩ := observe_committed hobserve
          have hne : key ≠ other := by
            rintro rfl
            exact hevent thread value rfl
          exact Function.update_of_ne hne _ _
        · push Not at hother
          rw [values_of_observe hother hobserve]
      rw [hkept]
      obtain ⟨hsame, hnone⟩ | ⟨thread, value, hvalue, hlast⟩ := h.value key
      · refine .inl ⟨hsame, fun thread value hmem => ?_⟩
        obtain hpast | hlast := List.mem_append.mp hmem
        · exact hnone thread value hpast
        · exact hevent thread value (List.mem_singleton.mp hlast).symm
      · exact .inr ⟨thread, value, hvalue, hlast.append hevent⟩

/-- **Last commit.** After an allowed sequence of events a register has the value of its last
commit, or the value it had when it was never written. -/
theorem recorded_of_follow {values : Key → Option Value} {r : Registers Thread Key Value}
    {events : List (RegisterEvent Thread Key Value Error)}
    (h : protocol.follow (atRest values) events = some r) : Recorded values events r := by
  have hinitial : Recorded values ([] : List (RegisterEvent Thread Key Value Error))
      (atRest values) := {
    calls := fun _ _ _ hcall => by cases hcall
    value := fun _ => .inl ⟨rfl, fun _ _ => List.not_mem_nil⟩ }
  exact Protocol.phase_invariant protocol
    (fun _ _ _ _ hrecorded hobserve => hrecorded.observe hobserve) hinitial h

end Registers

end TradeBot.Library
