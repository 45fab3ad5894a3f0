import Mathlib.Data.List.Basic
import Mathlib.Tactic.Common

/-!
# Computations that may fail

Rules for `Except` with any type of errors: when a sequence or a loop over a list returns,
and what a loop with an accumulator that returned has run.
-/

namespace TradeBot.Library

universe u v

variable {ε : Type u} {α β : Type v}

/-- A sequenced computation returns when both parts do. -/
@[simp] theorem bind_eq_ok {x : Except ε α} {f : α → Except ε β} {b : β} :
    (x >>= f) = .ok b ↔ ∃ a, x = .ok a ∧ f a = .ok b := by
  cases x with
  | error e =>
    constructor
    · intro h
      cases h
    · rintro ⟨a, ha, -⟩
      cases ha
  | ok a =>
    constructor
    · intro h
      exact ⟨a, rfl, h⟩
    · rintro ⟨a', ha, h⟩
      cases ha
      exact h

/-- A computation that returned is followed by the next one. -/
theorem ok_bind (a : α) (f : α → Except ε β) : (Except.ok a >>= f) = f a := rfl

/-- A plain value is returned. -/
@[simp] theorem pure_eq_ok {a b : α} : (pure a : Except ε α) = .ok b ↔ a = b :=
  Except.ok.injEq a b ▸ Iff.rfl

/-- Renaming errors leaves what is returned. -/
@[simp] theorem mapError_eq_ok {ε' : Type*} {x : Except ε α} {f : ε → ε'} {a : α} :
    x.mapError f = .ok a ↔ x = .ok a := by
  cases x with
  | error e =>
    constructor <;> intro h <;> cases h
  | ok b =>
    change Except.ok b = Except.ok a ↔ _
    rw [Except.ok.injEq, Except.ok.injEq]

/-- The computation returns, with a result that the test accepts. -/
def returnsAnd (test : α → Bool) : Except ε α → Bool
  | .ok a => test a
  | .error _ => false

/-- A result that passes a test was returned. -/
theorem returnsAnd_eq_true {test : α → Bool} {x : Except ε α} :
    returnsAnd test x = true ↔ ∃ a, x = .ok a ∧ test a = true := by
  cases x with
  | error e => simp [returnsAnd]
  | ok a => simp [returnsAnd]

/-- A loop over a list returns when its body returns for every entry. -/
theorem forM_eq_ok {ι : Type*} {xs : List ι} {body : ι → Except ε Unit} {u : Unit} :
    xs.forM body = .ok u ↔ ∀ x ∈ xs, body x = .ok () := by
  induction xs with
  | nil =>
    constructor
    · intro _ x hx
      cases hx
    · intro _
      rfl
  | cons x xs ih =>
    rw [List.forall_mem_cons]
    change (body x >>= fun _ => xs.forM body) = .ok u ↔ _
    rw [bind_eq_ok]
    constructor
    · rintro ⟨_, hx, hxs⟩
      exact ⟨hx, ih.mp hxs⟩
    · rintro ⟨hx, hxs⟩
      exact ⟨(), hx, ih.mpr hxs⟩

/-- A loop that returns ran its body for every entry. -/
theorem body_eq_ok_of_foldlM {body : β → α → Except ε β} {xs : List α} {b c : β}
    (h : xs.foldlM body b = .ok c) : ∀ x ∈ xs, ∃ b c, body b x = .ok c := by
  induction xs generalizing b with
  | nil =>
    intro x hx
    cases hx
  | cons x xs ih =>
    rw [List.foldlM_cons, bind_eq_ok] at h
    obtain ⟨next, hx, hxs⟩ := h
    rw [List.forall_mem_cons]
    exact ⟨⟨b, next, hx⟩, ih hxs⟩

/-- A loop that returned has the result of the plain loop, when each turn that returns does what
the plain step does. -/
theorem eq_foldl_of_foldlM {body : β → α → Except ε β} {step : β → α → β}
    (hstep : ∀ b x c, body b x = .ok c → c = step b x) {xs : List α} {b c : β}
    (h : xs.foldlM body b = .ok c) : c = xs.foldl step b := by
  induction xs generalizing b with
  | nil =>
    rw [List.foldlM_nil, pure_eq_ok] at h
    exact h.symm
  | cons x xs ih =>
    rw [List.foldlM_cons, bind_eq_ok] at h
    obtain ⟨next, hx, hxs⟩ := h
    rw [List.foldl_cons, ← hstep b x next hx]
    exact ih hxs

end TradeBot.Library
