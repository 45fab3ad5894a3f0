import Mathlib.Data.List.Basic
import Mathlib.Logic.Function.Basic
import Mathlib.Tactic.Common

/-!
# Checksums of one pass

A checksum that folds the symbols of a text into a state. Where each step loses nothing of the
state and nothing of the symbol, a text in which one symbol was replaced has another checksum.
-/

namespace TradeBot.Library

variable {σ α : Type*} {step : σ → α → σ}

/-- A step from which the state can be told, given the symbol, and the symbol, given the state. -/
structure Lossless (step : σ → α → σ) : Prop where
  state : ∀ a, Function.Injective fun s => step s a
  symbol : ∀ s, Function.Injective (step s)

/-- A lossless checksum of one text depends on all of its start value. -/
theorem Lossless.foldl_injective (h : Lossless step) (text : List α) :
    Function.Injective fun s => text.foldl step s := by
  induction text with
  | nil => exact Function.injective_id
  | cons a text ih => exact ih.comp (h.state a)

/-- **One changed symbol.** Texts that differ in one symbol have different checksums. -/
theorem Lossless.foldl_replaced_iff (h : Lossless step) (before after : List α) (a b : α)
    (s : σ) :
    (before ++ a :: after).foldl step s = (before ++ b :: after).foldl step s ↔ a = b := by
  rw [List.foldl_append, List.foldl_append, List.foldl_cons, List.foldl_cons]
  constructor
  · intro heq
    exact h.symbol _ (h.foldl_injective after heq)
  · rintro rfl
    rfl

section Fields

/-- Two fields after a symbol of both was replaced: it was one of the first or of the second. -/
theorem set_append_eq_iff {first second first' second' : List α} {i : ℕ} {a : α}
    (hlength : first'.length = first.length) :
    (first ++ second).set i a = first' ++ second' ↔
      if i < first.length then first.set i a = first' ∧ second = second'
      else first = first' ∧ second.set (i - first.length) a = second' := by
  rw [List.set_append]
  split
  · exact ⟨fun h => List.append_inj h (by rw [List.length_set, hlength]), fun h => by rw [h.1, h.2]⟩
  · exact ⟨fun h => List.append_inj h hlength.symm, fun h => by rw [h.2, h.1]⟩

/-- A replaced symbol is another one only if the text is. -/
theorem ne_of_set_eq {text : List α} {i : ℕ} (hi : i < text.length) {a : α}
    (ha : a ≠ text[i]) : text.set i a ≠ text := by
  intro heq
  apply ha
  have hget := List.getElem_set_self (a := a) (by rwa [List.length_set])
  simp only [heq] at hget
  exact hget.symm

end Fields

end TradeBot.Library
