import Mathlib.Data.List.Basic
import Mathlib.Tactic.Common

/-!
# Searching quoted text

A text whose pieces are separated by quotes, and a search for a quoted key in it. As
neither the key nor the pieces hold a quote, the search finds the first piece that is the
key and has a quote on both sides.
-/

namespace TradeBot.Library

universe u

section Quotes

variable {α : Type u}

/-- The pattern of a quoted key. -/
def marker (quote : α) (key : List α) : List α := quote :: (key ++ [quote])

/-- The text of pieces that are separated by quotes. -/
def joined (quote : α) : List (List α) → List α
  | [] => []
  | [piece] => piece
  | piece :: next :: pieces => piece ++ quote :: joined quote (next :: pieces)

/-- A quoted key is in front of a quoted piece only if the piece is the key. -/
theorem marker_prefix_iff {quote : α} {key piece rest : List α} (hkey : quote ∉ key)
    (hpiece : quote ∉ piece) :
    marker quote key <+: quote :: (piece ++ quote :: rest) ↔ piece = key := by
  rw [marker, List.cons_prefix_cons, and_iff_right rfl]
  induction key generalizing piece with
  | nil =>
    cases piece with
    | nil => simp
    | cons c piece =>
      rw [List.mem_cons, not_or] at hpiece
      simp [hpiece.1]
  | cons k key ih =>
    rw [List.mem_cons, not_or] at hkey
    cases piece with
    | nil => simp [Ne.symm hkey.1]
    | cons c piece =>
      rw [List.mem_cons, not_or] at hpiece
      rw [List.cons_append, List.cons_append, List.cons_prefix_cons, ih hkey.2 hpiece.2,
        List.cons.injEq, eq_comm]

end Quotes

section Search

variable {α : Type u} [DecidableEq α]

/-- What follows the first occurrence of a pattern. -/
def after (pattern : List α) : List α → Option (List α)
  | [] => if pattern = [] then some [] else none
  | c :: text =>
    if pattern <+: c :: text then some ((c :: text).drop pattern.length)
    else after pattern text

/-- The pieces after the first one that is the key and stands between two others. -/
def afterKey (key : List α) : List (List α) → Option (List (List α))
  | _ :: piece :: next :: pieces =>
    if piece = key then some (next :: pieces) else afterKey key (piece :: next :: pieces)
  | _ => none

/-- A search for a pattern passes over what does not hold its first symbol. -/
theorem after_append {c : α} {pattern text rest : List α} (h : c ∉ text) :
    after (c :: pattern) (text ++ rest) = after (c :: pattern) rest := by
  induction text with
  | nil => rfl
  | cons d text ih =>
    rw [List.mem_cons, not_or] at h
    have hfront : ¬c :: pattern <+: d :: (text ++ rest) := fun hfront =>
      h.1 (List.cons_prefix_cons.mp hfront).1
    rw [List.cons_append, after, if_neg hfront, ih h.2]

/-- A pattern does not occur where its first character does not. -/
theorem after_of_notMem {c : α} {pattern text : List α} (h : c ∉ text) :
    after (c :: pattern) text = none := by
  rw [← List.append_nil text, after_append h]
  rfl

/-- A key between the quotes of a text is found as a piece. -/
theorem after_joined {quote : α} {key : List α} {pieces : List (List α)} (hkey : quote ∉ key)
    (hpieces : ∀ piece ∈ pieces, quote ∉ piece) :
    after (marker quote key) (joined quote pieces) =
      (afterKey key pieces).map (joined quote) := by
  induction pieces with
  | nil => rfl
  | cons first pieces ih =>
    rw [List.forall_mem_cons] at hpieces
    have hrest := ih hpieces.2
    cases pieces with
    | nil => exact after_of_notMem hpieces.1
    | cons piece pieces =>
      have hpiece := hpieces.2 piece List.mem_cons_self
      rw [joined, marker, after_append hpieces.1, after, ← marker]
      cases pieces with
      | nil =>
        have hfront : ¬marker quote key <+: quote :: joined quote [piece] := by
          rw [marker, List.cons_prefix_cons, not_and]
          intro _ h
          exact hpiece (h.subset (List.mem_append_right key List.mem_cons_self))
        rw [if_neg hfront]
        exact after_of_notMem hpiece
      | cons next pieces =>
        have hfront : marker quote key <+: quote :: joined quote (piece :: next :: pieces) ↔
            piece = key := marker_prefix_iff hkey hpiece
        rw [afterKey]
        by_cases heq : piece = key
        · rw [if_pos (hfront.mpr heq), if_pos heq, heq]
          simp [marker, joined]
        · rw [if_neg (mt hfront.mp heq), if_neg heq]
          exact hrest

end Search

end TradeBot.Library
