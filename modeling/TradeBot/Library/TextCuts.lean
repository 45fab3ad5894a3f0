import Mathlib.Data.List.TakeDrop
import Mathlib.Data.List.TakeWhile
import TradeBot.Library.Bytes

/-!
# Cutting texts

A text cut at the first occurrence of a pattern, or at the first occurrence of one symbol.
-/

namespace TradeBot.Library

variable {α : Type*} [DecidableEq α]

/-- What stands before and after the first occurrence of a pattern. -/
def cutAtFirst (pattern : List α) : List α → Option (List α × List α)
  | [] => if pattern = [] then some ([], []) else none
  | c :: text =>
    if pattern.isPrefixOf (c :: text) then some ([], (c :: text).drop pattern.length)
    else (cutAtFirst pattern text).map fun (before, after) => (c :: before, after)

/-- A cut at the first occurrence of a pattern. -/
structure FirstCut (pattern text before after : List α) : Prop where
  text_eq : text = before ++ pattern ++ after
  first : ∀ before' after', text = before' ++ pattern ++ after' → before.length ≤ before'.length

omit [DecidableEq α] in
/-- There is one first cut. -/
theorem FirstCut.unique {pattern text before after before' after' : List α}
    (h : FirstCut pattern text before after) (h' : FirstCut pattern text before' after') :
    before = before' ∧ after = after' := by
  have hlength := Nat.le_antisymm (h.first _ _ h'.text_eq) (h'.first _ _ h.text_eq)
  have htexts := h.text_eq.symm.trans h'.text_eq
  rw [List.append_assoc, List.append_assoc] at htexts
  obtain ⟨hbefore, hrest⟩ := List.append_inj htexts hlength
  exact ⟨hbefore, List.append_cancel_left hrest⟩

/-- What is found is the first cut. -/
theorem cutAtFirst_eq_some {pattern text before after : List α}
    (h : cutAtFirst pattern text = some (before, after)) : FirstCut pattern text before after := by
  induction text generalizing before after with
  | nil =>
    rw [cutAtFirst] at h
    split at h
    · next hpattern =>
      cases h
      exact ⟨by rw [hpattern]; rfl, fun _ _ _ => Nat.zero_le _⟩
    · cases h
  | cons c text ih =>
    rw [cutAtFirst] at h
    split at h
    · next hbegins =>
      cases h
      refine ⟨?_, fun _ _ _ => Nat.zero_le _⟩
      obtain ⟨rest, hrest⟩ := List.isPrefixOf_iff_prefix.mp hbegins
      rw [← hrest, List.drop_left, List.nil_append]
    · next hbegins =>
      obtain ⟨⟨before, after⟩, hcut, heq⟩ := Option.map_eq_some_iff.mp h
      cases heq
      have hfirst := ih hcut
      refine ⟨by rw [hfirst.text_eq]; rfl, fun before' after' htext => ?_⟩
      cases before' with
      | nil =>
        rw [List.nil_append] at htext
        exact (hbegins (List.isPrefixOf_iff_prefix.mpr ⟨after', htext.symm⟩)).elim
      | cons c' before' =>
        injection htext with _ htext
        exact Nat.succ_le_succ (hfirst.first before' after' htext)

/-- Where nothing is found the pattern does not occur. -/
theorem cutAtFirst_eq_none {pattern text : List α} (h : cutAtFirst pattern text = none)
    (before after : List α) : text ≠ before ++ pattern ++ after := by
  induction text generalizing before with
  | nil =>
    rw [cutAtFirst] at h
    split at h
    · cases h
    · next hpattern =>
      intro htext
      rw [eq_comm, List.append_eq_nil_iff, List.append_eq_nil_iff] at htext
      exact hpattern htext.1.2
  | cons c text ih =>
    rw [cutAtFirst] at h
    split at h
    · cases h
    · next hbegins =>
      intro htext
      cases before with
      | nil =>
        rw [List.nil_append] at htext
        exact hbegins (List.isPrefixOf_iff_prefix.mpr ⟨after, htext.symm⟩)
      | cons c' before =>
        injection htext with _ htext
        exact ih (Option.map_eq_none_iff.mp h) before htext

/-- A cut is found exactly when it is the first one. -/
theorem cutAtFirst_eq_some_iff {pattern text before after : List α} :
    cutAtFirst pattern text = some (before, after) ↔ FirstCut pattern text before after := by
  constructor
  · exact cutAtFirst_eq_some
  · intro h
    cases hcut : cutAtFirst pattern text with
    | none => exact (cutAtFirst_eq_none hcut before after h.text_eq).elim
    | some cut =>
      obtain ⟨before', after'⟩ := cut
      obtain ⟨rfl, rfl⟩ := h.unique (cutAtFirst_eq_some hcut)
      rfl

/-- A text without the symbol is not cut. -/
theorem span_of_notMem {c : α} {text : List α} (h : c ∉ text) :
    text.span (· != c) = (text, []) := by
  have hall : ∀ d ∈ text, (d != c) = true := by
    intro d hd
    rw [bne_iff_ne]
    rintro rfl
    exact h hd
  rw [List.span_eq_takeWhile_dropWhile, List.takeWhile_eq_self_iff.mpr hall,
    List.dropWhile_eq_nil_iff.mpr hall]

/-- A text is cut before the first occurrence of the symbol. -/
theorem span_of_first {c : α} {before after : List α} (h : c ∉ before) :
    (before ++ c :: after).span (· != c) = (before, c :: after) := by
  have hall : ∀ d ∈ before, (d != c) = true := by
    intro d hd
    rw [bne_iff_ne]
    rintro rfl
    exact h hd
  rw [List.span_eq_takeWhile_dropWhile, List.takeWhile_append_of_pos hall,
    List.dropWhile_append_of_pos hall, List.takeWhile_cons_of_neg (by simp),
    List.dropWhile_cons_of_neg (by simp), List.append_nil]

/-- A text that is cut at a symbol, if it has the symbol. -/
theorem exists_span (c : α) (text : List α) :
    (c ∉ text ∧ text.span (· != c) = (text, [])) ∨
      ∃ before after, c ∉ before ∧ text = before ++ c :: after ∧
        text.span (· != c) = (before, c :: after) := by
  by_cases h : c ∈ text
  · obtain ⟨before, after, rfl, hfirst⟩ := List.eq_append_cons_of_mem h
    exact Or.inr ⟨before, after, hfirst, rfl, span_of_first hfirst⟩
  · exact Or.inl ⟨h, span_of_notMem h⟩

omit [DecidableEq α] in
/-- A run of symbols up to one that stops it. -/
theorem whileOf_append {p : α → Bool} {xs rest : List α} (hall : ∀ c ∈ xs, p c = true)
    (hstop : ∀ c ∈ rest.head?, p c = false) :
    (xs ++ rest).takeWhile p = xs ∧ (xs ++ rest).dropWhile p = rest := by
  rw [List.takeWhile_append_of_pos hall, List.dropWhile_append_of_pos hall]
  cases rest with
  | nil => exact ⟨List.append_nil xs, rfl⟩
  | cons c rest =>
    have hc : ¬p c = true := by
      rw [hstop c rfl]
      exact Bool.false_ne_true
    rw [List.takeWhile_cons_of_neg hc, List.dropWhile_cons_of_neg hc, List.append_nil]
    exact ⟨rfl, rfl⟩

omit [DecidableEq α] in
/-- What is left after dropping starts with something that is not dropped. -/
theorem head?_dropWhile_stops (p : α → Bool) (text : List α) :
    ∀ c ∈ (text.dropWhile p).head?, p c = false := by
  intro c hc
  have hstop := List.head?_dropWhile_not p text
  rw [Option.mem_def.mp hc] at hstop
  exact hstop

end TradeBot.Library
