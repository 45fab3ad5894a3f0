import Mathlib.Data.List.Induction
import Mathlib.Data.Nat.Notation

/-!
# Counting the matches of a list

A scan that keeps the last match and counts the matches. Where it counts one, the list has
exactly one match, and the scan has kept it.
-/

namespace TradeBot.Library

variable {α β : Type*}

/-- One element of the scan. -/
def matchStep (select : α → Option β) (found : β × ℕ) (x : α) : β × ℕ :=
  match select x with
  | some b => (b, found.2 + 1)
  | none => found

/-- The last match of a list, or a default, and the number of matches. -/
def lastMatch (select : α → Option β) (default : β) (xs : List α) : β × ℕ :=
  xs.foldl (matchStep select) (default, 0)

/-- One more element is one more step. -/
theorem lastMatch_concat (select : α → Option β) (default : β) (xs : List α) (x : α) :
    lastMatch select default (xs ++ [x]) = matchStep select (lastMatch select default xs) x := by
  unfold lastMatch
  rw [List.foldl_append, List.foldl_cons, List.foldl_nil]

/-- The matches are counted. -/
theorem lastMatch_snd (select : α → Option β) (default : β) (xs : List α) :
    (lastMatch select default xs).2 = (xs.filterMap select).length := by
  induction xs using List.reverseRecOn with
  | nil => rfl
  | append_singleton xs x ih =>
    rw [lastMatch_concat, List.filterMap_append, List.length_append, ← ih]
    unfold matchStep
    cases hx : select x <;> simp [hx]

/-- One match is counted exactly when the list has one match, which is then the one kept. -/
theorem filterMap_eq_singleton {select : α → Option β} {default : β} {xs : List α}
    (h : (lastMatch select default xs).2 = 1) :
    xs.filterMap select = [(lastMatch select default xs).1] := by
  induction xs using List.reverseRecOn with
  | nil => cases h
  | append_singleton xs x ih =>
    rw [lastMatch_concat] at h ⊢
    rw [List.filterMap_append]
    unfold matchStep at h ⊢
    cases hx : select x with
    | none =>
      rw [hx] at h
      rw [List.filterMap_cons_none hx, List.filterMap_nil, List.append_nil]
      exact ih h
    | some b =>
      rw [hx] at h
      have hnone : xs.filterMap select = [] := by
        apply List.eq_nil_of_length_eq_zero
        rw [← lastMatch_snd select default xs]
        exact Nat.succ.inj h
      rw [hnone, List.filterMap_cons_some hx, List.filterMap_nil, List.nil_append]

/-- A list whose matches are one value has one matching element. -/
theorem filter_eq_singleton {select : α → Option β} {xs : List α} {b : β}
    (h : xs.filterMap select = [b]) :
    ∃ x, xs.filter (fun x => (select x).isSome) = [x] ∧ select x = some b := by
  induction xs with
  | nil => cases h
  | cons y xs ih =>
    cases hy : select y with
    | none =>
      rw [List.filterMap_cons_none hy] at h
      rw [List.filter_cons_of_neg (by rw [hy]; exact Bool.false_ne_true)]
      exact ih h
    | some c =>
      rw [List.filterMap_cons_some hy] at h
      injection h with hc hnone
      subst hc
      refine ⟨y, ?_, hy⟩
      rw [List.filter_cons_of_pos (by rw [hy]; rfl), List.filter_eq_nil_iff.mpr]
      intro x hx
      rw [List.filterMap_eq_nil_iff] at hnone
      rw [hnone x hx]
      exact Bool.false_ne_true

/-- The only match is the first one. -/
theorem findSome_eq_some {select : α → Option β} {xs : List α} {b : β}
    (h : xs.filterMap select = [b]) : xs.findSome? select = some b := by
  rw [← List.head?_filterMap, h, List.head?_cons]

/-- A test that holds of an option holds of its value. -/
theorem exists_of_any {x : Option α} {p : α → Bool} (h : x.any p = true) :
    ∃ a, x = some a ∧ p a = true := by
  cases x with
  | none => cases h
  | some a => exact ⟨a, rfl, h⟩

end TradeBot.Library
