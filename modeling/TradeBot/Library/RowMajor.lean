import Mathlib.Data.List.Basic
import Mathlib.Tactic.Common

/-!
# Matrices in row-major order

A matrix over a list of rows and a list of columns is kept as one list, row by row. What a
loop over indices reads of it is what a loop over the rows and columns themselves computes.
-/

namespace TradeBot.Library

variable {α β γ : Type*}

/-- The entries of a matrix, row by row. -/
def rowMajor (entry : α → β → γ) (rows : List α) (columns : List β) : List γ :=
  rows.flatMap fun row => columns.map (entry row)

/-- No rows have no entries. -/
@[simp] theorem rowMajor_nil (entry : α → β → γ) (columns : List β) :
    rowMajor entry [] columns = [] := rfl

/-- The entries of the first row come first. -/
@[simp] theorem rowMajor_cons (entry : α → β → γ) (row : α) (rows : List α)
    (columns : List β) :
    rowMajor entry (row :: rows) columns =
      columns.map (entry row) ++ rowMajor entry rows columns := rfl

/-- The entry of a row and a column. -/
theorem getElem?_rowMajor (entry : α → β → γ) {rows : List α} {columns : List β} {i j : ℕ}
    {row : α} {column : β} (hrow : rows[i]? = some row) (hcolumn : columns[j]? = some column) :
    (rowMajor entry rows columns)[i * columns.length + j]? = some (entry row column) := by
  obtain ⟨hj, hget⟩ := List.getElem?_eq_some_iff.mp hcolumn
  induction rows generalizing i with
  | nil => simp at hrow
  | cons first rows ih =>
    rw [rowMajor_cons]
    cases i with
    | zero =>
      rw [List.getElem?_cons_zero, Option.some_inj] at hrow
      rw [Nat.zero_mul, Nat.zero_add, List.getElem?_append_left (by rwa [List.length_map]),
        List.getElem?_map, hcolumn, Option.map_some, hrow]
    | succ i =>
      rw [List.getElem?_cons_succ] at hrow
      have hle : columns.length ≤ (i + 1) * columns.length + j := by
        rw [Nat.succ_mul]
        omega
      have hsub : (i + 1) * columns.length + j - columns.length = i * columns.length + j := by
        rw [Nat.succ_mul]
        omega
      rw [List.getElem?_append_right (by rwa [List.length_map]), List.length_map, hsub, ih hrow]

/-- A matrix with a row is not empty when there are columns. -/
theorem rowMajor_ne_nil (entry : α → β → γ) {rows : List α} {columns : List β}
    (hrows : rows ≠ []) (hcolumns : columns ≠ []) : rowMajor entry rows columns ≠ [] := by
  obtain ⟨row, rest, rfl⟩ := List.exists_cons_of_ne_nil hrows
  rw [rowMajor_cons]
  intro hnil
  exact hcolumns (List.map_eq_nil_iff.mp (List.append_eq_nil_iff.mp hnil).1)

/-- A loop over the indices of a list that reads its elements. -/
theorem map_range_length {f : ℕ → β} {g : α → β} {l : List α}
    (h : ∀ i x, l[i]? = some x → f i = g x) : (List.range l.length).map f = l.map g := by
  apply List.ext_getElem
  · rw [List.length_map, List.length_map, List.length_range]
  · intro i _ hi
    rw [List.length_map] at hi
    rw [List.getElem_map, List.getElem_map, List.getElem_range]
    exact h i l[i] (List.getElem?_eq_getElem hi)

/-- A matrix that two nested loops over indices compute from the elements at them. -/
theorem rowMajor_range {entry : ℕ → ℕ → γ} {f : α → β → γ} {rows : List α} {columns : List β}
    (h : ∀ i j row column, rows[i]? = some row → columns[j]? = some column →
      entry i j = f row column) :
    rowMajor entry (List.range rows.length) (List.range columns.length) =
      rowMajor f rows columns := by
  unfold rowMajor
  rw [List.flatMap_def, List.flatMap_def]
  congr 1
  apply map_range_length
  intro i row hrow
  exact map_range_length fun j column hcolumn => h i j row column hrow hcolumn

end TradeBot.Library
