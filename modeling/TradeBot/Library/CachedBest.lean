import Mathlib.Data.Int.Order.Basic
import Mathlib.Tactic.Common

/-!
# The best slot of a row

Some slots of a row are marked, and a rank orders them. The number of the best marked slot is
kept beside the row, with -1 where none is marked. The rules here say how it follows marks that
are set and cleared, and that a scan of the row finds it.
-/

namespace TradeBot.Library

variable {n : ℕ} {rank : ℤ → ℤ} {marked marked' : Fin n → Prop} {best : ℤ}

/-- The number is that of a marked slot of highest rank, or -1 where no slot is marked. -/
def IsBest (rank : ℤ → ℤ) (marked : Fin n → Prop) (best : ℤ) : Prop :=
  (best = -1 ∧ ∀ i, ¬marked i) ∨
    ∃ i : Fin n, best = (i : ℕ) ∧ marked i ∧ ∀ j : Fin n, marked j → rank (j : ℕ) ≤ rank (i : ℕ)

section Marks

/-- The best index is one of the array, or -1. -/
theorem IsBest.range (h : IsBest rank marked best) : -1 ≤ best ∧ best < n := by
  rcases h with ⟨rfl, -⟩ | ⟨i, rfl, -, -⟩ <;> omega

/-- Only a row without marks has no best slot. -/
theorem IsBest.unmarked (h : IsBest rank marked best) (hneg : best < 0) (i : Fin n) :
    ¬marked i := by
  rcases h with ⟨-, hnone⟩ | ⟨j, rfl, -, -⟩
  · exact hnone i
  · omega

/-- A row with the same marks has the same best slot. -/
theorem IsBest.congr (h : IsBest rank marked best) (hsame : ∀ i, marked' i ↔ marked i) :
    IsBest rank marked' best := by
  have heq : marked' = marked := funext fun i => propext (hsame i)
  rwa [heq]

/-- A mark that is set is the best one exactly when it ranks above the best one before. -/
theorem IsBest.mark (h : IsBest rank marked best) {k : Fin n} (hk : marked' k)
    (hothers : ∀ i, i ≠ k → (marked' i ↔ marked i)) :
    IsBest rank marked' (if best < 0 ∨ rank best < rank (k : ℕ) then ((k : ℕ) : ℤ) else best) := by
  right
  by_cases hnew : best < 0 ∨ rank best < rank (k : ℕ)
  · rw [if_pos hnew]
    refine ⟨k, rfl, hk, fun j hj => ?_⟩
    by_cases hjk : j = k
    · rw [hjk]
    · have hmarked := (hothers j hjk).mp hj
      rcases h with ⟨-, hnone⟩ | ⟨i, rfl, -, hbest⟩
      · exact absurd hmarked (hnone j)
      · have hle := hbest j hmarked
        omega
  · rw [if_neg hnew]
    push Not at hnew
    rcases h with ⟨rfl, -⟩ | ⟨i, rfl, hi, hbest⟩
    · omega
    · have hi' : marked' i := by
        by_cases hik : i = k
        · rwa [hik]
        · exact (hothers i hik).mpr hi
      refine ⟨i, rfl, hi', fun j hj => ?_⟩
      by_cases hjk : j = k
      · rw [hjk]
        exact hnew.2
      · exact hbest j ((hothers j hjk).mp hj)

/-- A mark that is cleared and was not the best one leaves the best one. -/
theorem IsBest.clear (h : IsBest rank marked best) {k : ℤ} (hk : best ≠ k)
    (hcleared : ∀ i : Fin n, marked' i ↔ marked i ∧ ((i : ℕ) : ℤ) ≠ k) :
    IsBest rank marked' best := by
  rcases h with ⟨rfl, hnone⟩ | ⟨i, rfl, hi, hbest⟩
  · exact .inl ⟨rfl, fun i hi => hnone i ((hcleared i).mp hi).1⟩
  · exact .inr ⟨i, rfl, (hcleared i).mpr ⟨hi, hk⟩, fun j hj => hbest j ((hcleared j).mp hj).1⟩

/-- After the best mark is cleared, the best one is to be found among those that do not rank
above it. -/
theorem IsBest.rescan (h : IsBest rank marked best) (hcleared : ∀ i : Fin n, marked' i → marked i)
    {found : ℤ}
    (hfound : IsBest rank (fun i => rank (i : ℕ) ≤ rank best ∧ marked' i) found) :
    IsBest rank marked' found := by
  refine hfound.congr fun i => ⟨fun hi => ⟨?_, hi⟩, And.right⟩
  rcases h with ⟨-, hnone⟩ | ⟨k, rfl, -, hbest⟩
  · exact absurd (hcleared i hi) (hnone i)
  · exact hbest i (hcleared i hi)

/-- **Replacing the best mark.** The mark that replaces the best one is itself the best exactly
when no other mark ranks above it. -/
theorem isBest_replace_iff {best : ℤ} {k : Fin n} (hk : marked' k)
    (hothers : ∀ i, i ≠ k → (marked' i ↔ marked i ∧ ((i : ℕ) : ℤ) ≠ best)) :
    IsBest rank marked' (k : ℕ) ↔
      ∀ i, marked i → ((i : ℕ) : ℤ) ≠ best → ¬rank (k : ℕ) < rank (i : ℕ) := by
  constructor
  · intro h i hi hne habove
    rcases h with ⟨hneg, -⟩ | ⟨j, hj, -, hbest⟩
    · omega
    · have hik : i ≠ k := by
        rintro rfl
        exact lt_irrefl _ habove
      have hle := hbest i ((hothers i hik).mpr ⟨hi, hne⟩)
      rw [← hj] at hle
      omega
  · intro hnone
    refine .inr ⟨k, rfl, hk, fun j hj => ?_⟩
    by_cases hjk : j = k
    · rw [hjk]
    · obtain ⟨hmarked, hne⟩ := (hothers j hjk).mp hj
      exact not_lt.mp (hnone j hmarked hne)

end Marks

section Scans

/-- The last marked slot below a start, scanning downwards. -/
def lastBelow (marked : Fin n → Prop) [DecidablePred marked] : (start : ℕ) → start ≤ n → ℤ
  | 0, _ => -1
  | i + 1, h => if marked ⟨i, h⟩ then (i : ℤ) else lastBelow marked i (Nat.le_of_succ_le h)

/-- The first marked slot among the last `count`, scanning upwards. -/
def firstAmongLast (marked : Fin n → Prop) [DecidablePred marked] : (count : ℕ) → count ≤ n → ℤ
  | 0, _ => -1
  | count + 1, h =>
    if marked ⟨n - (count + 1), by omega⟩ then ((n - (count + 1) : ℕ) : ℤ)
    else firstAmongLast marked count (Nat.le_of_succ_le h)

/-- A search downwards finds the last marked index below its start. -/
theorem lastBelow_isBest [DecidablePred marked] (start : ℕ) (hstart : start ≤ n) :
    IsBest id (fun i => (i : ℕ) < start ∧ marked i) (lastBelow marked start hstart) := by
  induction start with
  | zero => exact .inl ⟨rfl, fun i hi => by omega⟩
  | succ start ih =>
    unfold lastBelow
    split
    · next hmarked =>
      refine .inr ⟨⟨start, hstart⟩, rfl, ⟨Nat.lt_succ_self start, hmarked⟩, fun j hj => ?_⟩
      have hlt := hj.1
      dsimp only [id]
      omega
    · next hmarked =>
      refine (ih (Nat.le_of_succ_le hstart)).congr fun i => and_congr_left fun hi => ?_
      have hne : (i : ℕ) ≠ start := by
        rintro rfl
        exact hmarked hi
      omega

/-- A search upwards finds the first marked index among the last ones. -/
theorem firstAmongLast_isBest [DecidablePred marked] (count : ℕ) (hcount : count ≤ n) :
    IsBest (- ·) (fun i => n - count ≤ (i : ℕ) ∧ marked i)
      (firstAmongLast marked count hcount) := by
  induction count with
  | zero => exact .inl ⟨rfl, fun i hi => by omega⟩
  | succ count ih =>
    unfold firstAmongLast
    split
    · next hmarked =>
      refine .inr ⟨⟨n - (count + 1), by omega⟩, rfl, ⟨Nat.le_refl _, hmarked⟩, fun j hj => ?_⟩
      have hle := hj.1
      dsimp only
      omega
    · next hmarked =>
      refine (ih (Nat.le_of_succ_le hcount)).congr fun i => and_congr_left fun hi => ?_
      have hne : (i : ℕ) ≠ n - (count + 1) := by
        intro heq
        apply hmarked
        have hfin : (⟨n - (count + 1), by omega⟩ : Fin n) = i := Fin.ext heq.symm
        rwa [hfin]
      omega

end Scans

end TradeBot.Library
