import Mathlib.Data.List.TakeWhile
import Mathlib.Order.Basic

/-!
# Sliding windows over a clock

A queue of clock readings evicts expired entries from its front, and only when a new entry is
added. When readings never go back and older entries expire first, the queue is a suffix of
everything that was added, and what it has evicted stays expired. So a reader that skips the
expired entries of the queue sees the same as one that looks through everything.
-/

namespace TradeBot.Library

/-- Dropping the front as long as a test holds is filtering, when the test holds of everything
before an entry of which it holds. -/
theorem dropWhile_eq_filter {α : Type*} {test : α → Bool} {xs : List α}
    (h : xs.Pairwise fun x y => test y = true → test x = true) :
    xs.dropWhile test = xs.filter fun x => !test x := by
  induction xs with
  | nil => rfl
  | cons x xs ih =>
    obtain ⟨hhead, htail⟩ := List.pairwise_cons.mp h
    cases hx : test x with
    | true =>
      rw [List.dropWhile_cons_of_pos hx, ih htail, List.filter_cons_of_neg (by rw [hx]; simp)]
    | false =>
      have hrest : xs.filter (fun x => !test x) = xs := by
        rw [List.filter_eq_self]
        intro y hy
        by_contra hexpired
        have hy := hhead y hy (by simpa using hexpired)
        rw [hx] at hy
        cases hy
      rw [List.dropWhile_cons_of_neg (by rw [hx]; simp), List.filter_cons_of_pos (by rw [hx]; rfl),
        hrest]

/-- When an entry has expired at a reading: older entries expire first, and an expired entry
stays expired. -/
structure Expiry {τ : Type*} [LE τ] (expired : τ → τ → Bool) : Prop where
  older : ∀ {now t t'}, t ≤ t' → expired now t' = true → expired now t = true
  later : ∀ {now now' t}, now ≤ now' → expired now t = true → expired now' t = true

/-- The queue after an entry was added at a reading. -/
def admitted {τ : Type*} (expired : τ → τ → Bool) (kept : List τ) (now : τ) : List τ :=
  (kept ++ [now]).dropWhile (expired now)

/-- What a queue holds of everything that was added: it lacks a front part, whose entries had
expired at some entry. -/
def HoldsWindow {τ : Type*} (expired : τ → τ → Bool) (added kept : List τ) : Prop :=
  ∃ evicted, added = evicted ++ kept ∧ ∀ t ∈ evicted, ∃ now ∈ added, expired now t = true

/-- An empty window holds nothing. -/
theorem holdsWindow_nil {τ : Type*} {expired : τ → τ → Bool} : HoldsWindow expired [] [] :=
  ⟨[], rfl, fun _ h => absurd h List.not_mem_nil⟩

/-- Adding an entry evicts a front part of the queue. -/
theorem HoldsWindow.admit {τ : Type*} {expired : τ → τ → Bool} {added kept : List τ} {now : τ}
    (h : HoldsWindow expired added kept) :
    HoldsWindow expired (added ++ [now]) (admitted expired kept now) := by
  obtain ⟨evicted, rfl, hevicted⟩ := h
  refine ⟨evicted ++ (kept ++ [now]).takeWhile (expired now), ?_, ?_⟩
  · rw [admitted, List.append_assoc, List.append_assoc, List.takeWhile_append_dropWhile]
  · intro t ht
    rcases List.mem_append.mp ht with hold | hfront
    · obtain ⟨reading, hreading, hexpired⟩ := hevicted t hold
      exact ⟨reading, List.mem_append_left _ hreading, hexpired⟩
    · exact ⟨now, List.mem_append_right _ (List.mem_singleton_self now),
        List.mem_takeWhile_imp hfront⟩

variable {τ : Type*} [Preorder τ] {expired : τ → τ → Bool} {added kept : List τ} {now : τ}

/-- At a reading that is not before any entry, the queue holds every entry that has not
expired. -/
theorem HoldsWindow.filter_eq (h : HoldsWindow expired added kept) (hexpiry : Expiry expired)
    (hnow : ∀ t ∈ added, t ≤ now) :
    (added.filter fun t => !expired now t) = kept.filter fun t => !expired now t := by
  obtain ⟨evicted, rfl, hevicted⟩ := h
  rw [List.filter_append, List.filter_eq_nil_iff.mpr, List.nil_append]
  intro t ht
  obtain ⟨reading, hreading, hexpired⟩ := hevicted t ht
  rw [hexpiry.later (hnow reading hreading) hexpired]
  simp

/-- After an entry was added the queue holds exactly the entries that have not expired. -/
theorem HoldsWindow.admitted_eq (h : HoldsWindow expired added kept) (hexpiry : Expiry expired)
    (hsorted : (added ++ [now]).Pairwise (· ≤ ·)) :
    admitted expired kept now = (added ++ [now]).filter fun t => !expired now t := by
  have hnow : ∀ t ∈ added, t ≤ now := by
    intro t ht
    exact (List.pairwise_append.mp hsorted).2.2 t ht now (List.mem_singleton_self now)
  have hkept : (kept ++ [now]).Pairwise (· ≤ ·) := by
    obtain ⟨evicted, rfl, -⟩ := h
    rw [List.append_assoc] at hsorted
    exact (List.pairwise_append.mp hsorted).2.1
  rw [admitted, dropWhile_eq_filter (hkept.imp hexpiry.older), List.filter_append,
    List.filter_append, h.filter_eq hexpiry hnow]

end TradeBot.Library
