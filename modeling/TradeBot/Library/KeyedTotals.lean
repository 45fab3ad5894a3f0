import Mathlib.Data.Finmap
import Mathlib.Data.List.AList
import Mathlib.Algebra.BigOperators.Finsupp.Basic
import Mathlib.Algebra.BigOperators.Group.List.Basic
import Mathlib.Tactic.Abel

/-!
# Totals over keyed collections

A map with unique keys carries a total of any quantity of its entries. The rules
say how the total moves when an entry is added, removed or overwritten, so that
bookkeeping over a map reduces to arithmetic on the entry that changed.
-/

namespace TradeBot.Library

variable {κ α : Type*}

/-- A finite map without a dependent value type. -/
abbrev KeyedMap (κ α : Type*) := AList fun _ : κ => α

namespace KeyedMap

variable {A : Type*} [AddCommMonoid A] (f : κ → α → A) (m : KeyedMap κ α)

/-- The total of a quantity over the entries of a map. -/
def total : A := (m.entries.map fun e => f e.1 e.2).sum

/-- A total of ones counts the entries. -/
theorem total_one : total (fun _ _ => (1 : ℤ)) m = m.entries.length := by
  rw [total, List.map_const', List.sum_replicate, nsmul_one]

/-- The total of nothing is zero. -/
@[simp] theorem total_empty : total f (∅ : KeyedMap κ α) = 0 := rfl

/-- An additive map of a total is the total of its images. -/
theorem map_total {B : Type*} [AddCommMonoid B] (φ : A →+ B) :
    φ (total f m) = total (fun k v => φ (f k v)) m := by
  rw [total, map_list_sum, List.map_map]
  rfl

variable [DecidableEq κ]

/-- Writing an entry adds its quantity to the total of the other entries. -/
theorem total_insert (k : κ) (v : α) :
    total f (m.insert k v) = f k v + total f (m.erase k) := by
  simp only [total, AList.entries_insert, List.map_cons, List.sum_cons, AList.erase]

/-- A new entry adds its quantity to the total. -/
theorem total_insert_of_notMem {m : KeyedMap κ α} {k : κ} (hk : k ∉ m) (v : α) :
    total f (m.insert k v) = f k v + total f m := by
  simp only [total, AList.entries_insert_of_notMem hk, List.map_cons, List.sum_cons]

omit [AddCommMonoid A] in
/-- The entries of a key and all others are the entries. -/
private theorem perm_cons_kerase {k : κ} {v : α} {entries : List (Sigma fun _ : κ => α)}
    (hv : entries.dlookup k = some v) : entries.Perm (⟨k, v⟩ :: entries.kerase k) := by
  induction entries with
  | nil => cases hv
  | cons e entries ih =>
    obtain ⟨k', v'⟩ := e
    by_cases hk : k = k'
    · subst hk
      rw [List.dlookup_cons_eq, Option.some.injEq] at hv
      subst hv
      have herase : List.kerase k ((⟨k, v'⟩ : Sigma fun _ : κ => α) :: entries) = entries :=
        List.kerase_cons_eq rfl
      rw [herase]
    · rw [List.dlookup_cons_ne _ _ hk] at hv
      rw [List.kerase_cons_ne hk]
      exact ((ih hv).cons _).trans (List.Perm.swap _ _ _)

/-- A total splits into one entry and the rest. -/
theorem total_eq_add_erase {m : KeyedMap κ α} {k : κ} {v : α} (hv : m.lookup k = some v) :
    total f m = f k v + total f (m.erase k) := by
  have hperm := (perm_cons_kerase hv).map fun e : Sigma fun _ : κ => α => f e.1 e.2
  rw [total, hperm.sum_eq, List.map_cons, List.sum_cons]
  rfl

/-- Overwriting an entry replaces its quantity in the total. -/
theorem total_insert_of_lookup {A : Type*} [AddCommGroup A] (f : κ → α → A) {m : KeyedMap κ α}
    {k : κ} {v : α} (hv : m.lookup k = some v) (w : α) :
    total f (m.insert k w) = total f m - f k v + f k w := by
  rw [total_insert, total_eq_add_erase f hv]
  abel

/-- A total without an entry that is not zero is zero. -/
theorem total_eq_zero {m : KeyedMap κ α} (h : ∀ k v, m.lookup k = some v → f k v = 0) :
    total f m = 0 := by
  apply List.sum_eq_zero
  intro a ha
  obtain ⟨⟨k, v⟩, he, rfl⟩ := List.mem_map.mp ha
  exact h k v (AList.mem_lookup_iff.mpr he)

/-- A total with at most one entry that is not zero has the bound of that entry. -/
theorem total_le_of_unique [Preorder A] {m : KeyedMap κ α} {bound : A} (hbound : 0 ≤ bound)
    (hle : ∀ k v, m.lookup k = some v → f k v ≤ bound)
    (hunique : ∀ k v k' v', m.lookup k = some v → m.lookup k' = some v' → f k v ≠ 0 →
      f k' v' ≠ 0 → k = k') : total f m ≤ bound := by
  by_cases hzero : ∀ k v, m.lookup k = some v → f k v = 0
  · rw [total_eq_zero f hzero]
    exact hbound
  · push Not at hzero
    obtain ⟨k, v, hv, hne⟩ := hzero
    have hrest : total f (m.erase k) = 0 := by
      apply total_eq_zero
      intro k' v' hv'
      by_contra hne'
      have hk' : k' ≠ k := by
        rintro rfl
        rw [AList.lookup_erase] at hv'
        cases hv'
      rw [AList.lookup_erase_ne hk'] at hv'
      exact hk' (hunique k' v' k v hv' hv hne' hne)
    rw [total_eq_add_erase f hv, hrest, add_zero]
    exact hle k v hv

/-- The quantity held under each key, zero where there is no entry. -/
noncomputable def amounts (g : α → A) (m : KeyedMap κ α) : κ →₀ A :=
  Finsupp.onFinset m.keys.toFinset (fun k => (m.lookup k).elim 0 g) (by
    intro k hk
    rw [List.mem_toFinset, ← AList.mem_keys, ← AList.lookup_isSome]
    cases hlookup : m.lookup k with
    | none => exact absurd (by rw [hlookup]; rfl) hk
    | some v => rfl)

/-- The amount of a key is that of its value, or zero without one. -/
@[simp] theorem amounts_apply (g : α → A) (m : KeyedMap κ α) (k : κ) :
    amounts g m k = (m.lookup k).elim 0 g := rfl

/-- The amounts of a map add up to its total. -/
theorem sum_amounts (g : α → A) (m : KeyedMap κ α) :
    ((amounts g m).sum fun _ a => a) = total (fun _ => g) m := by
  induction m using AList.insertRec with
  | H0 => rfl
  | IH k v m hk ih =>
    have hsplit : amounts g (m.insert k v) = Finsupp.single k (g v) + amounts g m := by
      ext j
      rw [Finsupp.add_apply, amounts_apply, amounts_apply]
      by_cases hj : j = k
      · subst hj
        rw [AList.lookup_insert, AList.lookup_eq_none.mpr hk, Finsupp.single_eq_same]
        exact (add_zero _).symm
      · rw [AList.lookup_insert_ne hj, Finsupp.single_eq_of_ne hj, zero_add]
    rw [hsplit, total_insert_of_notMem _ hk, ← ih,
      Finsupp.sum_add_index' (fun _ => rfl) (fun _ _ _ => rfl), Finsupp.sum_single_index rfl]

/-- Overwriting or adding an entry moves the amount under its key. -/
theorem amounts_insert {A : Type*} [AddCommGroup A] (g : α → A) (m : KeyedMap κ α) (k : κ)
    (v : α) {d : A} (hd : g v = (m.lookup k).elim 0 g + d) :
    amounts g (m.insert k v) = amounts g m + Finsupp.single k d := by
  ext j
  rw [Finsupp.add_apply, amounts_apply, amounts_apply]
  by_cases hj : j = k
  · subst hj
    rw [AList.lookup_insert, Finsupp.single_eq_same]
    exact hd
  · rw [AList.lookup_insert_ne hj, Finsupp.single_eq_of_ne hj, add_zero]

/-- Removing an entry takes its whole amount away. -/
theorem amounts_erase {A : Type*} [AddCommGroup A] (g : α → A) {m : KeyedMap κ α} {k : κ}
    {v : α} (hv : m.lookup k = some v) :
    amounts g (m.erase k) = amounts g m - Finsupp.single k (g v) := by
  ext j
  rw [Finsupp.sub_apply, amounts_apply, amounts_apply]
  by_cases hj : j = k
  · subst hj
    rw [AList.lookup_erase, hv, Finsupp.single_eq_same]
    exact (sub_self _).symm
  · rw [AList.lookup_erase_ne hj, Finsupp.single_eq_of_ne hj, sub_zero]

end KeyedMap

end TradeBot.Library
