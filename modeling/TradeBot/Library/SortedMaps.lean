import TradeBot.Library.KeyedTotals
import Mathlib.Data.List.Sort

/-!
# Maps in the order of their keys

Sorting the entries of a map by their keys forgets the order in which the map lists them,
and writing the sorted entries into an empty map gives the map back up to that order.
-/

namespace TradeBot.Library.KeyedMap

variable {κ α : Type*}

section Inserting

variable [DecidableEq κ]

/-- A map with entries written into it one after the other. -/
def insertAll (m : KeyedMap κ α) (es : List (Sigma fun _ : κ => α)) : KeyedMap κ α :=
  es.foldl (fun m e => m.insert e.1 e.2) m

/-- Keys that are new to a map and distinct stay new when the first of them is written. -/
theorem notMem_insert_of_nodupKeys {m : KeyedMap κ α} {e : Sigma fun _ : κ => α}
    {es : List (Sigma fun _ : κ => α)} (hkeys : (e :: es).NodupKeys)
    (hnew : ∀ e' ∈ es, e'.1 ∉ m) : ∀ e' ∈ es, e'.1 ∉ m.insert e.1 e.2 := by
  intro e' he' hmem
  rcases (AList.mem_insert _).mp hmem with heq | hold
  · exact (List.nodupKeys_cons.mp hkeys).1 (heq ▸ List.mem_keys_of_mem he')
  · exact hnew e' he' hold

/-- Inserting new keys in turn puts their entries in front, the last one first. -/
theorem entries_insertAll {m : KeyedMap κ α} {es : List (Sigma fun _ : κ => α)}
    (hkeys : es.NodupKeys) (hnew : ∀ e ∈ es, e.1 ∉ m) :
    (insertAll m es).entries = es.reverse ++ m.entries := by
  induction es generalizing m with
  | nil => rfl
  | cons e es ih =>
    rw [List.forall_mem_cons] at hnew
    have hfresh := notMem_insert_of_nodupKeys hkeys hnew.2
    change (insertAll (m.insert e.1 e.2) es).entries = _
    rw [ih (List.nodupKeys_cons.mp hkeys).2 hfresh, AList.entries_insert_of_notMem hnew.1,
      List.reverse_cons, List.append_assoc]
    rfl

/-- Writing the entries of a map in any order gives its entries. -/
theorem insertAll_perm {m : KeyedMap κ α} {es : List (Sigma fun _ : κ => α)}
    (hperm : es.Perm m.entries) : (insertAll ∅ es).entries.Perm m.entries := by
  rw [entries_insertAll ((List.perm_nodupKeys hperm).mpr m.nodupKeys)
    (fun _ _ => AList.notMem_empty _), AList.empty_entries, List.append_nil]
  exact (List.reverse_perm es).trans hperm

/-- Writing the entries of a map in any order gives its lookups. -/
theorem lookup_insertAll {m : KeyedMap κ α} {es : List (Sigma fun _ : κ => α)}
    (hperm : es.Perm m.entries) (k : κ) : (insertAll ∅ es).lookup k = m.lookup k :=
  AList.perm_lookup (insertAll_perm hperm)

end Inserting

section Lookups

variable [DecidableEq κ] {m m' : KeyedMap κ α}

/-- Maps with the same lookups have the same entries in some order. -/
theorem perm_of_lookup (h : ∀ k, m.lookup k = m'.lookup k) : m.entries.Perm m'.entries := by
  apply List.lookup_ext m.nodupKeys m'.nodupKeys
  intro k v
  have hk : m.entries.dlookup k = m'.entries.dlookup k := h k
  rw [hk]

/-- Maps that answer alike have the same keys. -/
theorem mem_iff_of_lookup (h : ∀ k, m.lookup k = m'.lookup k) (k : κ) : k ∈ m ↔ k ∈ m' := by
  rw [← AList.lookup_isSome, h, AList.lookup_isSome]

/-- Maps that answer alike do so after one insertion into both. -/
theorem lookup_insert_congr (h : ∀ k, m.lookup k = m'.lookup k) (k : κ) (v : α) (j : κ) :
    (m.insert k v).lookup j = (m'.insert k v).lookup j := by
  by_cases hj : j = k
  · rw [hj, AList.lookup_insert, AList.lookup_insert]
  · rw [AList.lookup_insert_ne hj, AList.lookup_insert_ne hj, h]

/-- And after one deletion from both. -/
theorem lookup_erase_congr (h : ∀ k, m.lookup k = m'.lookup k) (k j : κ) :
    (m.erase k).lookup j = (m'.erase k).lookup j := by
  by_cases hj : j = k
  · rw [hj, AList.lookup_erase, AList.lookup_erase]
  · rw [AList.lookup_erase_ne hj, AList.lookup_erase_ne hj, h]

end Lookups

section Sorting

variable [LinearOrder κ]

/-- The entries of a map in the order of their keys. -/
def sortedEntries (m : KeyedMap κ α) : List (Sigma fun _ : κ => α) :=
  m.entries.insertionSort fun lhs rhs => lhs.1 ≤ rhs.1

/-- Sorting forgets the order of a list. -/
theorem insertionSort_eq_of_perm {l l' : List κ} (h : l.Perm l') :
    l.insertionSort (· ≤ ·) = l'.insertionSort (· ≤ ·) := by
  refine List.Perm.eq_of_pairwise (fun _ _ _ _ => le_antisymm)
    (List.pairwise_insertionSort _ _) (List.pairwise_insertionSort _ _) ?_
  exact (List.perm_insertionSort _ l).trans (h.trans (List.perm_insertionSort _ l').symm)

/-- Sorting loses and adds no entry. -/
theorem sortedEntries_perm (m : KeyedMap κ α) : (sortedEntries m).Perm m.entries :=
  List.perm_insertionSort _ _

/-- Equal maps have the same sorted entries, in whatever order they list them. -/
theorem sortedEntries_eq_of_perm {m m' : KeyedMap κ α} (h : m.entries.Perm m'.entries) :
    sortedEntries m = sortedEntries m' := by
  refine List.Perm.eq_of_pairwise ?_ (List.pairwise_insertionSort _ _)
    (List.pairwise_insertionSort _ _)
    ((sortedEntries_perm m).trans (h.trans (sortedEntries_perm m').symm))
  rintro ⟨k, v⟩ ⟨k', v'⟩ hmem hmem' hle hge
  cases le_antisymm hle hge
  have hv := AList.mem_lookup_iff.mpr ((sortedEntries_perm m).mem_iff.mp hmem)
  have hv' := AList.mem_lookup_iff.mpr (h.mem_iff.mpr ((sortedEntries_perm m').mem_iff.mp hmem'))
  cases Option.some.inj (hv.symm.trans hv')
  rfl

/-- Maps that answer alike have the same sorted entries. -/
theorem sortedEntries_eq_of_lookup {m m' : KeyedMap κ α}
    (h : ∀ k, m.lookup k = m'.lookup k) : sortedEntries m = sortedEntries m' :=
  sortedEntries_eq_of_perm (perm_of_lookup h)

end Sorting

end TradeBot.Library.KeyedMap
