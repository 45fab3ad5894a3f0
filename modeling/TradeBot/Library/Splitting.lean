import Mathlib.Data.List.Perm.Basic

/-!
# A list split in two

Every entry of a list goes to one of two lists, in which it stands for an entry of another kind:
nothing is lost, nothing is there twice, and both lists keep the order.
-/

namespace TradeBot.Library

variable {α β γ κ : Type*}

/-- The entries of the first list go to the second one, where `K` relates them to what stays of
them, or to the third one, where `F` relates them to what is made of them. -/
inductive Splits (K : α → β → Prop) (F : α → γ → Prop) : List α → List β → List γ → Prop
  | nil : Splits K F [] [] []
  | kept {a b as bs cs} (h : K a b) (hrest : Splits K F as bs cs) :
      Splits K F (a :: as) (b :: bs) cs
  | taken {a c as bs cs} (h : F a c) (hrest : Splits K F as bs cs) :
      Splits K F (a :: as) bs (c :: cs)

namespace Splits

variable {K : α → β → Prop} {F : α → γ → Prop} {as : List α} {bs : List β} {cs : List γ}

/-- A filter of the entries that a partial function has no result for, and its results. -/
theorem of_filter {g : α → β} {f : α → Option γ} (hkept : ∀ a ∈ as, f a = none → K a (g a))
    (htaken : ∀ a ∈ as, ∀ c, f a = some c → F a c) :
    Splits K F as ((as.filter fun a => (f a).isNone).map g) (as.filterMap f) := by
  induction as with
  | nil => exact .nil
  | cons a as ih =>
    rw [List.forall_mem_cons] at hkept htaken
    have hrest := ih hkept.2 htaken.2
    cases hresult : f a with
    | none =>
      rw [List.filter_cons_of_pos (by rw [hresult]; rfl), List.map_cons,
        List.filterMap_cons_none hresult]
      exact .kept (hkept.1 hresult) hrest
    | some c =>
      rw [List.filter_cons_of_neg (by rw [hresult]; simp), List.filterMap_cons_some hresult]
      exact .taken (htaken.1 c hresult) hrest

/-- A key that both relations keep is not lost and not there twice. -/
theorem perm (h : Splits K F as bs cs) {key : α → κ} {keyB : β → κ} {keyC : γ → κ}
    (hK : ∀ a b, K a b → keyB b = key a) (hF : ∀ a c, F a c → keyC c = key a) :
    (as.map key).Perm (cs.map keyC ++ bs.map keyB) := by
  induction h with
  | nil => exact .refl _
  | kept h _ ih =>
    rw [List.map_cons, List.map_cons, hK _ _ h]
    exact (ih.cons _).trans List.perm_middle.symm
  | taken h _ ih =>
    rw [List.map_cons, List.map_cons, hF _ _ h]
    exact ih.cons _

/-- What stays keeps the order. -/
theorem sublist_kept (h : Splits K F as bs cs) {key : α → κ} {keyB : β → κ}
    (hK : ∀ a b, K a b → keyB b = key a) : (bs.map keyB).Sublist (as.map key) := by
  induction h with
  | nil => exact .slnil
  | kept h _ ih =>
    rw [List.map_cons, List.map_cons, hK _ _ h]
    exact ih.cons_cons _
  | taken _ _ ih => exact ih.cons _

/-- What is taken is made of an entry. -/
theorem mem_taken (h : Splits K F as bs cs) {c : γ} (hc : c ∈ cs) : ∃ a ∈ as, F a c := by
  induction h with
  | nil => cases hc
  | kept _ _ ih =>
    obtain ⟨a, ha, hac⟩ := ih hc
    exact ⟨a, List.mem_cons_of_mem _ ha, hac⟩
  | taken h _ ih =>
    rcases List.mem_cons.mp hc with rfl | hc
    · exact ⟨_, List.mem_cons_self, h⟩
    · obtain ⟨a, ha, hac⟩ := ih hc
      exact ⟨a, List.mem_cons_of_mem _ ha, hac⟩

end Splits

end TradeBot.Library
