import Mathlib.Algebra.BigOperators.Finsupp.Basic
import Mathlib.Algebra.BigOperators.Group.List.Basic
import Mathlib.Tactic.Abel

/-!
# Cost-basis ledgers

The bookkeeping of a trader, without prices: cash, the amount held of each asset,
what the held amount cost, and the fees that were paid to enter. A posting moves
value between these accounts. A sale hands a part of the cost and of the entry
fees to the log of sales; how a caller apportions the part is its own affair, and
the conservation laws hold for every apportionment.
-/

namespace TradeBot.Library

variable {κ A : Type*} [AddCommGroup A]

/-- A logged sale: gross profit, the fees of both legs, and profit net of them. -/
structure Sale (A : Type*) where
  gross : A
  fees : A
  net : A

/-- Cash, held amounts with their cost and entry fees, fees paid, and the sales. -/
structure CostLedger (κ A : Type*) [Zero A] where
  cash : A
  held : κ →₀ A
  cost : κ →₀ A
  entryFees : κ →₀ A
  feesPaid : A
  sales : List (Sale A)

/-- One movement of value. -/
inductive Posting (κ A : Type*) where
  /-- An amount is bought at a cost, with a fee on top. -/
  | buy (k : κ) (amount cost fee : A)
  /-- An amount is sold for the proceeds less a fee; a part of the cost and of the
  entry fees leaves with it. -/
  | sell (k : κ) (amount proceeds fee cost entryFee : A)

namespace CostLedger

/-- The ledger after a posting. -/
noncomputable def post (l : CostLedger κ A) : Posting κ A → CostLedger κ A
  | .buy k amount cost fee => { l with
      cash := l.cash - (cost + fee)
      held := l.held + Finsupp.single k amount
      cost := l.cost + Finsupp.single k cost
      entryFees := l.entryFees + Finsupp.single k fee
      feesPaid := l.feesPaid + fee }
  | .sell k amount proceeds fee cost entryFee => {
      cash := l.cash + (proceeds - fee)
      held := l.held - Finsupp.single k amount
      cost := l.cost - Finsupp.single k cost
      entryFees := l.entryFees - Finsupp.single k entryFee
      feesPaid := l.feesPaid + fee
      sales := l.sales ++ [{
        gross := proceeds - cost
        fees := fee + entryFee
        net := proceeds - cost - fee - entryFee }] }

/-- The sum of an account over all assets. -/
noncomputable def balance (account : κ →₀ A) : A := account.sum fun _ a => a

/-- Adding to one account adds to the balance. -/
@[simp] theorem balance_add_single (account : κ →₀ A) (k : κ) (a : A) :
    balance (account + Finsupp.single k a) = balance account + a := by
  rw [balance, Finsupp.sum_add_index' (fun _ => rfl) (fun _ _ _ => rfl),
    Finsupp.sum_single_index rfl, balance]

/-- Taking from one account takes from the balance. -/
@[simp] theorem balance_sub_single (account : κ →₀ A) (k : κ) (a : A) :
    balance (account - Finsupp.single k a) = balance account - a := by
  rw [balance, Finsupp.sum_sub_index (fun _ _ _ => rfl), Finsupp.sum_single_index rfl, balance]

/-- The conservation laws of a ledger that started with `capital`. -/
structure Conserved (capital : A) (l : CostLedger κ A) : Prop where
  cash_eq : l.cash + balance l.cost = capital + (l.sales.map Sale.gross).sum - l.feesPaid
  fees_eq : l.feesPaid = (l.sales.map Sale.fees).sum + balance l.entryFees
  net_eq : ∀ sale ∈ l.sales, sale.net = sale.gross - sale.fees

/-- **Conservation.** Every posting keeps the conservation laws. -/
theorem Conserved.post {capital : A} {l : CostLedger κ A} (h : l.Conserved capital)
    (p : Posting κ A) : (l.post p).Conserved capital := by
  have hcash := h.cash_eq
  have hfees := h.fees_eq
  cases p with
  | buy k amount cost fee =>
    refine ⟨?_, ?_, h.net_eq⟩
    · calc l.cash - (cost + fee) + balance (l.cost + Finsupp.single k cost)
          = l.cash + balance l.cost - fee := by rw [balance_add_single]; abel
        _ = capital + (l.sales.map Sale.gross).sum - (l.feesPaid + fee) := by rw [hcash]; abel
    · calc l.feesPaid + fee
          = (l.sales.map Sale.fees).sum + (balance l.entryFees + fee) := by rw [hfees]; abel
        _ = (l.sales.map Sale.fees).sum + balance (l.entryFees + Finsupp.single k fee) := by
          rw [balance_add_single]
  | sell k amount proceeds fee cost entryFee =>
    refine ⟨?_, ?_, ?_⟩
    · simp only [CostLedger.post, List.map_append, List.sum_append, List.map_cons, List.map_nil,
        List.sum_cons, List.sum_nil, balance_sub_single, add_zero]
      calc l.cash + (proceeds - fee) + (balance l.cost - cost)
          = l.cash + balance l.cost + (proceeds - cost) - fee := by abel
        _ = capital + ((l.sales.map Sale.gross).sum + (proceeds - cost)) - (l.feesPaid + fee) := by
          rw [hcash]; abel
    · simp only [CostLedger.post, List.map_append, List.sum_append, List.map_cons, List.map_nil,
        List.sum_cons, List.sum_nil, balance_sub_single, add_zero]
      rw [hfees]
      abel
    · intro sale hsale
      rcases List.mem_append.mp hsale with hsale | hsale
      · exact h.net_eq sale hsale
      · rw [List.mem_singleton.mp hsale]
        change proceeds - cost - fee - entryFee = proceeds - cost - (fee + entryFee)
        abel

/-- A ledger without positions, fees and sales is conserved. -/
theorem conserved_initial (capital : A) :
    ({ cash := capital, held := 0, cost := 0, entryFees := 0, feesPaid := 0, sales := [] } :
      CostLedger κ A).Conserved capital :=
  ⟨by simp [balance], by simp [balance], by simp⟩

end CostLedger

end TradeBot.Library
