import TradeBot.OrderNormalization
import TradeBot.PortfolioLedger
import TradeBot.Trading.Sizing

/-!
# Entries that the portfolio sizes itself

Without explicit units `openLong` converts its budget, net of the fee, to units. It only
checks the debit against the cash again: that the debit is within the budget, and that the
budget would not pay for one unit more, follows from the rounding of the two conversions.
-/

namespace TradeBot

open Library Financial

namespace PortfolioManager

variable {pm pm' : PortfolioManager} {symbol strategyId : String}
  {netPrice fee capitalToCommit : Double} {timestamp : ℕ}

/-- The capital budget of `openLong`: the commitment in money units, or else all cash. -/
def capitalBudget (cash : Money) (capitalToCommit : Double) : Option Money :=
  if 0 < capitalToCommit then money capitalToCommit else some cash

/-- The budget of an entry is what the capital allows. -/
theorem entryBudget_eq_ok {cash budget : Money}
    (h : entryBudget cash capitalToCommit = .ok budget) :
    capitalBudget cash capitalToCommit = some budget := by
  unfold entryBudget at h
  unfold capitalBudget
  split at h
  · next hpositive =>
    simp only [bind_eq_ok, requirePositive_eq_ok, pure_eq_ok] at h
    obtain ⟨_, ⟨hbudget, -⟩, _, -, rfl⟩ := h
    rw [if_pos hpositive, hbudget]
  · next hpositive =>
    rw [pure_eq_ok] at h
    rw [if_neg hpositive, h]

/-- The size of an entry without explicit units, in units of money. -/
theorem sizeEntry_exhausts {p : Price} {entryFee budget cost debit : Money} {amount : Quantity}
    (h : sizeEntry p entryFee budget 0 = .ok (amount, cost, debit)) :
    cost.units.toInt + entryFee.units.toInt ≤ budget.units.toInt ∧
      (budget.units.toInt - entryFee.units.toInt) * scaleFactor.toInt <
        p.units.toInt * (amount.units.toInt + 1) := by
  have hexplicit : ¬(0 : Double) < 0 := by decide
  unfold sizeEntry at h
  rw [if_neg hexplicit] at h
  simp only [bind_eq_ok, requirePositive_eq_ok, requireValue_eq_ok, pure_eq_ok,
    Prod.mk.injEq] at h
  obtain ⟨net, ⟨hnet, -⟩, amount, ⟨hamount, -⟩, cost, hcost, debit, -, rfl, rfl, rfl⟩ := h
  rw [subtract_eq_some_iff] at hnet
  have hle := notional_le_of_quantityForNotional hamount hcost
  obtain ⟨-, hlt⟩ := quantityForNotional_bounds hamount
  rw [hnet] at hle hlt
  exact ⟨by omega, hlt⟩

/-- **Implicit sizing.** When `openLong` sizes a position itself, the cost basis and the entry
fee are what it debits; they are within the capital budget in money units, and one quantity unit
more would cost more than the budget net of the fee. -/
theorem openLong_exhausts
    (h : pm.openLong symbol netPrice timestamp fee capitalToCommit 0 strategyId = .ok pm') :
    ∃ p entryFee budget position, price netPrice = some p ∧ money fee = some entryFee ∧
      capitalBudget pm.cash capitalToCommit = some budget ∧
      pm'.positions.lookup symbol = some position ∧
      pm.cash.toRat - pm'.cash.toRat = position.costBasis.toRat + entryFee.toRat ∧
      position.costBasis.toRat + entryFee.toRat ≤ budget.toRat ∧
      budget.toRat - entryFee.toRat < p.toRat * (position.quantity.toRat + 1 / 10 ^ 8) := by
  simp only [openLong, bind_eq_ok, throwIf_eq_ok, requirePositive_eq_ok,
    requireNonnegative_eq_ok, requireValue_eq_ok, requireCounterCapacity_eq_ok, pure_eq_ok,
    Prod.exists] at h
  obtain ⟨-, -, -, -, -, -, p, ⟨hprice, -⟩, entryFee, ⟨hfee, -⟩, budget, hbudget, amount, cost,
    debit, hsize, -, -, -, -, average, -, nextCash, hcash, nextFees, -, valuation, -, -, -,
    rfl⟩ := h
  obtain ⟨-, -, hdebit, -⟩ := sizeEntry_eq_ok hsize
  obtain ⟨hle, hlt⟩ := sizeEntry_exhausts hsize
  rw [subtract_eq_some_iff] at hcash
  rw [add_eq_some_iff] at hdebit
  have hscale : scaleFactor.toInt = 10 ^ 8 := rfl
  refine ⟨p, entryFee, budget, _, hprice, hfee, entryBudget_eq_ok hbudget,
    AList.lookup_insert _, ?_, ?_, ?_⟩
  · have hspent : pm.cash.units.toInt - nextCash.units.toInt =
        cost.units.toInt + entryFee.units.toInt := by omega
    change pm.cash.toRat - nextCash.toRat = cost.toRat + entryFee.toRat
    rw [Value.toRat, Value.toRat, Value.toRat, Value.toRat, ← sub_div, ← add_div]
    exact_mod_cast congrArg (fun z : ℤ => (z : ℚ) / scaleFactor.toInt) hspent
  · change cost.toRat + entryFee.toRat ≤ budget.toRat
    rw [Value.toRat, Value.toRat, Value.toRat, ← add_div, hscale]
    apply div_le_div_of_nonneg_right _ (by norm_num)
    exact_mod_cast hle
  · change budget.toRat - entryFee.toRat < p.toRat * (amount.toRat + 1 / 10 ^ 8)
    have hlt' : ((budget.units.toInt : ℚ) - entryFee.units.toInt) * 10 ^ 8 <
        p.units.toInt * (amount.units.toInt + 1) := by
      rw [hscale] at hlt
      exact_mod_cast hlt
    have hcost : p.toRat * (amount.toRat + 1 / 10 ^ 8) =
        p.units.toInt * (amount.units.toInt + 1) / (10 ^ 8 * 10 ^ 8) := by
      rw [Value.toRat, Value.toRat, hscale]
      push_cast
      ring
    have hnet : budget.toRat - entryFee.toRat =
        (budget.units.toInt - entryFee.units.toInt) * 10 ^ 8 / (10 ^ 8 * 10 ^ 8) := by
      rw [Value.toRat, Value.toRat, hscale]
      push_cast
      ring
    rw [hcost, hnet]
    exact div_lt_div_of_pos_right hlt' (by norm_num)

/-- A budget that the price does not divide is used up to less than one more unit. -/
theorem openLong_exhausts_thirds :
    ∃ (pm' : PortfolioManager) (p : Price) (entryFee budget : Money) (position : PositionState),
      price (.finite 3) = some p ∧ money 0 = some entryFee ∧
      capitalBudget startingCash (.finite 2) = some budget ∧
      pm'.positions.lookup "A" = some position ∧
      startingCash.toRat - pm'.cash.toRat = position.costBasis.toRat + entryFee.toRat ∧
      position.costBasis.toRat + entryFee.toRat ≤ budget.toRat ∧
      budget.toRat - entryFee.toRat < p.toRat * (position.quantity.toRat + 1 / 10 ^ 8) := by
  have hreturns : returnsAnd (fun _ => true)
      ((fresh).openLong "A" (.finite 3) 0 0 (.finite 2) 0 "") = true := by
    decide +kernel
  obtain ⟨pm', hok, -⟩ := returnsAnd_eq_true.mp hreturns
  exact ⟨pm', openLong_exhausts hok⟩

/-- A commitment between two units of money is rounded to the nearest one, and that is spent. -/
theorem openLong_exceeds_commitment :
    ∃ pm' position, (fresh).openLong "A" (.finite 1) 0 0 (.finite (1 + 1 / 2 ^ 27)) 0 "" =
        .ok pm' ∧ pm'.positions.lookup "A" = some position ∧
      (.finite (1 + 1 / 2 ^ 27) : Double) <
        position.costBasis.toDouble + position.entryFee.toDouble := by
  have hreturns : returnsAnd (fun pm' : PortfolioManager =>
      (pm'.positions.lookup "A").any fun position => decide
        ((.finite (1 + 1 / 2 ^ 27) : Double) <
          position.costBasis.toDouble + position.entryFee.toDouble))
      ((fresh).openLong "A" (.finite 1) 0 0 (.finite (1 + 1 / 2 ^ 27)) 0 "") = true := by
    decide +kernel
  obtain ⟨pm', hok, hexceeds⟩ := returnsAnd_eq_true.mp hreturns
  obtain ⟨position, hposition, hlt⟩ := (Option.any_eq_true ..).mp hexceeds
  exact ⟨pm', position, hok, hposition, of_decide_eq_true hlt⟩

end PortfolioManager

end TradeBot
