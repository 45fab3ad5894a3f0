import TradeBot.PortfolioManager
import TradeBot.FinancialExactness
import TradeBot.Library.CostLedger
import TradeBot.Library.Fallible

/-!
# The portfolio manager keeps a cost-basis ledger

In whole units the portfolio is a cost-basis ledger over symbols. Each call that
returns makes one posting: an entry buys, a close sells with its apportioned cost
and entry fee, and a mark moves nothing.
-/

namespace TradeBot

open Library Financial

variable [FloatFormat]

section Exceptions

variable {α : Type}

omit [FloatFormat] in
/-- A check passes exactly when its condition does not hold. -/
@[simp] theorem throwIf_eq_ok {condition : Bool} {e : StdException} {u : Unit} :
    throwIf condition e = .ok u ↔ condition = false := by
  cases condition <;> simp [throwIf]

omit [FloatFormat] in
/-- A required value is returned exactly when it is present. -/
@[simp] theorem requireValue_eq_ok {value : Option α} {message : String} {a : α} :
    requireValue value message = .ok a ↔ value = some a := by
  cases value <;> simp [requireValue]

omit [FloatFormat] in
/-- A required positive value is returned exactly when it is present and positive. -/
@[simp] theorem requirePositive_eq_ok {tag : Tag} {value : Option (Value tag)}
    {e : StdException} {a : Value tag} :
    requirePositive value e = .ok a ↔ value = some a ∧ a.isPositive = true := by
  cases value with
  | none => simp [requirePositive]
  | some v =>
    by_cases hv : v.isPositive = true
    · simp only [requirePositive, hv, if_true, Except.ok.injEq, Option.some.injEq]
      exact ⟨fun h => ⟨h, h ▸ hv⟩, fun h => h.1⟩
    · simp only [requirePositive, hv, Bool.false_eq_true, if_false, reduceCtorEq,
        Option.some.injEq, false_iff]
      rintro ⟨rfl, ha⟩
      exact hv ha

omit [FloatFormat] in
/-- A required value is returned exactly when it is present and not negative. -/
@[simp] theorem requireNonnegative_eq_ok {tag : Tag} {value : Option (Value tag)}
    {e : StdException} {a : Value tag} :
    requireNonnegative value e = .ok a ↔ value = some a ∧ a.isNegative = false := by
  cases value with
  | none => simp [requireNonnegative]
  | some v =>
    by_cases hv : v.isNegative = true
    · simp only [requireNonnegative, hv, if_true, reduceCtorEq, Option.some.injEq, false_iff]
      rintro ⟨rfl, ha⟩
      rw [hv] at ha
      cases ha
    · rw [Bool.not_eq_true] at hv
      simp only [requireNonnegative, hv, Bool.false_eq_true, if_false, Except.ok.injEq,
        Option.some.injEq]
      exact ⟨fun h => ⟨h, h ▸ hv⟩, fun h => h.1⟩

omit [FloatFormat] in
/-- A counter can be raised exactly below the largest `int`. -/
@[simp] theorem requireCounterCapacity_eq_ok {value : ℤ} {message : String} {u : Unit} :
    requireCounterCapacity value message = .ok u ↔ value ≠ 2147483647 := by
  simp [requireCounterCapacity]

end Exceptions

/-- The whole units that a double of money carries. -/
def Double.units : Double → ℤ
  | .finite value => Double.round (value * scaleFactor.toInt)
  | _ => 0

/-- With exact conversions the units of a value can be read off its double. -/
@[simp] theorem units_toDouble [ExactFormat] {tag : Tag} (value : Value tag) :
    value.toDouble.units = value.units.toInt := by
  rw [Value.toDouble, ExactFormat.double_eq, ExactFormat.double_eq, Double.units,
    div_mul_cancel₀ _ scaleFactor_pos.ne', Double.round_intCast]

/-- A double that carries whole units of money and nothing else. -/
def Double.IsMoney (value : Double) : Prop := ∃ m : Money, value = m.toDouble

namespace PortfolioManager

/-- The sale that a trade record logs. -/
def sale (record : TradeRecord) : Sale ℤ where
  gross := record.grossPnL.units
  fees := record.totalFees.units
  net := record.realizedPnL.units

/-- The portfolio as a ledger in whole units. -/
noncomputable def ledger (pm : PortfolioManager) : CostLedger String ℤ where
  cash := pm.cash.units.toInt
  held := KeyedMap.amounts (fun p : PositionState => p.quantity.units.toInt) pm.positions
  cost := KeyedMap.amounts (fun p : PositionState => p.costBasis.units.toInt) pm.positions
  entryFees := KeyedMap.amounts (fun p : PositionState => p.entryFee.units.toInt) pm.positions
  feesPaid := pm.totalFeesPaid.units.toInt
  sales := pm.tradeLog.map sale

/-- Every open position holds a positive quantity, and every record is in money. -/
structure WellFormed (pm : PortfolioManager) : Prop where
  quantity_pos : ∀ symbol p, pm.positions.lookup symbol = some p → p.quantity.isPositive = true
  record_money : ∀ record ∈ pm.tradeLog, record.grossPnL.IsMoney ∧ record.totalFees.IsMoney ∧
    record.realizedPnL.IsMoney

omit [FloatFormat] in
/-- A valuation leaves the ledger. -/
@[simp] theorem commitValuation_ledger (pm : PortfolioManager) (valuation : Valuation) :
    (pm.commitValuation valuation).ledger = pm.ledger := rfl

omit [FloatFormat] in
/-- A valuation leaves the positions. -/
@[simp] theorem commitValuation_positions (pm : PortfolioManager) (valuation : Valuation) :
    (pm.commitValuation valuation).positions = pm.positions := rfl

omit [FloatFormat] in
/-- A valuation leaves the trade log. -/
@[simp] theorem commitValuation_tradeLog (pm : PortfolioManager) (valuation : Valuation) :
    (pm.commitValuation valuation).tradeLog = pm.tradeLog := rfl

omit [FloatFormat] in
/-- Cash, fees and one position moving together make a purchase. -/
private theorem ledger_buy {pm pm' : PortfolioManager} {symbol : String} {p : PositionState}
    {amount : Quantity} {cost fee : Money} {prior : Option PositionState}
    (hprior : pm.positions.lookup symbol = prior)
    (hcash : pm'.cash.units.toInt = pm.cash.units.toInt - (cost.units.toInt + fee.units.toInt))
    (hpositions : pm'.positions = pm.positions.insert symbol p)
    (hquantity : p.quantity.units.toInt =
      prior.elim 0 (fun q => q.quantity.units.toInt) + amount.units.toInt)
    (hcost : p.costBasis.units.toInt =
      prior.elim 0 (fun q => q.costBasis.units.toInt) + cost.units.toInt)
    (hfee : p.entryFee.units.toInt =
      prior.elim 0 (fun q => q.entryFee.units.toInt) + fee.units.toInt)
    (hfees : pm'.totalFeesPaid.units.toInt = pm.totalFeesPaid.units.toInt + fee.units.toInt)
    (hlog : pm'.tradeLog = pm.tradeLog) :
    pm'.ledger =
      pm.ledger.post (.buy symbol amount.units.toInt cost.units.toInt fee.units.toInt) := by
  subst hprior
  simp only [ledger, CostLedger.post, CostLedger.mk.injEq]
  rw [hpositions, hlog]
  exact ⟨hcash, KeyedMap.amounts_insert _ _ _ _ hquantity, KeyedMap.amounts_insert _ _ _ _ hcost,
    KeyedMap.amounts_insert _ _ _ _ hfee, hfees, rfl⟩

/-- A portfolio stays well formed with a position of positive quantity more. -/
private theorem wellFormed_insert {pm pm' : PortfolioManager} {symbol : String}
    {p : PositionState} (hpositions : pm'.positions = pm.positions.insert symbol p)
    (hp : p.quantity.isPositive = true) (hlog : pm'.tradeLog = pm.tradeLog)
    (h : pm.WellFormed) : pm'.WellFormed := by
  refine ⟨fun symbol' p' hp' => ?_, by rw [hlog]; exact h.record_money⟩
  rw [hpositions] at hp'
  by_cases hsymbol : symbol' = symbol
  · subst hsymbol
    rw [AList.lookup_insert, Option.some.injEq] at hp'
    rwa [← hp']
  · rw [AList.lookup_insert_ne hsymbol] at hp'
    exact h.quantity_pos symbol' p' hp'

/-- An entry has a positive quantity at its price and debits its cost and its fee. -/
theorem sizeEntry_eq_ok {p : Price} {entryFee budget : Money} {explicitUnits : Double}
    {amount : Quantity} {cost debit : Money}
    (h : sizeEntry p entryFee budget explicitUnits = .ok (amount, cost, debit)) :
    amount.isPositive = true ∧ notional p amount = some cost ∧ add cost entryFee = some debit ∧
      (0 < explicitUnits → quantity explicitUnits .rejectUnaligned = some amount) := by
  unfold sizeEntry at h
  split at h
  · simp only [bind_eq_ok, requirePositive_eq_ok, requireValue_eq_ok, throwIf_eq_ok, pure_eq_ok,
      Prod.mk.injEq] at h
    obtain ⟨amount, ⟨hamount, hpos⟩, cost, hcost, debit, hdebit, -, -, rfl, rfl, rfl⟩ := h
    exact ⟨hpos, hcost, hdebit, fun _ => hamount⟩
  · next hexplicit =>
    simp only [bind_eq_ok, requirePositive_eq_ok, requireValue_eq_ok, pure_eq_ok,
      Prod.mk.injEq] at h
    obtain ⟨budget, -, amount, ⟨-, hpos⟩, cost, hcost, debit, hdebit, rfl, rfl, rfl⟩ := h
    exact ⟨hpos, hcost, hdebit, fun hpositive => absurd hpositive hexplicit⟩

/-- The units held of a symbol, zero without a position. -/
def heldUnits (pm : PortfolioManager) (symbol : String) : ℤ :=
  (pm.positions.lookup symbol).elim 0 fun p => p.quantity.units.toInt

omit [FloatFormat] in
/-- The ledger holds of a symbol what its position has. -/
theorem ledger_held (pm : PortfolioManager) (symbol : String) :
    pm.ledger.held symbol = pm.heldUnits symbol := rfl

/-- A call that bought made one purchase, and kept the portfolio well formed. -/
structure Bought (pm pm' : PortfolioManager) (symbol : String) (amount : Quantity) : Prop where
  amount_pos : amount.isPositive = true
  posted : ∃ cost fee : Money, pm'.ledger =
    pm.ledger.post (.buy symbol amount.units.toInt cost.units.toInt fee.units.toInt)
  wellFormed : pm.WellFormed → pm'.WellFormed

/-- `openLong` buys; with explicit units it buys exactly these. -/
theorem openLong_bought {pm pm' : PortfolioManager} {symbol : String} {netPrice : Double}
    {timestamp : ℕ} {fee capitalToCommit explicitUnits : Double} {strategyId : String}
    (h : pm.openLong symbol netPrice timestamp fee capitalToCommit explicitUnits strategyId
      = .ok pm') :
    ∃ amount, pm.Bought pm' symbol amount ∧
      (0 < explicitUnits → quantity explicitUnits .rejectUnaligned = some amount) := by
  simp only [openLong, bind_eq_ok, throwIf_eq_ok, requirePositive_eq_ok,
    requireNonnegative_eq_ok, requireValue_eq_ok, requireCounterCapacity_eq_ok, pure_eq_ok,
    Prod.exists, decide_eq_false_iff_not] at h
  obtain ⟨-, -, -, hclosed, -, -, p, -, entryFee, -, budget, -, amount, cost, debit, hsize, -, -,
    -, -, average, -, nextCash, hcash, nextFees, hfees, valuation, -, -, -, rfl⟩ := h
  obtain ⟨hpos, -, hdebit, hexplicit⟩ := sizeEntry_eq_ok hsize
  rw [subtract_eq_some_iff, add_eq_some_iff.mp hdebit] at hcash
  refine ⟨amount, ⟨hpos, ⟨cost, entryFee, ?_⟩, ?_⟩, hexplicit⟩
  · exact ledger_buy (AList.lookup_eq_none.mpr hclosed) hcash rfl (zero_add _).symm
      (zero_add _).symm (zero_add _).symm (add_eq_some_iff.mp hfees) rfl
  · exact wellFormed_insert rfl hpos rfl

/-- An add-on to an open position buys exactly the given quantity. -/
theorem addToPosition_bought {pm pm' : PortfolioManager} {current : PositionState}
    {symbol : String} {netPrice addedUnits fee capitalToCommit : Double} {strategyId : String}
    (hcurrent : pm.positions.lookup symbol = some current)
    (h : pm.addToPosition current symbol netPrice addedUnits fee capitalToCommit strategyId
      = .ok pm') :
    ∃ amount, pm.Bought pm' symbol amount ∧
      quantity addedUnits .rejectUnaligned = some amount := by
  simp only [addToPosition, bind_eq_ok, throwIf_eq_ok, requirePositive_eq_ok,
    requireNonnegative_eq_ok, requireValue_eq_ok, requireCounterCapacity_eq_ok,
    pure_eq_ok] at h
  obtain ⟨-, -, p, -, amount, ⟨hamount, hpos⟩, addedFee, -, cost, -, debit, hdebit, -, -, -, -, -,
    -, nextQuantity, hquantity, nextCost, hcost, nextEntryFee, hfee, average, -, nextCash, hcash,
    nextFees, hfees, valuation, -, -, -, rfl⟩ := h
  rw [subtract_eq_some_iff, add_eq_some_iff.mp hdebit] at hcash
  have hquantity := add_eq_some_iff.mp hquantity
  refine ⟨amount, ⟨hpos, ⟨cost, addedFee, ?_⟩, fun hwf => ?_⟩, hamount⟩
  · exact ledger_buy hcurrent hcash rfl hquantity (add_eq_some_iff.mp hcost)
      (add_eq_some_iff.mp hfee) (add_eq_some_iff.mp hfees) rfl
  · have hheld := (isPositive_iff _).mp (hwf.quantity_pos symbol current hcurrent)
    have hadded := (isPositive_iff _).mp hpos
    refine wellFormed_insert rfl ((isPositive_iff _).mpr ?_) rfl hwf
    change 0 < nextQuantity.units.toInt
    omega

/-- `addToLong` buys exactly the given quantity. -/
theorem addToLong_bought {pm pm' : PortfolioManager} {symbol : String}
    {netPrice addedUnits fee capitalToCommit : Double} {strategyId : String}
    (h : pm.addToLong symbol netPrice addedUnits fee capitalToCommit strategyId = .ok pm') :
    ∃ amount, pm.Bought pm' symbol amount ∧
      (0 < addedUnits → quantity addedUnits .rejectUnaligned = some amount) := by
  unfold addToLong at h
  split at h
  · exact openLong_bought h
  · next current hcurrent =>
    obtain ⟨amount, hbought, hamount⟩ := addToPosition_bought hcurrent h
    exact ⟨amount, hbought, fun _ => hamount⟩

/-- A call that closed took the amount from the position, and kept the portfolio well formed.
Where conversions are exact, it made one sale, with its record at the end of the log. -/
structure Sold (pm pm' : PortfolioManager) (symbol : String) (amount : Quantity) : Prop where
  amount_nonneg : amount.isNegative = false
  held_eq : pm'.ledger.held = pm.ledger.held - Finsupp.single symbol amount.units.toInt
  posted : ∀ [ExactFormat], ∃ proceeds fee cost entryFee : Money, pm'.ledger = pm.ledger.post
    (.sell symbol amount.units.toInt proceeds.units.toInt fee.units.toInt cost.units.toInt
      entryFee.units.toInt)
  wellFormed : pm.WellFormed → pm'.WellFormed

omit [FloatFormat] in
/-- A component of a position after a close, as an account of the ledger: whether
the position is erased or overwritten, the allocated part leaves the account. -/
private theorem amounts_reducePosition {positions next : KeyedMap String PositionState}
    {symbol : String} {prior : PositionState} {p : Price} {remaining : Quantity}
    {cost entryFee : Money} (hprior : positions.lookup symbol = some prior)
    (h : reducePosition positions symbol prior p remaining cost entryFee = .ok next)
    (hcost : remaining.isZero = true → cost = prior.costBasis)
    (hfee : remaining.isZero = true → entryFee = prior.entryFee) :
    KeyedMap.amounts (fun q : PositionState => q.quantity.units.toInt) next =
        KeyedMap.amounts (fun q : PositionState => q.quantity.units.toInt) positions -
          Finsupp.single symbol (prior.quantity.units.toInt - remaining.units.toInt) ∧
      KeyedMap.amounts (fun q : PositionState => q.costBasis.units.toInt) next =
        KeyedMap.amounts (fun q : PositionState => q.costBasis.units.toInt) positions -
          Finsupp.single symbol cost.units.toInt ∧
      KeyedMap.amounts (fun q : PositionState => q.entryFee.units.toInt) next =
        KeyedMap.amounts (fun q : PositionState => q.entryFee.units.toInt) positions -
          Finsupp.single symbol entryFee.units.toInt := by
  unfold reducePosition at h
  split at h
  · next hzero =>
    rw [pure_eq_ok] at h
    subst h
    rw [(isZero_iff _).mp hzero, sub_zero, hcost hzero, hfee hzero]
    exact ⟨KeyedMap.amounts_erase _ hprior, KeyedMap.amounts_erase _ hprior,
      KeyedMap.amounts_erase _ hprior⟩
  · simp only [bind_eq_ok, requireValue_eq_ok, pure_eq_ok] at h
    obtain ⟨nextCost, hnextCost, nextFee, hnextFee, average, -, rfl⟩ := h
    rw [subtract_eq_some_iff] at hnextCost hnextFee
    simp only [sub_eq_add_neg, ← Finsupp.single_neg]
    refine ⟨KeyedMap.amounts_insert _ _ _ _ ?_, KeyedMap.amounts_insert _ _ _ _ ?_,
      KeyedMap.amounts_insert _ _ _ _ ?_⟩
    · rw [hprior]
      change remaining.units.toInt = prior.quantity.units.toInt + _
      omega
    · rw [hprior]
      exact hnextCost
    · rw [hprior]
      exact hnextFee

omit [FloatFormat] in
/-- What is left of a reduced position has a positive quantity, or is gone. -/
private theorem quantity_pos_reducePosition {positions next : KeyedMap String PositionState}
    {symbol : String} {prior : PositionState} {p : Price} {remaining : Quantity}
    {cost entryFee : Money}
    (h : reducePosition positions symbol prior p remaining cost entryFee = .ok next)
    (hremaining : remaining.isNegative = false)
    (hpositions : ∀ symbol q, positions.lookup symbol = some q → q.quantity.isPositive = true) :
    ∀ symbol q, next.lookup symbol = some q → q.quantity.isPositive = true := by
  intro symbol' q hq
  unfold reducePosition at h
  split at h
  · rw [pure_eq_ok] at h
    subst h
    by_cases hsymbol : symbol' = symbol
    · subst hsymbol
      rw [AList.lookup_erase] at hq
      cases hq
    · rw [AList.lookup_erase_ne hsymbol] at hq
      exact hpositions symbol' q hq
  · next hzero =>
    simp only [bind_eq_ok, requireValue_eq_ok, pure_eq_ok] at h
    obtain ⟨nextCost, -, nextFee, -, average, -, rfl⟩ := h
    by_cases hsymbol : symbol' = symbol
    · subst hsymbol
      rw [AList.lookup_insert, Option.some.injEq] at hq
      subst hq
      have hnonneg : ¬remaining.units.toInt < 0 := by
        rw [← isNegative_iff, hremaining]
        exact Bool.false_ne_true
      have hne : remaining.units.toInt ≠ 0 := by
        rwa [ne_eq, ← isZero_iff]
      rw [isPositive_iff]
      change 0 < remaining.units.toInt
      omega
    · rw [AList.lookup_insert_ne hsymbol] at hq
      exact hpositions symbol' q hq

/-- A close takes the explicit quantity or all of it, and never more than is held. -/
theorem closeQuantity_eq_ok {held closed : Quantity} {explicitQuantity : Double}
    (h : closeQuantity held explicitQuantity = .ok closed) :
    (0 < explicitQuantity → quantity explicitQuantity .rejectUnaligned = some closed) ∧
      (¬0 < explicitQuantity → closed = held) ∧
      closed.units.toInt ≤ held.units.toInt ∧
      (held.isPositive = true → closed.isPositive = true) := by
  unfold closeQuantity at h
  split at h
  · next hexplicit =>
    simp only [bind_eq_ok, requirePositive_eq_ok, throwIf_eq_ok, pure_eq_ok,
      decide_eq_false_iff_not, Int64.lt_iff_toInt_lt] at h
    obtain ⟨closed, ⟨hclosed, hpos⟩, -, hle, rfl⟩ := h
    exact ⟨fun _ => hclosed, fun hnot => absurd hexplicit hnot, by omega, fun _ => hpos⟩
  · next hexplicit =>
    rw [pure_eq_ok] at h
    subst h
    exact ⟨fun hpos => absurd hpos hexplicit, fun _ => rfl, le_refl _, id⟩

/-- `closePosition` on an open position sells the explicit quantity, or without one
the whole position, and never more than is held. -/
theorem reduceOpenPosition_sold {pm pm' : PortfolioManager} {prior : PositionState}
    {symbol : String} {netPrice : Double} {timestamp : ℕ} {fee : Double} {strategyId : String}
    {explicitQuantity : Double} (hwf : pm.WellFormed)
    (hprior : pm.positions.lookup symbol = some prior)
    (h : pm.reduceOpenPosition prior symbol netPrice timestamp fee strategyId explicitQuantity
      = .ok pm') :
    ∃ amount, pm.Sold pm' symbol amount ∧
      (0 < explicitQuantity → quantity explicitQuantity .rejectUnaligned = some amount) ∧
      (¬0 < explicitQuantity → amount = prior.quantity) ∧
      amount.units.toInt ≤ prior.quantity.units.toInt := by
  simp only [reduceOpenPosition, bind_eq_ok, throwIf_eq_ok, requirePositive_eq_ok,
    requireNonnegative_eq_ok, requireValue_eq_ok, requireCounterCapacity_eq_ok, pure_eq_ok] at h
  obtain ⟨-, -, p, -, exitFee, -, closed, hclose, proceeds, hproceeds, netProceeds, ⟨hnet, -⟩,
    cost, hcost, entryFee, hentryFee, gross, hgross, afterExitFee, hafter, realized, hrealized,
    tradeFees, htradeFees, remaining, hremaining, next, hnext, nextCash, hcash, nextFees, hfees,
    valuation, -, -, -, -, -, rfl⟩ := h
  obtain ⟨hexplicit, hwhole, hle, hclosedPos⟩ := closeQuantity_eq_ok hclose
  have hprior_pos := hwf.quantity_pos symbol prior hprior
  have hclosed_pos := (isPositive_iff _).mp (hclosedPos hprior_pos)
  rw [subtract_eq_some_iff] at hnet hgross hafter hrealized hremaining
  rw [add_eq_some_iff] at htradeFees hcash hfees
  -- a close of the whole position allocates all of its cost and entry fee
  have hall : remaining.isZero = true → closed = prior.quantity := by
    intro hzero
    have hz := (isZero_iff _).mp hzero
    have hunits : closed.units = prior.quantity.units := by
      rw [← Int64.toInt_inj]
      omega
    exact congrArg Value.mk hunits
  have hcost_all : remaining.isZero = true → cost = prior.costBasis := by
    intro hzero
    rw [hall hzero, proportional_self _ hprior_pos, Option.some.injEq] at hcost
    exact hcost.symm
  have hfee_all : remaining.isZero = true → entryFee = prior.entryFee := by
    intro hzero
    rw [hall hzero, proportional_self _ hprior_pos, Option.some.injEq] at hentryFee
    exact hentryFee.symm
  obtain ⟨haccQuantity, haccCost, haccFee⟩ :=
    amounts_reducePosition hprior hnext hcost_all hfee_all
  have hnonneg {tag : Tag} {v : Value tag} (hv : 0 ≤ v.units.toInt) : v.isNegative = false := by
    rw [Bool.eq_false_iff, ne_eq, isNegative_iff]
    omega
  refine ⟨closed, ⟨hnonneg (by omega), ?_, fun {_} => ⟨proceeds, exitFee, cost, entryFee, ?_⟩,
    fun hwf => ⟨?_, ?_⟩⟩, hexplicit, hwhole, hle⟩
  · rw [commitValuation_ledger]
    simp only [ledger]
    rw [haccQuantity, hremaining, sub_sub_cancel]
  · rw [commitValuation_ledger]
    simp only [ledger, CostLedger.post, CostLedger.mk.injEq, List.map_append, List.map_cons,
      List.map_nil]
    refine ⟨?_, ?_, haccCost, haccFee, hfees, ?_⟩
    · omega
    · rw [haccQuantity, hremaining, sub_sub_cancel]
    · simp only [sale, units_toDouble, List.append_cancel_left_eq, List.cons.injEq, and_true,
        Sale.mk.injEq]
      exact ⟨hgross, htradeFees, by omega⟩
  · exact quantity_pos_reducePosition hnext (hnonneg (by omega)) hwf.quantity_pos
  · intro record hrecord
    rcases List.mem_append.mp hrecord with hrecord | hrecord
    · exact hwf.record_money record hrecord
    · rw [List.mem_singleton.mp hrecord]
      exact ⟨⟨gross, rfl⟩, ⟨tradeFees, rfl⟩, ⟨realized, rfl⟩⟩

/-- A mark moves no account of the ledger. -/
theorem updatePnL_ledger {pm pm' : PortfolioManager} {symbol : String} {currentPrice : Double}
    (h : pm.updatePnL symbol currentPrice = .ok pm') :
    pm'.ledger = pm.ledger ∧ (pm.WellFormed → pm'.WellFormed) := by
  unfold updatePnL at h
  split at h
  · rw [pure_eq_ok] at h
    rw [h]
    exact ⟨rfl, id⟩
  · next current hcurrent =>
    simp only [bind_eq_ok, requirePositive_eq_ok, pure_eq_ok] at h
    obtain ⟨mark, -, valuation, -, rfl⟩ := h
    have hkeep (g : PositionState → ℤ) (hg : g { current with lastMarkPrice := mark } = g current) :
        KeyedMap.amounts g (pm.positions.insert symbol { current with lastMarkPrice := mark }) =
          KeyedMap.amounts g pm.positions := by
      have hzero : g { current with lastMarkPrice := mark } =
          (pm.positions.lookup symbol).elim 0 g + 0 := by
        rw [hcurrent, add_zero]
        exact hg
      rw [KeyedMap.amounts_insert g pm.positions symbol _ hzero, Finsupp.single_zero, add_zero]
    refine ⟨?_, fun hwf => wellFormed_insert rfl (hwf.quantity_pos symbol current hcurrent) rfl hwf⟩
    rw [commitValuation_ledger]
    simp only [ledger, CostLedger.mk.injEq, true_and, and_true]
    exact ⟨hkeep _ rfl, hkeep _ rfl, hkeep _ rfl⟩

end PortfolioManager

end TradeBot
