import TradeBot.Checkpoint.Validation
import TradeBot.PortfolioRecords
import TradeBot.FinancialDoubles
import TradeBot.Library.Machine
import TradeBot.Library.SortedMaps
import Mathlib.Algebra.Order.BigOperators.Group.List

/-!
# Restoring a portfolio from its snapshot

A snapshot lists the positions by symbol, and a restored portfolio adds their values up in
another order than the portfolio it was taken from. So a snapshot of a portfolio whose amounts
survive a double restores it exactly when each position still has a positive average price, each
record of the log was closed at one, and the profits stay in range in the new order.
-/

namespace TradeBot

open Library Financial

variable [FloatFormat]

/-- The profit of a position at its mark, in units. -/
def PositionState.profit (p : PositionState) : ℤ := p.markedUnits - p.costBasis.units.toInt

omit [FloatFormat] in
/-- A sound position is worth nothing negative. -/
theorem PositionState.Sound.markedUnits_nonneg {p : PositionState} (h : p.Sound) :
    0 ≤ p.markedUnits := by
  unfold PositionState.markedUnits
  cases hvalue : p.marked with
  | none => exact le_refl 0
  | some value =>
    obtain ⟨units, hunits, rfl⟩ := Option.map_eq_some_iff.mp hvalue
    exact scaledProduct_nonneg h.lastMarkPrice_pos.le h.quantity_pos.le hunits

/-- The amounts of a position survive a double. -/
structure PositionState.Survives (p : PositionState) : Prop where
  quantity : p.quantity.Survives
  averageEntryPrice : p.averageEntryPrice.Survives
  costBasis : p.costBasis.Survives
  lastMarkPrice : p.lastMarkPrice.Survives
  entryFee : p.entryFee.Survives

namespace PortfolioManager

/-- The amounts of the accounts and of the positions survive a double. -/
structure Survives (pm : PortfolioManager) : Prop where
  cash : pm.cash.Survives
  unrealizedPnL : pm.unrealizedPnL.Survives
  totalEquity : pm.totalEquity.Survives
  maxEquity : pm.maxEquity.Survives
  totalFeesPaid : pm.totalFeesPaid.Survives
  positions : ∀ symbol p, pm.positions.lookup symbol = some p → p.Survives

/-- Without rounding every amount survives. -/
theorem survives_of_exact [ExactFormat] (pm : PortfolioManager) : pm.Survives where
  cash := Financial.survives_of_exact _
  unrealizedPnL := Financial.survives_of_exact _
  totalEquity := Financial.survives_of_exact _
  maxEquity := Financial.survives_of_exact _
  totalFeesPaid := Financial.survives_of_exact _
  positions := fun _ _ _ =>
    ⟨Financial.survives_of_exact _, Financial.survives_of_exact _, Financial.survives_of_exact _,
      Financial.survives_of_exact _, Financial.survives_of_exact _⟩

/-- The positions that a snapshot restores: they are written in the order of their symbols. -/
def restoredPositions (positions : KeyedMap String PositionState) :
    KeyedMap String PositionState :=
  KeyedMap.insertAll ∅ (KeyedMap.sortedEntries positions)

/-- What a portfolio needs so that its snapshot restores it. -/
structure Restorable (pm : PortfolioManager) : Prop where
  priced : ∀ symbol p, pm.positions.lookup symbol = some p →
    p.quantity.units.toInt ≤ 2 * 10 ^ 8 * p.costBasis.units.toInt
  tradeLog : ∀ record ∈ pm.tradeLog, 0 < record.entryPrice
  profits : ∀ n, -2 ^ 63 ≤ ((((restoredPositions pm.positions).entries.map Sigma.snd).take n).map
    PositionState.profit).sum

omit [FloatFormat] in
/-- The restored positions answer as the saved ones. -/
theorem lookup_restoredPositions (positions : KeyedMap String PositionState) (symbol : String) :
    (restoredPositions positions).lookup symbol = positions.lookup symbol :=
  KeyedMap.lookup_insertAll (KeyedMap.sortedEntries_perm positions) symbol

omit [FloatFormat] in
/-- They are the same entries in another order. -/
theorem restoredPositions_perm (positions : KeyedMap String PositionState) :
    (restoredPositions positions).entries.Perm positions.entries :=
  KeyedMap.insertAll_perm (KeyedMap.sortedEntries_perm positions)

/-- A snapshot has the positions in the order of their symbols. -/
theorem snapshotState_positions (pm : PortfolioManager) :
    pm.snapshotState.positions =
      (KeyedMap.sortedEntries pm.positions).map fun e => positionSnapshot e.1 e.2 := by
  symm
  apply List.map_insertionSort
  intro a _ b _
  exact Iff.rfl

omit [FloatFormat] in
/-- An entry is in the sorted list exactly when its symbol has that value. -/
theorem mem_sortedEntries {positions : KeyedMap String PositionState}
    {e : Sigma fun _ : String => PositionState} :
    e ∈ KeyedMap.sortedEntries positions ↔ positions.lookup e.1 = some e.2 := by
  rw [(KeyedMap.sortedEntries_perm positions).mem_iff]
  exact AList.mem_lookup_iff.symm

section Valuation

omit [FloatFormat] in
/-- The loop of `valueState` over sound positions returns when the profits stay in range. -/
theorem foldlM_addMark_returns_iff {states : List PositionState} {sums : Money × Money}
    (hsound : ∀ p ∈ states, p.Sound) (hmarked : ∀ p ∈ states, ∃ value, p.marked = some value)
    (hvalue : 0 ≤ sums.1.units.toInt) (hle : sums.2.units.toInt ≤ sums.1.units.toInt)
    (htotal : sums.1.units.toInt + (states.map PositionState.markedUnits).sum < 2 ^ 63) :
    (∃ sums', states.foldlM addMark sums = .ok sums') ↔
      ∀ n, -2 ^ 63 ≤ sums.2.units.toInt + ((states.take n).map PositionState.profit).sum := by
  induction states generalizing sums with
  | nil =>
    refine ⟨fun _ n => ?_, fun _ => ⟨sums, rfl⟩⟩
    rw [List.take_nil, List.map_nil, List.sum_nil, add_zero]
    exact (units_bounds sums.2).1
  | cons p states ih =>
    rw [List.forall_mem_cons] at hsound hmarked
    obtain ⟨hp, hrest⟩ := hsound
    have hcost := hp.costBasis_nonneg
    obtain ⟨⟨value, hvalued⟩, hmarkedRest⟩ := hmarked
    have hunits : p.markedUnits = value.units.toInt := by
      rw [PositionState.markedUnits, hvalued, Option.elim_some]
    have hnonneg : 0 ≤ value.units.toInt := hunits ▸ hp.markedUnits_nonneg
    have hprofit : p.profit = value.units.toInt - p.costBasis.units.toInt := by
      rw [PositionState.profit, hunits]
    have hstates : 0 ≤ (states.map PositionState.markedUnits).sum := by
      apply List.sum_nonneg
      intro z hz
      obtain ⟨q, hq, rfl⟩ := List.mem_map.mp hz
      exact (hrest q hq).markedUnits_nonneg
    have hbounds := units_bounds p.costBasis
    have hbounds' := units_bounds value
    rw [List.map_cons, List.sum_cons, hunits] at htotal
    obtain ⟨total, htotal'⟩ := exists_value .money
      (z := sums.1.units.toInt + value.units.toInt) (by omega) (by omega)
    obtain ⟨profit, hprofit'⟩ := exists_value .money
      (z := value.units.toInt - p.costBasis.units.toInt) (by omega) (by omega)
    -- the sum of the profits after this position, when it is in range
    have hstep (hfits : -2 ^ 63 ≤ sums.2.units.toInt + p.profit) :
        (∃ sums', (p :: states).foldlM addMark sums = .ok sums') ↔
          ∀ n, -2 ^ 63 ≤ sums.2.units.toInt + p.profit +
            ((states.take n).map PositionState.profit).sum := by
      obtain ⟨unrealized, hunrealized⟩ := exists_value .money
        (z := sums.2.units.toInt + p.profit) hfits (by omega)
      have hadd : addMark sums p = .ok (total, unrealized) := by
        simp only [addMark, bind_eq_ok, requireValue_eq_ok, pure_eq_ok, add_eq_some_iff,
          subtract_eq_some_iff, Prod.mk.injEq]
        exact ⟨value, hvalued, total, htotal', profit, hprofit', unrealized, by omega, rfl, rfl⟩
      have hnext := @ih (total, unrealized) hrest hmarkedRest (by dsimp only; omega)
        (by dsimp only; omega) (by dsimp only; omega)
      rw [List.foldlM_cons, hadd, ← hunrealized]
      exact hnext
    constructor
    · intro hreturns n
      have hfits : -2 ^ 63 ≤ sums.2.units.toInt + p.profit := by
        obtain ⟨sums', hsums⟩ := hreturns
        rw [List.foldlM_cons, bind_eq_ok] at hsums
        obtain ⟨next, hp, -⟩ := hsums
        simp only [addMark, bind_eq_ok, requireValue_eq_ok, pure_eq_ok, add_eq_some_iff,
          subtract_eq_some_iff] at hp
        obtain ⟨v, hv, -, -, d, hd, unrealized, hunrealized, -⟩ := hp
        rw [PositionState.marked, hv] at hvalued
        cases hvalued
        have := units_bounds unrealized
        omega
      cases n with
      | zero =>
        rw [List.take_zero, List.map_nil, List.sum_nil, add_zero]
        exact (units_bounds sums.2).1
      | succ n =>
        rw [List.take_succ_cons, List.map_cons, List.sum_cons, ← add_assoc]
        exact (hstep hfits).mp hreturns n
    · intro hprofits
      have hfits := hprofits 1
      rw [List.take_succ_cons, List.take_zero, List.map_cons, List.map_nil, List.sum_cons,
        List.sum_nil, add_zero] at hfits
      refine (hstep hfits).mpr fun n => ?_
      have hnext := hprofits (n + 1)
      rw [List.take_succ_cons, List.map_cons, List.sum_cons, ← add_assoc] at hnext
      exact hnext

/-- Sound positions that are valued in one order are valued in another one when the profits
stay in range there. -/
theorem valueState_returns_iff {pm candidate : PortfolioManager} (h : pm.Valued) :
    (∃ valuation, candidate.valueState pm.cash (restoredPositions pm.positions) = .ok valuation) ↔
      ∀ n, -2 ^ 63 ≤ ((((restoredPositions pm.positions).entries.map Sigma.snd).take n).map
        PositionState.profit).sum := by
  have hlookup : ∀ p ∈ (restoredPositions pm.positions).entries.map Sigma.snd,
      ∃ symbol, pm.positions.lookup symbol = some p := by
    intro p hp
    obtain ⟨e, he, rfl⟩ := List.mem_map.mp hp
    exact ⟨e.1, AList.mem_lookup_iff.mpr ((restoredPositions_perm _).mem_iff.mp he)⟩
  have htotal : (((restoredPositions pm.positions).entries.map Sigma.snd).map
      PositionState.markedUnits).sum =
        KeyedMap.total (fun _ p => p.markedUnits) pm.positions := by
    rw [List.map_map, KeyedMap.total]
    exact ((restoredPositions_perm _).map _).sum_eq
  have hcash := h.cash_nonneg
  have hequity := h.totalEquity_eq
  have hbounds := units_bounds pm.totalEquity
  have hzero : (0 : Money).units.toInt = 0 := rfl
  have hloop := @foldlM_addMark_returns_iff _ (0, 0)
    (fun p hp => (hlookup p hp).elim fun symbol hp => h.sound symbol p hp)
    (fun p hp => (hlookup p hp).elim fun symbol hp => h.marked symbol p hp)
    (le_refl 0) (le_refl _) (by dsimp only; omega)
  simp only [hzero, zero_add] at hloop
  rw [← hloop]
  constructor
  · rintro ⟨valuation, hvaluation⟩
    simp only [valueState, bind_eq_ok] at hvaluation
    obtain ⟨sums, hsums, -⟩ := hvaluation
    exact ⟨sums, hsums⟩
  · rintro ⟨sums, hsums⟩
    have hvalue := (foldlM_addMark_eq_ok hsums).2.1
    dsimp only at hvalue
    rw [htotal, hzero, zero_add] at hvalue
    have hadd : add pm.cash sums.1 = some pm.totalEquity := by
      rw [add_eq_some_iff, hequity, hvalue]
    unfold valueState
    rw [hsums]
    dsimp only [bind, Except.bind]
    rw [hadd]
    exact ⟨_, rfl⟩

/-- Valuing the restored positions at their marks gives the valuation of the portfolio. -/
theorem valueState_restored {pm candidate : PortfolioManager} {valuation : Valuation}
    (h : pm.Valued) (hrecorded : pm.Recorded) (hmax : candidate.maxEquity = pm.maxEquity)
    (hlargest : candidate.maxDrawdown = pm.maxDrawdown)
    (hvaluation : candidate.valueState pm.cash (restoredPositions pm.positions) = .ok valuation) :
    valuation.unrealizedPnL = pm.unrealizedPnL ∧ valuation.totalEquity = pm.totalEquity ∧
      valuation.maxEquity = pm.maxEquity ∧ valuation.currentDrawdown = pm.currentDrawdown ∧
      valuation.maxDrawdown = pm.maxDrawdown := by
  have hdrawdown := valueState_drawdown hvaluation
  obtain ⟨-, hequity, hprofit, hmaxEquity, current, hcurrent, -, hmaxDrawdown⟩ :=
    valueState_eq_ok hvaluation
  have htotal (g : PositionState → ℤ) :
      KeyedMap.total (fun _ => g) (restoredPositions pm.positions) =
        KeyedMap.total (fun _ => g) pm.positions := ((restoredPositions_perm _).map _).sum_eq
  have hsame {a b : Money} (hunits : a.units.toInt = b.units.toInt) : a = b := by
    cases a
    cases b
    rw [Value.mk.injEq, ← Int64.toInt_inj]
    exact hunits
  have hequity' : valuation.totalEquity = pm.totalEquity := by
    apply hsame
    rw [hequity, htotal, h.totalEquity_eq]
  have hmaxEquity' : valuation.maxEquity = pm.maxEquity := by
    apply hsame
    rw [hmaxEquity, hmax, hequity', max_eq_left h.totalEquity_le]
  have hcurrent' : valuation.currentDrawdown = pm.currentDrawdown := by
    rw [hdrawdown, hequity', hmaxEquity', hrecorded.currentDrawdown_eq]
  refine ⟨?_, hequity', hmaxEquity', hcurrent', ?_⟩
  · apply hsame
    rw [hprofit, htotal, h.unrealizedPnL_eq]
  · obtain ⟨current', largest, hcurrent'', hlargest', -, hle⟩ := h.drawdown
    rw [hmaxDrawdown, hlargest, hlargest', ← hcurrent, hcurrent', hcurrent'', max_finite,
      max_eq_left hle]

end Valuation

omit [FloatFormat] in
/-- The equity of a valued portfolio is not negative. -/
theorem Valued.totalEquity_nonneg {pm : PortfolioManager} (h : pm.Valued) :
    0 ≤ pm.totalEquity.units.toInt := by
  rw [h.totalEquity_eq]
  apply add_nonneg h.cash_nonneg
  apply List.sum_nonneg
  intro z hz
  obtain ⟨e, he, rfl⟩ := List.mem_map.mp hz
  exact (h.sound e.1 e.2 (AList.mem_lookup_iff.mpr he)).markedUnits_nonneg

section Positions

/-- Reading back the snapshot of a sound position writes the position, when its average
price is positive and its symbol is new. -/
theorem restorePosition_snapshot {positions next : KeyedMap String PositionState}
    {symbol : String} {p : PositionState} (h : p.Sound) (hsurvives : p.Survives)
    (hsymbol : symbol ≠ "") :
    restorePosition positions (positionSnapshot symbol p) = .ok next ↔
      (p.quantity.units.toInt ≤ 2 * 10 ^ 8 * p.costBasis.units.toInt ∧ symbol ∉ positions) ∧
        next = positions.insert symbol p := by
  rw [← averagePrice_pos_iff h.averageEntryPrice_eq]
  simp only [restorePosition, positionSnapshot, bind_eq_ok, requirePositive_eq_ok,
    requireNonnegative_eq_ok, throwIf_eq_ok, pure_eq_ok, hsurvives.quantity.quantity_eq,
    hsurvives.averageEntryPrice.price_eq, hsurvives.entryFee.money_eq,
    hsurvives.costBasis.money_eq, hsurvives.lastMarkPrice.price_eq, isPositive_iff,
    isNegative_eq_false_iff, Option.some.injEq]
  constructor
  · rintro ⟨_, ⟨rfl, -⟩, _, ⟨rfl, haverage⟩, _, ⟨rfl, -⟩, _, ⟨rfl, -⟩, _, ⟨rfl, -⟩, -, -, -, -,
      -, hnew, rfl⟩
    exact ⟨⟨haverage, of_decide_eq_false hnew⟩, rfl⟩
  · rintro ⟨⟨haverage, hnew⟩, rfl⟩
    have hcost : 0 < p.costBasis.units.toInt := by
      have hle := (averagePrice_pos_iff h.averageEntryPrice_eq).mp haverage
      have hheld := h.quantity_pos
      omega
    refine ⟨_, ⟨rfl, h.quantity_pos⟩, _, ⟨rfl, haverage⟩, _, ⟨rfl, h.entryFee_nonneg⟩, _,
      ⟨rfl, hcost⟩, _, ⟨rfl, h.lastMarkPrice_pos⟩, p.averageEntryPrice, ?_, (), ?_, (), ?_, rfl⟩
    · rw [h.averageEntryPrice_eq]
      rfl
    · simp [hsymbol]
    · simp [hnew]

/-- The amounts of a position are what is read of a snapshot. -/
structure PositionSnapshot.Reads (s : PositionSnapshot) (p : PositionState) : Prop where
  quantity : quantity s.position.quantity .rejectUnaligned = some p.quantity
  averageEntryPrice : price s.position.entryPrice .rejectUnaligned = some p.averageEntryPrice
  costBasis : money s.costBasis .rejectUnaligned = some p.costBasis
  lastMarkPrice : price s.lastMarkPrice .rejectUnaligned = some p.lastMarkPrice
  entryFee : money s.entryFee .rejectUnaligned = some p.entryFee

/-- Reading back a snapshot writes a position under a symbol that is new. -/
theorem restorePosition_inserts {positions next : KeyedMap String PositionState}
    {s : PositionSnapshot} (h : restorePosition positions s = .ok next) :
    ∃ p, s.Reads p ∧ s.position.symbol ∉ positions ∧
      next = positions.insert s.position.symbol p := by
  simp only [restorePosition, bind_eq_ok, requirePositive_eq_ok, requireNonnegative_eq_ok,
    throwIf_eq_ok, pure_eq_ok] at h
  obtain ⟨_, ⟨hquantity, -⟩, _, ⟨haverage, -⟩, _, ⟨hfee, -⟩, _, ⟨hcost, -⟩, _, ⟨hmark, -⟩, -, -, -,
    -, -, hnew, rfl⟩ := h
  exact ⟨_, ⟨hquantity, haverage, hcost, hmark, hfee⟩, of_decide_eq_false hnew, rfl⟩

/-- What the loop of `restoreState` has written stays, so that each of its snapshots is found
among the restored positions. -/
theorem lookup_of_foldlM_restorePosition {snapshots : List PositionSnapshot}
    {positions restored : KeyedMap String PositionState}
    (h : snapshots.foldlM restorePosition positions = .ok restored) :
    (∀ symbol p, positions.lookup symbol = some p → restored.lookup symbol = some p) ∧
      ∀ s ∈ snapshots, ∃ p, s.Reads p ∧ restored.lookup s.position.symbol = some p := by
  induction snapshots generalizing positions with
  | nil =>
    cases h
    exact ⟨fun _ _ hp => hp, fun _ hs => by cases hs⟩
  | cons s snapshots ih =>
    rw [List.foldlM_cons, bind_eq_ok] at h
    obtain ⟨next, hstep, hrest⟩ := h
    obtain ⟨p, hreads, hnew, rfl⟩ := restorePosition_inserts hstep
    obtain ⟨hkept, hfound⟩ := ih hrest
    refine ⟨fun symbol q hq => hkept symbol q ?_, ?_⟩
    · have hne : symbol ≠ s.position.symbol := by
        rintro rfl
        rw [AList.lookup_eq_none.mpr hnew] at hq
        cases hq
      rw [AList.lookup_insert_ne hne, hq]
    · rw [List.forall_mem_cons]
      exact ⟨⟨p, hreads, hkept _ p (AList.lookup_insert _)⟩, hfound⟩

/-- The loop of `restoreState` writes one entry after the other. -/
theorem foldlM_restorePosition {entries : List (Sigma fun _ : String => PositionState)}
    {positions : KeyedMap String PositionState} (hkeys : entries.NodupKeys)
    (hsound : ∀ e ∈ entries, e.2.Sound) (hsurvives : ∀ e ∈ entries, e.2.Survives)
    (hsymbol : ∀ e ∈ entries, e.1 ≠ "")
    (hpriced : ∀ e ∈ entries, e.2.quantity.units.toInt ≤ 2 * 10 ^ 8 * e.2.costBasis.units.toInt)
    (hnew : ∀ e ∈ entries, e.1 ∉ positions) :
    (entries.map fun e => positionSnapshot e.1 e.2).foldlM restorePosition positions =
      .ok (KeyedMap.insertAll positions entries) := by
  induction entries generalizing positions with
  | nil => rfl
  | cons e entries ih =>
    rw [List.forall_mem_cons] at hsound hsurvives hsymbol hpriced hnew
    have hstep := (restorePosition_snapshot hsound.1 hsurvives.1 hsymbol.1).mpr
      ⟨⟨hpriced.1, hnew.1⟩, rfl⟩
    have hfresh := KeyedMap.notMem_insert_of_nodupKeys hkeys hnew.2
    rw [List.map_cons, List.foldlM_cons, bind_eq_ok]
    exact ⟨_, hstep, ih (List.nodupKeys_cons.mp hkeys).2 hsound.2 hsurvives.2 hsymbol.2 hpriced.2
      hfresh⟩

variable {pm : PortfolioManager}

/-- The positions of a snapshot are read back when all of them are priced. -/
theorem foldlM_restorePosition_snapshot (h : pm.Valued) (hrecorded : pm.Recorded)
    (hsurvives : pm.Survives) {restored : KeyedMap String PositionState} :
    pm.snapshotState.positions.foldlM restorePosition ∅ = .ok restored ↔
      (∀ symbol p, pm.positions.lookup symbol = some p →
        p.quantity.units.toInt ≤ 2 * 10 ^ 8 * p.costBasis.units.toInt) ∧
      restored = restoredPositions pm.positions := by
  have hsymbol : ∀ e ∈ KeyedMap.sortedEntries pm.positions, e.1 ≠ "" := by
    intro e he
    apply hrecorded.symbol_ne
    rw [← AList.lookup_isSome, mem_sortedEntries.mp he]
    rfl
  have hsound : ∀ e ∈ KeyedMap.sortedEntries pm.positions, e.2.Sound :=
    fun e he => h.sound e.1 e.2 (mem_sortedEntries.mp he)
  have hsurvive : ∀ e ∈ KeyedMap.sortedEntries pm.positions, e.2.Survives :=
    fun e he => hsurvives.positions e.1 e.2 (mem_sortedEntries.mp he)
  have hreads (hpriced : ∀ symbol p, pm.positions.lookup symbol = some p →
      p.quantity.units.toInt ≤ 2 * 10 ^ 8 * p.costBasis.units.toInt) :
      pm.snapshotState.positions.foldlM restorePosition ∅ =
        .ok (restoredPositions pm.positions) := by
    have hkeys : (KeyedMap.sortedEntries pm.positions).NodupKeys :=
      (List.perm_nodupKeys (KeyedMap.sortedEntries_perm _)).mpr pm.positions.nodupKeys
    rw [snapshotState_positions]
    exact foldlM_restorePosition hkeys hsound hsurvive hsymbol
      (fun e he => hpriced e.1 e.2 (mem_sortedEntries.mp he)) (fun _ _ => AList.notMem_empty _)
  constructor
  · intro hok
    have hpriced : ∀ symbol p, pm.positions.lookup symbol = some p →
        p.quantity.units.toInt ≤ 2 * 10 ^ 8 * p.costBasis.units.toInt := by
      intro symbol p hp
      rw [snapshotState_positions] at hok
      have hmem : (⟨symbol, p⟩ : Sigma fun _ : String => PositionState) ∈
          KeyedMap.sortedEntries pm.positions := mem_sortedEntries.mpr hp
      obtain ⟨before, after, hstep⟩ := body_eq_ok_of_foldlM hok _ (List.mem_map_of_mem hmem)
      exact ((restorePosition_snapshot (hsound _ hmem) (hsurvive _ hmem)
        (hsymbol _ hmem)).mp hstep).1.1
    rw [hreads hpriced, Except.ok.injEq] at hok
    exact ⟨hpriced, hok.symm⟩
  · rintro ⟨hpriced, rfl⟩
    exact hreads hpriced

/-- **Restoration.** A snapshot of a valued portfolio whose amounts survive is restored exactly
when its positions are priced and their profits stay in range, and what is restored is the
portfolio. -/
theorem restoreState_snapshotState (h : pm.Valued) (hrecorded : pm.Recorded)
    (hsurvives : pm.Survives) {pm' : PortfolioManager} :
    restoreState pm.snapshotState = .ok pm' ↔
      ((∀ symbol p, pm.positions.lookup symbol = some p →
        p.quantity.units.toInt ≤ 2 * 10 ^ 8 * p.costBasis.units.toInt) ∧
      ∀ n, -2 ^ 63 ≤ ((((restoredPositions pm.positions).entries.map Sigma.snd).take n).map
        PositionState.profit).sum) ∧
      pm' = { pm with positions := restoredPositions pm.positions } := by
  have hequity := h.totalEquity_nonneg
  have hmaxEquity := hequity.trans h.totalEquity_le
  unfold restoreState
  simp only [bind_eq_ok, requireNonnegative_eq_ok,
    foldlM_restorePosition_snapshot h hrecorded hsurvives, throwIf_eq_ok, pure_eq_ok,
    isNegative_eq_false_iff]
  simp only [snapshotState, hsurvives.cash.money_eq, hsurvives.unrealizedPnL.money_eq,
    hsurvives.totalEquity.money_eq, hsurvives.maxEquity.money_eq,
    hsurvives.totalFeesPaid.money_eq, requirePresent, Option.some.injEq, Except.ok.injEq]
  constructor
  · rintro ⟨_, ⟨rfl, -⟩, _, rfl, _, ⟨rfl, -⟩, _, ⟨rfl, -⟩, _, ⟨rfl, -⟩, _, ⟨hpriced, rfl⟩,
      valuation, hvaluation, -, -, rfl⟩
    exact ⟨⟨hpriced, (valueState_returns_iff h).mp ⟨valuation, hvaluation⟩⟩, rfl⟩
  · rintro ⟨⟨hpriced, hprofits⟩, rfl⟩
    obtain ⟨valuation, hvaluation⟩ := (@valueState_returns_iff _ pm { fresh with
      maxEquity := pm.maxEquity
      maxDrawdown := pm.maxDrawdown } h).mpr hprofits
    obtain ⟨hprofit, hequity', hmaxEquity', hcurrent, hlargest⟩ :=
      valueState_restored h hrecorded rfl rfl hvaluation
    refine ⟨_, ⟨rfl, h.cash_nonneg⟩, _, rfl, _, ⟨rfl, hequity⟩, _, ⟨rfl, hmaxEquity⟩, _,
      ⟨rfl, hrecorded.fees_nonneg⟩, _, ⟨hpriced, rfl⟩, valuation, hvaluation, (), ?_, rfl⟩
    obtain ⟨current, largest, hcurrent', hlargest', -, -⟩ := h.drawdown
    have hnone (x : ℚ) : ¬drawdownTolerance < ((.finite x : Double) - .finite x).abs := by
      change ¬Double.finite (1 / 10 ^ 12) < .finite |x + -x|
      rw [Double.finite_lt_finite, add_neg_cancel, abs_zero]
      norm_num
    have hsame : ¬drawdownTolerance < (valuation.currentDrawdown - pm.currentDrawdown).abs := by
      rw [hcurrent, hcurrent']
      exact hnone current
    have hsame' : ¬drawdownTolerance < (valuation.maxDrawdown - pm.maxDrawdown).abs := by
      rw [hlargest, hlargest']
      exact hnone largest
    simp only [Bool.or_eq_false_iff]
    exact ⟨⟨⟨⟨decide_eq_false (not_not.mpr hprofit), decide_eq_false (not_not.mpr hequity')⟩,
      decide_eq_false (not_not.mpr hmaxEquity')⟩, decide_eq_false hsame⟩, decide_eq_false hsame'⟩

end Positions

end PortfolioManager

end TradeBot
