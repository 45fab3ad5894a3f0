import TradeBot.Lifecycle.Decisions
import TradeBot.FinancialExactness

/-!
# Order quantities

Filled and remaining quantity of every record make up the ordered quantity. The
filled quantity grows under executions; a reconciliation writes whatever valid
pair it is given, so it is the one event that can take a fill back.
-/

namespace TradeBot

open Library Financial

namespace OrderLifecycleRecord

/-- `validQuantities` with its difference and its sum as exact integers. It has no
value when one of them is not a signed 64-bit word. -/
def validQuantitiesExact (record : OrderLifecycleRecord)
    (cumulativeFilled remaining : Decimal64) : Option Bool :=
  if cumulativeFilled.scale ≠ record.request.quantity.scale
      ∨ remaining.scale ≠ record.request.quantity.scale
      ∨ cumulativeFilled.units < 0 ∨ remaining.units < 0 then some false
  else (fit (Int64.maxValue.toInt - remaining.units.toInt)).bind fun room =>
    if room < cumulativeFilled.units then some false
    else (fit (cumulativeFilled.units.toInt + remaining.units.toInt)).map fun sum =>
      decide (sum = record.request.quantity.units)

/-- The difference of the check fits, and so does its sum when it is formed. -/
private theorem room_toInt {r : Int64} (hr : 0 ≤ r.toInt) :
    (Int64.maxValue - r).toInt = Int64.maxValue.toInt - r.toInt := by
  have hlt := Int64.toInt_lt r
  have hmax : Int64.maxValue.toInt = 2 ^ 63 - 1 := rfl
  exact toInt_sub_of_fits (by omega) (by omega)

/-- **The quantity check does not overflow**, whatever pair it is given. -/
theorem validQuantitiesExact_eq (record : OrderLifecycleRecord)
    (cumulativeFilled remaining : Decimal64) :
    record.validQuantitiesExact cumulativeFilled remaining =
      some (record.validQuantities cumulativeFilled remaining) := by
  have hzero : (0 : Int64).toInt = 0 := rfl
  have hmax : Int64.maxValue.toInt = 2 ^ 63 - 1 := rfl
  unfold validQuantitiesExact validQuantities
  split
  · rfl
  · next hguard =>
    simp only [not_or, Int64.lt_iff_toInt_lt, hzero, not_lt] at hguard
    obtain ⟨-, -, hcumulative, hremaining⟩ := hguard
    have hroom := room_toInt hremaining
    have hlt := Int64.toInt_lt remaining.units
    rw [fit_eq_some_iff.mpr hroom, Option.bind_some]
    split
    · rfl
    · next hfits =>
      rw [Int64.lt_iff_toInt_lt, hroom, not_lt] at hfits
      have hsum := toInt_add_of_fits (a := cumulativeFilled.units) (b := remaining.units)
        (by omega) (by omega)
      rw [fit_eq_some_iff.mpr hsum, Option.map_some]

/-- What a valid pair of quantities is. -/
theorem validQuantities_iff {record : OrderLifecycleRecord}
    {cumulativeFilled remaining : Decimal64} :
    record.validQuantities cumulativeFilled remaining = true ↔
      cumulativeFilled.scale = record.request.quantity.scale ∧
        remaining.scale = record.request.quantity.scale ∧
        0 ≤ cumulativeFilled.units.toInt ∧ 0 ≤ remaining.units.toInt ∧
        cumulativeFilled.units.toInt + remaining.units.toInt =
          record.request.quantity.units.toInt := by
  have hzero : (0 : Int64).toInt = 0 := rfl
  have hmax : Int64.maxValue.toInt = 2 ^ 63 - 1 := rfl
  have hquantity := Int64.toInt_lt record.request.quantity.units
  unfold validQuantities
  split
  · next hguard =>
    refine ⟨fun h => absurd h Bool.false_ne_true, fun ⟨hs, hs', hc, hr, _⟩ => ?_⟩
    simp only [Int64.lt_iff_toInt_lt, hzero, hs, hs', ne_eq, not_true, false_or] at hguard
    omega
  · next hguard =>
    simp only [not_or, Int64.lt_iff_toInt_lt, hzero, not_lt, ne_eq, not_not] at hguard
    obtain ⟨hs, hs', hc, hr⟩ := hguard
    have hroom := room_toInt hr
    split
    · next hover =>
      rw [Int64.lt_iff_toInt_lt, hroom] at hover
      refine ⟨fun h => absurd h Bool.false_ne_true, fun ⟨_, _, _, _, hsum⟩ => ?_⟩
      omega
    · next hfits =>
      rw [Int64.lt_iff_toInt_lt, hroom, not_lt] at hfits
      rw [decide_eq_true_iff, ← Int64.toInt_inj, toInt_add_of_fits (by omega) (by omega)]
      exact ⟨fun hsum => ⟨hs, hs', hc, hr, hsum⟩, fun h => h.2.2.2.2⟩

/-- The quantities of a record in exact units. -/
structure Conserved (record : OrderLifecycleRecord) : Prop where
  filled_scale : record.filledQuantity.scale = record.request.quantity.scale
  remaining_scale : record.remainingQuantity.scale = record.request.quantity.scale
  filled_nonneg : 0 ≤ record.filledQuantity.units.toInt
  remaining_nonneg : 0 ≤ record.remainingQuantity.units.toInt
  sum_eq : record.filledQuantity.units.toInt + record.remainingQuantity.units.toInt =
    record.request.quantity.units.toInt

/-- Filled and remaining quantity add up to the ordered one. -/
theorem Conserved.toRat_add {record : OrderLifecycleRecord} (h : record.Conserved) :
    record.filledQuantity.toRat + record.remainingQuantity.toRat =
      record.request.quantity.toRat := by
  rw [Decimal64.toRat, Decimal64.toRat, Decimal64.toRat, h.filled_scale, h.remaining_scale,
    ← add_div, ← Int.cast_add, h.sum_eq]

/-- A revised order still adds up. -/
theorem conserved_of_revises {record next : OrderLifecycleRecord} (h : record.Conserved)
    (hrevises : OrderLifecycleStore.Revises record next) : next.Conserved := by
  have hrequest := hrevises.request_eq
  rcases hrevises.quantities with ⟨hfilled, hremaining⟩ | hvalid
  · refine ⟨?_, ?_, ?_, ?_, ?_⟩
    · rw [hfilled, hrequest]
      exact h.filled_scale
    · rw [hremaining, hrequest]
      exact h.remaining_scale
    · rw [hfilled]
      exact h.filled_nonneg
    · rw [hremaining]
      exact h.remaining_nonneg
    · rw [hfilled, hremaining, hrequest]
      exact h.sum_eq
  · obtain ⟨hs, hs', hc, hr, hsum⟩ := validQuantities_iff.mp hvalid
    rw [← hrequest] at hs hs' hsum
    exact ⟨hs, hs', hc, hr, hsum⟩

end OrderLifecycleRecord

namespace OrderLifecycleStore

/-- Every record of the store has conserved quantities. -/
def Conserved (store : OrderLifecycleStore) : Prop :=
  ∀ localOrderId record, store.find localOrderId = some record → record.Conserved

/-- An empty store conserves quantities. -/
theorem conserved_empty : empty.Conserved := by
  intro localOrderId record h
  cases h

/-- It still does with one more order that adds up. -/
theorem conserved_commit {store : OrderLifecycleStore} (h : store.Conserved) {localOrderId : ℕ}
    {record : OrderLifecycleRecord} (hrecord : record.Conserved) (eventKey : String) :
    (store.commit localOrderId record eventKey).Conserved := by
  intro other found hfound
  rw [find_commit] at hfound
  split at hfound
  · rw [← Option.some.inj hfound]
    exact hrecord
  · exact h other found hfound

/-- A new order has nothing filled and all of it remaining. -/
theorem conserved_newRecord {request : OrderRequest} (h : request.quantity.isPositive = true) :
    (newRecord request).Conserved := by
  rw [Decimal64.isPositive, decide_eq_true_iff, Int64.lt_iff_toInt_lt] at h
  exact ⟨rfl, rfl, le_refl 0, le_of_lt h, zero_add _⟩

/-- Every operation keeps the quantities conserved. -/
theorem Conserved.next {store : OrderLifecycleStore} (h : store.Conserved) (op : Operation) :
    (lifecycle.next store op).Conserved := by
  rcases step_cases store op with ⟨hsame, -⟩ | ⟨request, -, -, hpositive, hnext, -⟩ |
    ⟨event, record, next, hevent, hfind, -, -, hdecision, hnext, -⟩
  · rw [hsame]
    exact h
  · rw [hnext]
    exact conserved_commit h (conserved_newRecord hpositive) _
  · rw [hnext]
    exact conserved_commit h (OrderLifecycleRecord.conserved_of_revises (h _ _ hfind)
      (decision_revises hevent hdecision)) _

/-- Every run of operations conserves quantities. -/
theorem conserved_run (ops : List Operation) : (lifecycle.run empty ops).Conserved :=
  Machine.invariant_run (fun _ op h => h.next op) conserved_empty ops

/-- **Order quantity conservation.** In every reachable store each record has
filled and remaining quantity of the ordered scale, both nonnegative, that add up to
the ordered quantity; and the quantity check on it never overflows. -/
theorem quantities_conserved {ops : List Operation} {localOrderId : ℕ}
    {record : OrderLifecycleRecord}
    (h : (lifecycle.run empty ops).find localOrderId = some record) :
    record.filledQuantity.units.toInt + record.remainingQuantity.units.toInt =
        record.request.quantity.units.toInt ∧
      record.filledQuantity.scale = record.request.quantity.scale ∧
      record.remainingQuantity.scale = record.request.quantity.scale ∧
      0 ≤ record.filledQuantity.units.toInt ∧ 0 ≤ record.remainingQuantity.units.toInt ∧
      ∀ cumulativeFilled remaining,
        record.validQuantitiesExact cumulativeFilled remaining =
          some (record.validQuantities cumulativeFilled remaining) := by
  obtain ⟨hs, hs', hf, hr, hsum⟩ := conserved_run ops localOrderId record h
  exact ⟨hsum, hs, hs', hf, hr, record.validQuantitiesExact_eq⟩

/-- An order of ten units. -/
def tenUnits : OrderRequest where
  localOrderId := 1
  canonicalSymbol := "BTC"
  quantity := ⟨10, 0⟩
  timestampNs := 1
  sequence := 1
  idempotencyKey := "order"

/-- Its acknowledgement. -/
def tenUnitsAccepted : OrderAcknowledgement where
  localOrderId := 1
  externalOrderId := "x"
  accepted := true
  timestampNs := 1
  sequence := 4
  eventKey := "ack"

/-- A fill of six of the ten units. -/
def sixFilled : ExecutionEvent where
  localOrderId := 1
  externalOrderId := "x"
  cumulativeFilledQuantity := ⟨6, 0⟩
  remainingQuantity := ⟨4, 0⟩
  timestampNs := 1
  sequence := 5
  eventKey := "fill"

/-- The order, from its creation to the partial fill. -/
def partialFill : List Operation := [.create tenUnits, .markRiskChecked 1 "risk" 1 2,
  .markSubmitted 1 "submit" 1 3, .applyAcknowledgement tenUnitsAccepted,
  .applyExecution sixFilled]

/-- Conservation at a partly filled order: six and four units of ten. -/
theorem quantities_conserved_partialFill :
    ∃ record, (lifecycle.run empty partialFill).find 1 = some record ∧
      record.filledQuantity = ⟨6, 0⟩ ∧
      record.filledQuantity.units.toInt + record.remainingQuantity.units.toInt =
        record.request.quantity.units.toInt := by
  have hsome : ((lifecycle.run empty partialFill).find 1).isSome = true := by decide +kernel
  obtain ⟨record, hrecord⟩ := Option.isSome_iff_exists.mp hsome
  have hfilled : ((lifecycle.run empty partialFill).find 1).map (·.filledQuantity) =
      some ⟨6, 0⟩ := by decide +kernel
  rw [hrecord, Option.map_some, Option.some.injEq] at hfilled
  exact ⟨record, hrecord, hfilled, (quantities_conserved hrecord).1⟩

end OrderLifecycleStore

end TradeBot
