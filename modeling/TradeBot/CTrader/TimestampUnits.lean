import TradeBot.CTrader.Gate7Proof
import TradeBot.FinancialExactness

/-!
# The unit of a timestamp

`classifyTimestamp` tries four units and accepts one that puts the timestamp close to its
receipt. Two units differ by a factor of at least a thousand, so from two minutes after the
epoch on at most one of them fits, and the loop finds it.
-/

namespace TradeBot

open Financial

namespace CTraderGate7Proof

/-- `classifyTimestamp` -/
def classifyTimestamp (rawTimestamp receiptTimestampNs : UInt64) : Option Gate7TimestampProof :=
  (classifyTimestampDetailed rawTimestamp receiptTimestampNs).proof

variable {rawTimestamp receiptTimestampNs : UInt64} {unit : UInt64 × Gate7TimestampUnit}

/-- A unit puts a timestamp, without overflow, at most two minutes before its receipt and at most
five seconds after it. -/
structure Places (rawTimestamp receiptTimestampNs : UInt64) (unit : UInt64 × Gate7TimestampUnit) :
    Prop where
  fits : rawTimestamp.toNat * unit.1.toNat < 2 ^ 64
  recent : receiptTimestampNs.toNat ≤ rawTimestamp.toNat * unit.1.toNat + 120 * 10 ^ 9
  past : rawTimestamp.toNat * unit.1.toNat ≤ receiptTimestampNs.toNat + 5 * 10 ^ 9

instance (rawTimestamp receiptTimestampNs : UInt64) (unit : UInt64 × Gate7TimestampUnit) :
    Decidable (Places rawTimestamp receiptTimestampNs unit) :=
  decidable_of_iff (_ ∧ _ ∧ _) ⟨fun h => ⟨h.1, h.2.1, h.2.2⟩, fun h => ⟨h.fits, h.recent, h.past⟩⟩

/-- What a unit that fits says about a timestamp. -/
structure Names (rawTimestamp receiptTimestampNs : UInt64) (unit : UInt64 × Gate7TimestampUnit)
    (proof : Gate7TimestampProof) : Prop where
  named : proof.unit = unit.2
  timestamp : proof.timestampNs.toNat = rawTimestamp.toNat * unit.1.toNat
  receipt : proof.receiptTimestampNs = receiptTimestampNs
  age : proof.freshnessDeltaNs.toInt =
    receiptTimestampNs.toNat - (rawTimestamp.toNat * unit.1.toNat : ℕ)

/-- A unit says one thing about a timestamp. -/
theorem Names.unique {proof proof' : Gate7TimestampProof}
    (h : Names rawTimestamp receiptTimestampNs unit proof)
    (h' : Names rawTimestamp receiptTimestampNs unit proof') : proof = proof' := by
  obtain ⟨hunit, htimestamp, hreceipt, hage⟩ := h
  obtain ⟨hunit', htimestamp', hreceipt', hage'⟩ := h'
  rw [← htimestamp', UInt64.toNat_inj] at htimestamp
  rw [← hage', Int64.toInt_inj] at hage
  cases proof
  cases proof'
  simp_all

/-- At most one unit fits: the product with the larger one is a thousand times the other. -/
theorem places_unique (h : 121 * 10 ^ 9 ≤ receiptTimestampNs.toNat) :
    ∀ u ∈ timestampUnits, ∀ u' ∈ timestampUnits, Places rawTimestamp receiptTimestampNs u →
      Places rawTimestamp receiptTimestampNs u' → u = u' := by
  have hsecond : (1000000000 : UInt64).toNat = 1000000000 := rfl
  have hmilli : (1000000 : UInt64).toNat = 1000000 := rfl
  have hmicro : (1000 : UInt64).toNat = 1000 := rfl
  have hnano : (1 : UInt64).toNat = 1 := rfl
  intro u hu u' hu' hplaces hplaces'
  obtain ⟨-, hrecent, hpast⟩ := hplaces
  obtain ⟨-, hrecent', hpast'⟩ := hplaces'
  simp only [timestampUnits, List.mem_cons, List.not_mem_nil, or_false] at hu hu'
  rcases hu with rfl | rfl | rfl | rfl <;> rcases hu' with rfl | rfl | rfl | rfl <;>
    first
    | rfl
    | exfalso
      simp only [hsecond, hmilli, hmicro, hnano] at hrecent hpast hrecent' hpast'
      omega

section Scan

/-- A multiplier overflows in the check of the loop exactly when the product does. -/
theorem overflows_iff (hunit : 0 < unit.1.toNat) :
    0xffffffffffffffff / unit.1 < rawTimestamp ↔
      ¬rawTimestamp.toNat * unit.1.toNat < 2 ^ 64 := by
  have hall : (0xffffffffffffffff : UInt64).toNat = 2 ^ 64 - 1 := rfl
  rw [UInt64.lt_iff_toNat_lt, UInt64.toNat_div, hall, Nat.div_lt_iff_lt_mul hunit]
  omega

/-- The distance between a timestamp and its receipt, the limit on its side, and its age. -/
theorem distance_eq {timestampNs : UInt64} {product : ℕ} (hproduct : timestampNs.toNat = product) :
    ((if timestampNs ≤ receiptTimestampNs then maxAgeNs else maxFutureNs) <
        (if timestampNs ≤ receiptTimestampNs then receiptTimestampNs - timestampNs
          else timestampNs - receiptTimestampNs) ↔
      ¬(receiptTimestampNs.toNat ≤ product + 120 * 10 ^ 9 ∧
        product ≤ receiptTimestampNs.toNat + 5 * 10 ^ 9)) ∧
    (receiptTimestampNs.toNat ≤ product + 120 * 10 ^ 9 →
      product ≤ receiptTimestampNs.toNat + 5 * 10 ^ 9 →
      (if timestampNs ≤ receiptTimestampNs then
          (if timestampNs ≤ receiptTimestampNs then receiptTimestampNs - timestampNs
            else timestampNs - receiptTimestampNs).toInt64
        else -(if timestampNs ≤ receiptTimestampNs then receiptTimestampNs - timestampNs
            else timestampNs - receiptTimestampNs).toInt64).toInt =
        receiptTimestampNs.toNat - (product : ℕ)) := by
  have hage : maxAgeNs.toNat = 120 * 10 ^ 9 := rfl
  have hfuture : maxFutureNs.toNat = 5 * 10 ^ 9 := rfl
  by_cases hpast : timestampNs ≤ receiptTimestampNs
  · have hdistance : (receiptTimestampNs - timestampNs).toNat =
        receiptTimestampNs.toNat - product := by
      rw [UInt64.toNat_sub_of_le _ _ hpast, hproduct]
    rw [UInt64.le_iff_toNat_le, hproduct] at hpast
    have hle : timestampNs ≤ receiptTimestampNs := by rwa [UInt64.le_iff_toNat_le, hproduct]
    rw [if_pos hle, if_pos hle, if_pos hle, UInt64.lt_iff_toNat_lt, hage, hdistance]
    refine ⟨by omega, fun hrecent _ => ?_⟩
    rw [toInt_toInt64_of_lt (by omega), hdistance]
    omega
  · have hle : receiptTimestampNs ≤ timestampNs := UInt64.le_of_lt (UInt64.not_le.mp hpast)
    have hdistance : (timestampNs - receiptTimestampNs).toNat =
        product - receiptTimestampNs.toNat := by
      rw [UInt64.toNat_sub_of_le _ _ hle, hproduct]
    rw [UInt64.le_iff_toNat_le, hproduct] at hle
    rw [if_neg hpast, if_neg hpast, if_neg hpast, UInt64.lt_iff_toNat_lt, hfuture, hdistance]
    rw [UInt64.le_iff_toNat_le, hproduct] at hpast
    refine ⟨by omega, fun _ hnear => ?_⟩
    have hsigned := toInt_toInt64_of_lt (x := timestampNs - receiptTimestampNs) (by omega)
    rw [Int64.toInt_neg, hsigned, hdistance, Int.bmod_eq_of_le (by omega) (by omega)]
    omega

/-- The end of a turn, whatever it remembers of the closest timestamp. -/
theorem accept_result {scan closer : TimestampScan} (hcloser : closer.result = scan.result)
    {limit distance timestampNs : UInt64} {delta : Int64}
    (hlimit : limit < distance ↔ ¬Places rawTimestamp receiptTimestampNs unit)
    (hnames : Places rawTimestamp receiptTimestampNs unit → Names rawTimestamp receiptTimestampNs
      unit ⟨unit.2, timestampNs, receiptTimestampNs, delta⟩) :
    (¬Places rawTimestamp receiptTimestampNs unit → ∃ scan',
      (if limit < distance then some closer
        else if closer.result.isSome then none
        else some { closer with
          result := some ⟨unit.2, timestampNs, receiptTimestampNs, delta⟩ }) = some scan' ∧
        scan'.result = scan.result) ∧
    (Places rawTimestamp receiptTimestampNs unit → scan.result = none → ∃ scan' proof,
      (if limit < distance then some closer
        else if closer.result.isSome then none
        else some { closer with
          result := some ⟨unit.2, timestampNs, receiptTimestampNs, delta⟩ }) = some scan' ∧
        scan'.result = some proof ∧ Names rawTimestamp receiptTimestampNs unit proof) := by
  constructor
  · intro hplaces
    rw [if_pos (hlimit.mpr hplaces)]
    exact ⟨closer, rfl, hcloser⟩
  · intro hplaces hnone
    have hfresh : ¬closer.result.isSome = true := by
      rw [hcloser, hnone]
      exact Bool.false_ne_true
    rw [if_neg (fun h => hlimit.mp h hplaces), if_neg hfresh]
    exact ⟨_, _, rfl, rfl, hnames hplaces⟩

/-- **One turn of the loop.** A unit that does not fit leaves the result alone; one that fits
becomes the result, or ends the loop when there is one. -/
theorem scanUnit_result (hunit : 0 < unit.1.toNat) (scan : TimestampScan) :
    (¬Places rawTimestamp receiptTimestampNs unit → ∃ scan',
      scanUnit rawTimestamp receiptTimestampNs scan unit = some scan' ∧
        scan'.result = scan.result) ∧
    (Places rawTimestamp receiptTimestampNs unit → scan.result = none → ∃ scan' proof,
      scanUnit rawTimestamp receiptTimestampNs scan unit = some scan' ∧
        scan'.result = some proof ∧ Names rawTimestamp receiptTimestampNs unit proof) := by
  have hoverflow := @overflows_iff rawTimestamp _ hunit
  unfold scanUnit
  by_cases hfits : rawTimestamp.toNat * unit.1.toNat < 2 ^ 64
  · rw [if_neg (fun h => hoverflow.mp h hfits)]
    have hproduct : (rawTimestamp * unit.1).toNat = rawTimestamp.toNat * unit.1.toNat := by
      rw [UInt64.toNat_mul]
      exact Nat.mod_eq_of_lt hfits
    obtain ⟨hlimit, hage⟩ := @distance_eq receiptTimestampNs _ _ hproduct
    have hplaces : Places rawTimestamp receiptTimestampNs unit ↔
        receiptTimestampNs.toNat ≤ rawTimestamp.toNat * unit.1.toNat + 120 * 10 ^ 9 ∧
          rawTimestamp.toNat * unit.1.toNat ≤ receiptTimestampNs.toNat + 5 * 10 ^ 9 :=
      ⟨fun h => ⟨h.recent, h.past⟩, fun h => ⟨hfits, h.1, h.2⟩⟩
    dsimp only
    refine accept_result ?_ (hlimit.trans hplaces.not.symm) fun h => ⟨rfl, hproduct, rfl, ?_⟩
    · generalize (if rawTimestamp * unit.1 ≤ receiptTimestampNs then
        receiptTimestampNs - rawTimestamp * unit.1
        else rawTimestamp * unit.1 - receiptTimestampNs) = distance
      split
      · rfl
      · split
        · rfl
        · split <;> rfl
    · exact hage h.recent h.past
  · rw [if_pos (hoverflow.mpr hfits)]
    exact ⟨fun _ => ⟨scan, rfl, rfl⟩, fun h => (hfits h.fits).elim⟩

/-- **The loop.** Over units of which at most one fits, the result is what that one says. -/
theorem foldlM_scanUnit {units : List (UInt64 × Gate7TimestampUnit)}
    (hunits : ∀ u ∈ units, 0 < u.1.toNat)
    (hunique : units.Pairwise fun u u' => Places rawTimestamp receiptTimestampNs u →
      ¬Places rawTimestamp receiptTimestampNs u') {scan : TimestampScan}
    (hscan : scan.result.isSome = true → ∀ u ∈ units, ¬Places rawTimestamp receiptTimestampNs u) :
    ∃ scan', units.foldlM (scanUnit rawTimestamp receiptTimestampNs) scan = some scan' ∧
      ((∀ u ∈ units, ¬Places rawTimestamp receiptTimestampNs u) → scan'.result = scan.result) ∧
      ∀ u ∈ units, Places rawTimestamp receiptTimestampNs u →
        ∃ proof, scan'.result = some proof ∧ Names rawTimestamp receiptTimestampNs u proof := by
  induction units generalizing scan with
  | nil => exact ⟨scan, rfl, fun _ => rfl, nofun⟩
  | cons unit units ih =>
    rw [List.forall_mem_cons] at hunits
    rw [List.pairwise_cons] at hunique
    obtain ⟨hskips, haccepts⟩ := @scanUnit_result rawTimestamp receiptTimestampNs _ hunits.1 scan
    by_cases hplaces : Places rawTimestamp receiptTimestampNs unit
    · have hnone : scan.result = none := by
        by_contra hsome
        exact hscan (Option.isSome_iff_ne_none.mpr hsome) unit List.mem_cons_self hplaces
      obtain ⟨next, proof, hnext, hproof, hnames⟩ := haccepts hplaces hnone
      have hothers : ∀ u ∈ units, ¬Places rawTimestamp receiptTimestampNs u := fun u hu =>
        hunique.1 u hu hplaces
      obtain ⟨scan', hfold, hkept, -⟩ := @ih hunits.2 hunique.2 next fun _ => hothers
      refine ⟨scan', ?_, fun hall => (hall unit List.mem_cons_self hplaces).elim, ?_⟩
      · rw [List.foldlM_cons, hnext]
        exact hfold
      · intro u hu hu'
        rcases List.mem_cons.mp hu with rfl | hu
        · exact ⟨proof, (hkept hothers).trans hproof, hnames⟩
        · exact (hothers u hu hu').elim
    · obtain ⟨next, hnext, hresult⟩ := hskips hplaces
      have hscan' : next.result.isSome = true →
          ∀ u ∈ units, ¬Places rawTimestamp receiptTimestampNs u := by
        intro hsome u hu
        rw [hresult] at hsome
        exact hscan hsome u (List.mem_cons_of_mem unit hu)
      obtain ⟨scan', hfold, hkept, hfound⟩ := ih hunits.2 hunique.2 hscan'
      refine ⟨scan', ?_, fun hall => ?_, fun u hu hu' => ?_⟩
      · rw [List.foldlM_cons, hnext]
        exact hfold
      · rw [hkept fun u hu => hall u (List.mem_cons_of_mem unit hu), hresult]
      · rcases List.mem_cons.mp hu with rfl | hu
        · exact (hplaces hu').elim
        · exact hfound u hu hu'

end Scan

section Classification

/-- **The unit of a timestamp.** From 121 seconds after the epoch on at most one unit fits, and
the classification gives a result exactly when one does: that unit, the timestamp in
nanoseconds and its age at the receipt. -/
theorem classifyTimestamp_unique (rawTimestamp receiptTimestampNs : UInt64)
    (hreceipt : 121 * 10 ^ 9 ≤ receiptTimestampNs.toNat) :
    (∀ u ∈ timestampUnits, ∀ u' ∈ timestampUnits, Places rawTimestamp receiptTimestampNs u →
      Places rawTimestamp receiptTimestampNs u' → u = u') ∧
    ∀ proof, classifyTimestamp rawTimestamp receiptTimestampNs = some proof ↔
      ∃ u ∈ timestampUnits, Places rawTimestamp receiptTimestampNs u ∧
        Names rawTimestamp receiptTimestampNs u proof := by
  have hunique := @places_unique rawTimestamp _ hreceipt
  have hunits : ∀ u ∈ timestampUnits, 0 < u.1.toNat := by decide
  have hdistinct : timestampUnits.Nodup := by decide
  have hpairwise : timestampUnits.Pairwise fun u u' =>
      Places rawTimestamp receiptTimestampNs u → ¬Places rawTimestamp receiptTimestampNs u' :=
    hdistinct.imp_of_mem fun {u u'} hu hu' hne hplaces hplaces' =>
      hne (hunique u hu u' hu' hplaces hplaces')
  have hzero : receiptTimestampNs ≠ 0 := by
    rintro rfl
    exact absurd hreceipt (by decide)
  obtain ⟨scan, hfold, hkept, hfound⟩ := @foldlM_scanUnit _ _ _ hunits hpairwise {} nofun
  have hclassify : classifyTimestamp rawTimestamp receiptTimestampNs = scan.result := by
    unfold classifyTimestamp classifyTimestampDetailed
    rw [if_neg hzero, hfold]
    dsimp only
    cases scan.result with
    | some proof => rfl
    | none =>
      dsimp only
      split
      · rfl
      · split <;> rfl
  refine ⟨hunique, fun proof => ?_⟩
  rw [hclassify]
  constructor
  · intro hproof
    by_contra hnot
    have hnone : ∀ u ∈ timestampUnits, ¬Places rawTimestamp receiptTimestampNs u := by
      intro u hu hplaces
      obtain ⟨proof', hproof', hnames⟩ := hfound u hu hplaces
      rw [hproof, Option.some.injEq] at hproof'
      subst hproof'
      exact hnot ⟨u, hu, hplaces, hnames⟩
    rw [hkept hnone] at hproof
    cases hproof
  · rintro ⟨u, hu, hplaces, hnames⟩
    obtain ⟨proof', hproof', hnames'⟩ := hfound u hu hplaces
    rw [hproof', hnames'.unique hnames]

/-- A timestamp in seconds that is one second old. -/
theorem classifyTimestamp_unique_seconds :
    (∀ u ∈ timestampUnits, ∀ u' ∈ timestampUnits,
      Places 1700000000 1700000001000000000 u → Places 1700000000 1700000001000000000 u' →
        u = u') ∧
    ∀ proof, classifyTimestamp 1700000000 1700000001000000000 = some proof ↔
      ∃ u ∈ timestampUnits, Places 1700000000 1700000001000000000 u ∧
        Names 1700000000 1700000001000000000 u proof :=
  classifyTimestamp_unique 1700000000 1700000001000000000 (by decide)

example : (classifyTimestamp 1700000000 1700000001000000000).map (·.unit) = some .seconds ∧
    classifyTimestamp 1 1000000000 = none := by decide +kernel

end Classification

end CTraderGate7Proof

end TradeBot
