import TradeBot.CTrader.Gate7Proof
import TradeBot.Library.Fallible
import TradeBot.Library.Rounding
import TradeBot.OrderNormalization

/-!
# Spot prices at the scale of a symbol

`normalizeSignedScale5` takes a price in units of `10⁻⁵` to the digits of a symbol. Against the
exact quotient it rounds to the nearest unit with ties away from zero, and it is absent exactly
when the result is no signed word; the arithmetic on the way stays within its types.
-/

namespace TradeBot

open Library Financial

namespace CTraderGate7Proof

/-- A price in units of `10⁻⁵`, in units of the digits. -/
def atDigits (units : ℤ) (digits : ℤ) : ℚ := units * (10 : ℚ) ^ (digits - 5)

section Factors

/-- Digits that a symbol can have. -/
theorem exists_digits {digits : Int32} (hl : 0 ≤ digits.toInt)
    (hu : digits.toInt ≤ Decimal64.maxScale) :
    ∃ k ≤ 12, digits = Int32.ofNat k ∧ digits.toInt = k := by
  have hmax : Decimal64.maxScale = 12 := rfl
  refine ⟨digits.toInt.toNat, by omega, ?_, by omega⟩
  have hnat : (digits.toInt.toNat : ℤ) = digits.toInt := by omega
  rw [← Int32.ofInt_eq_ofNat, hnat, Int32.ofInt_toInt]

/-- The checked loop computes a power of ten, and never stops over the digits of a symbol. -/
theorem checkedFactor_eq : ∀ n ≤ 7, checkedFactor n = some (Int64.ofNat (10 ^ n)) := by decide

end Factors

section Rescaling

/-- The two comparisons of `normalizeSignedScale5` find the products that are no signed word. -/
theorem product_fits_iff {units factor : ℤ} (hpos : 0 < factor) :
    (-2 ^ 63 ≤ units * factor ∧ units * factor < 2 ^ 63) ↔
      ¬(0 < units ∧ (2 ^ 63 - 1) / factor < units) ∧
        ¬(units < 0 ∧ units < -(2 ^ 63 / factor)) := by
  have habove : units ≤ (2 ^ 63 - 1) / factor ↔ units * factor ≤ 2 ^ 63 - 1 :=
    Int.le_ediv_iff_mul_le hpos
  have hbelow : -units ≤ 2 ^ 63 / factor ↔ -units * factor ≤ 2 ^ 63 :=
    Int.le_ediv_iff_mul_le hpos
  rw [Int.neg_mul] at hbelow
  have hnonneg : 0 ≤ units → 0 ≤ units * factor := fun h => Int.mul_nonneg h hpos.le
  have hnonpos : units ≤ 0 → units * factor ≤ 0 := fun h =>
    Int.mul_nonpos_of_nonpos_of_nonneg h hpos.le
  constructor
  · intro hfits
    constructor <;> omega
  · intro hguards
    constructor <;> omega

/-- More digits than five: the product, where it is a signed word. -/
theorem normalizeSignedScale5_up (units : Int64) {k : ℕ} (hlow : 5 < k) (hhigh : k ≤ 12) :
    normalizeSignedScale5 units (Int32.ofNat k) = fit (units.toInt * 10 ^ (k - 5)) := by
  have hguard : ∀ k ≤ 12, 5 < k → ¬(Int32.ofNat k < 0 ∨
      Decimal64.maxScale < (Int32.ofNat k).toInt) ∧ Int32.ofNat k ≠ 5 ∧ 5 < Int32.ofNat k ∧
      (Int32.ofNat k - 5).toInt.toNat = k - 5 := by decide
  have hfactor : ∀ n ≤ 7, (Int64.ofNat (10 ^ n)).toInt = 10 ^ n := by decide
  obtain ⟨hdigits, hne, hlt, hsteps⟩ := hguard k hhigh hlow
  unfold normalizeSignedScale5
  rw [if_neg hdigits, if_neg hne, if_pos hlt, hsteps, checkedFactor_eq _ (by omega)]
  have hvalue := hfactor (k - 5) (by omega)
  have hpos : (0 : ℤ) < 10 ^ (k - 5) := by positivity
  generalize Int64.ofNat (10 ^ (k - 5)) = factor at hvalue
  rw [← hvalue] at hpos ⊢
  have hmax : (Int64.maxValue / factor).toInt = (2 ^ 63 - 1) / factor.toInt :=
    toInt_div_of_nonneg (by decide)
  have hmin : (Int64.minValue / factor).toInt = -(2 ^ 63 / factor.toInt) := by
    rw [Int64.toInt_div_of_ne_right _ _ (by rintro rfl; exact absurd hpos (by decide))]
    rw [show Int64.minValue.toInt = -2 ^ 63 from rfl, Int.neg_tdiv,
      Int.tdiv_eq_ediv_of_nonneg (by norm_num)]
  have hproduct := @product_fits_iff units.toInt _ hpos
  have hzero : (0 : Int64).toInt = 0 := rfl
  simp only [Int64.lt_iff_toInt_lt, hmax, hmin, hzero, fit]
  by_cases hfits : -2 ^ 63 ≤ units.toInt * factor.toInt ∧ units.toInt * factor.toInt < 2 ^ 63
  · obtain ⟨hover, hunder⟩ := hproduct.mp hfits
    rw [if_pos hfits, if_neg hover, if_neg hunder, ← toInt_mul_of_fits hfits.1 hfits.2,
      Int64.ofInt_toInt]
  · rw [if_neg hfits]
    rw [hproduct, not_and_not_right] at hfits
    split
    · rfl
    · next hover => rw [if_pos (hfits hover)]

/-- The unsigned detour of `normalizeSignedScale5` is the absolute value. -/
theorem toNat_unsigned (units : Int64) :
    (if units < 0 then (-(units + 1)).toUInt64 + 1 else units.toUInt64).toNat =
      units.toInt.natAbs := by
  rw [← toNat_magnitude, magnitude]
  have hzero : (0 : Int64).toInt = 0 := rfl
  by_cases hneg : units < 0
  · have hnonneg : ¬0 ≤ units := by
      rw [Int64.lt_iff_toInt_lt] at hneg
      rw [Int64.le_iff_toInt_le]
      omega
    rw [if_pos hneg, if_neg hnonneg]
  · have hnonneg : 0 ≤ units := by
      rw [Int64.lt_iff_toInt_lt] at hneg
      rw [Int64.le_iff_toInt_le]
      omega
    rw [if_neg hneg, if_pos hnonneg]

/-- Fewer digits than five: the rounded quotient. -/
theorem normalizeSignedScale5_down (units : Int64) {k : ℕ} (hlow : k < 5) :
    normalizeSignedScale5 units (Int32.ofNat k) =
      fit (signed (decide (units < 0))
        ((2 * units.toInt.natAbs + 10 ^ (5 - k)) / (2 * 10 ^ (5 - k)))) := by
  have hguard : ∀ k < 5, ¬(Int32.ofNat k < 0 ∨
      Decimal64.maxScale < (Int32.ofNat k).toInt) ∧ Int32.ofNat k ≠ 5 ∧ ¬5 < Int32.ofNat k ∧
      (5 - Int32.ofNat k).toInt.toNat = 5 - k := by decide
  have hfactor : ∀ n ≤ 5, (UInt64.ofNat (10 ^ n)).toNat = 10 ^ n := by decide
  have hbounds : ∀ k < 5, 10 ≤ 10 ^ (5 - k) ∧ 10 ^ (5 - k) ≤ 100000 := by decide
  obtain ⟨hdigits, hne, hlt, hsteps⟩ := hguard k hlow
  have hunsigned := toNat_unsigned units
  have hvalue := hfactor (5 - k) (by omega)
  obtain ⟨hten, hmost⟩ := hbounds k hlow
  have hl := Int64.le_toInt units
  have hu := Int64.toInt_lt units
  have hmax : Int64.maxValue.toUInt64.toNat = 2 ^ 63 - 1 := rfl
  unfold normalizeSignedScale5
  rw [if_neg hdigits, if_neg hne, if_neg hlt, hsteps]
  dsimp only
  generalize (if units < 0 then (-(units + 1)).toUInt64 + 1 else units.toUInt64) = m at hunsigned ⊢
  generalize UInt64.ofNat (10 ^ (5 - k)) = factor at hvalue ⊢
  generalize 10 ^ (5 - k) = f at hvalue hten hmost ⊢
  have hquotient : (m / factor).toNat = units.toInt.natAbs / f := by
    rw [UInt64.toNat_div, hunsigned, hvalue]
  have hremainder : (m % factor).toNat = units.toInt.natAbs % f := by
    rw [UInt64.toNat_mod, hunsigned, hvalue]
  have hmod : units.toInt.natAbs % f < f := Nat.mod_lt _ (by omega)
  have hdiv : units.toInt.natAbs / f ≤ 2 ^ 63 / 10 :=
    (Nat.div_le_div_right (by omega)).trans (Nat.div_le_div_left hten (by omega))
  have hdouble : (m % factor * 2).toNat = units.toInt.natAbs % f * 2 := by
    rw [UInt64.toNat_mul, hremainder, show (2 : UInt64).toNat = 2 from rfl]
    exact Nat.mod_eq_of_lt (by omega)
  have hround : factor ≤ m % factor * 2 ↔ f ≤ 2 * (units.toInt.natAbs % f) := by
    rw [UInt64.le_iff_toNat_le, hvalue, hdouble, mul_comm]
  have hnearest := nearest_quotient (by omega : 0 < f) units.toInt.natAbs
  generalize (2 * units.toInt.natAbs + f) / (2 * f) = q at hnearest ⊢
  have hfull : m / factor ≠ Int64.maxValue.toUInt64 := by
    intro heq
    rw [heq, hmax] at hquotient
    omega
  have hresult : (if factor ≤ m % factor * 2 then m / factor + 1 else m / factor).toNat = q := by
    by_cases h : factor ≤ m % factor * 2
    · rw [if_pos h, UInt64.toNat_add, hquotient, hnearest, if_pos (hround.mp h), UInt64.toNat_one]
      exact Nat.mod_eq_of_lt (by omega)
    · rw [if_neg h, hquotient, hnearest, if_neg (mt hround.mpr h), Nat.add_zero]
  have hsmall : q ≤ 2 ^ 63 / 10 + 1 := by
    rw [hnearest]
    split <;> omega
  rw [if_neg (fun h => hfull h.2)]
  generalize (if factor ≤ m % factor * 2 then m / factor + 1 else m / factor) = word at hresult ⊢
  have hword : word.toInt64.toInt = q := by
    rw [toInt_toInt64_of_lt (by omega), hresult]
  have hmost' : ¬Int64.maxValue.toUInt64 < word := by
    rw [UInt64.lt_iff_toNat_lt, hresult, hmax]
    omega
  rw [if_neg hmost', signed]
  by_cases hneg : units < 0
  · have hopposite : (-word.toInt64).toInt = -q := by
      rw [Int64.toInt_neg, hword]
      exact Int.bmod_eq_of_le (by omega) (by omega)
    rw [if_pos hneg, if_pos (decide_eq_true hneg), ← hopposite, fit_toInt]
  · rw [if_neg hneg, if_neg (by simpa using hneg), ← hword, fit_toInt]

/-- **Rounding.** The units at other digits are the rounded ones, where they are a signed word. -/
theorem normalizeSignedScale5_eq_fit (units : Int64) {digits : Int32} (hl : 0 ≤ digits.toInt)
    (hu : digits.toInt ≤ Decimal64.maxScale) :
    ∃ z, RoundsTo (atDigits units.toInt digits.toInt) z ∧
      normalizeSignedScale5 units digits = fit z := by
  obtain ⟨k, hk, rfl, hvalue⟩ := exists_digits hl hu
  rw [hvalue, atDigits]
  rcases Nat.lt_trichotomy k 5 with hlt | rfl | hgt
  · refine ⟨_, ?_, normalizeSignedScale5_down units hlt⟩
    have hpos : 0 < 10 ^ (5 - k) := by positivity
    have hround : RoundsTo ((units.toInt.natAbs : ℚ) / (10 ^ (5 - k) : ℕ)) _ :=
      roundsTo_div units.toInt.natAbs hpos
    have hpower : (10 : ℚ) ^ ((k : ℤ) - 5) = ((10 ^ (5 - k) : ℕ) : ℚ)⁻¹ := by
      have hexponent : (k : ℤ) - 5 = -((5 - k : ℕ) : ℤ) := by omega
      rw [hexponent, zpow_neg, zpow_natCast, Nat.cast_pow, Nat.cast_ofNat]
    rw [hpower, ← div_eq_mul_inv]
    generalize (2 * units.toInt.natAbs + 10 ^ (5 - k)) / (2 * 10 ^ (5 - k)) = q at hround
    generalize 10 ^ (5 - k) = f at hround
    have hzero : (0 : Int64).toInt = 0 := rfl
    by_cases hneg : units < 0
    · rw [signed, if_pos (decide_eq_true hneg)]
      rw [Int64.lt_iff_toInt_lt, hzero] at hneg
      have habs : (units.toInt : ℚ) = -(units.toInt.natAbs : ℚ) := by
        have hint : units.toInt = -(units.toInt.natAbs : ℤ) := by omega
        have hcast := congrArg (Int.cast : ℤ → ℚ) hint
        rwa [Int.cast_neg, Int.cast_natCast] at hcast
      rw [habs, neg_div]
      exact hround.neg
    · rw [signed, if_neg (by simpa using hneg)]
      rw [Int64.lt_iff_toInt_lt, hzero] at hneg
      have habs : (units.toInt : ℚ) = (units.toInt.natAbs : ℚ) := by
        have hint : units.toInt = (units.toInt.natAbs : ℤ) := by omega
        have hcast := congrArg (Int.cast : ℤ → ℚ) hint
        rwa [Int.cast_natCast] at hcast
      rw [habs]
      exact hround
  · refine ⟨units.toInt, ?_, ?_⟩
    · have hone : (10 : ℚ) ^ (((5 : ℕ) : ℤ) - 5) = 1 := by norm_num
      rw [hone, mul_one]
      exact roundsTo_intCast _
    · rw [fit_toInt]
      rfl
  · refine ⟨_, ?_, normalizeSignedScale5_up units hgt hk⟩
    have hpower : (10 : ℚ) ^ ((k : ℤ) - 5) = ((10 ^ (k - 5) : ℤ) : ℚ) := by
      have hexponent : (k : ℤ) - 5 = ((k - 5 : ℕ) : ℤ) := by omega
      rw [hexponent, zpow_natCast, Int.cast_pow, Int.cast_ofNat]
    rw [hpower, ← Int.cast_mul]
    exact roundsTo_intCast _

end Rescaling

section Steps

/-- Why a computation of `normalizeSignedScale5` ends without units. -/
inductive Stop where
  | nullopt
  | overflow
  deriving DecidableEq

/-- The value of an `int64_t` operation. -/
def signedStep (value : ℤ) : Except Stop ℤ :=
  if -2 ^ 63 ≤ value ∧ value < 2 ^ 63 then .ok value else .error .overflow

/-- The value of a `uint64_t` operation. -/
def unsignedStep (value : ℤ) : Except Stop ℤ :=
  if 0 ≤ value ∧ value < 2 ^ 64 then .ok value else .error .overflow

/-- The checked loop, step by step. -/
def factorSteps : ℕ → Except Stop ℤ
  | 0 => .ok 1
  | n + 1 => do
    let factor ← factorSteps n
    if (2 ^ 63 - 1) / 10 < factor then .error .nullopt else signedStep (factor * 10)

/-- The loop without a check, step by step. -/
def powerSteps : ℕ → Except Stop ℤ
  | 0 => .ok 1
  | n + 1 => do
    let factor ← powerSteps n
    signedStep (factor * 10)

/-- The unsigned detour, step by step. -/
def magnitudeSteps (units : ℤ) : Except Stop ℤ :=
  if units < 0 then do
    let next ← signedStep (units + 1)
    let opposite ← signedStep (-next)
    unsignedStep (opposite + 1)
  else unsignedStep units

/-- The quotient is rounded, step by step. -/
def roundSteps (factor doubled quotient : ℤ) : Except Stop ℤ :=
  if factor ≤ doubled then unsignedStep (quotient + 1) else .ok quotient

/-- `normalizeSignedScale5` on unbounded integers, where a value that its type does not hold is
an overflow. -/
def normalizeSteps (units digits : ℤ) : Except Stop ℤ :=
  if digits < 0 ∨ Decimal64.maxScale < digits then .error .nullopt
  else if digits = 5 then .ok units
  else if 5 < digits then do
    let factor ← factorSteps (digits - 5).toNat
    let most ← signedStep ((2 ^ 63 - 1) / factor)
    let least ← signedStep ((-2 ^ 63 : ℤ).tdiv factor)
    if 0 < units ∧ most < units then .error .nullopt
    else if units < 0 ∧ units < least then .error .nullopt
    else signedStep (units * factor)
  else do
    let factor ← powerSteps (5 - digits).toNat
    let magnitude ← magnitudeSteps units
    let quotient ← unsignedStep (magnitude / factor)
    let remainder ← unsignedStep (magnitude % factor)
    let doubled ← unsignedStep (remainder * 2)
    if factor ≤ doubled ∧ quotient = 2 ^ 63 - 1 then .error .nullopt
    else do
      let quotient ← roundSteps factor doubled quotient
      if 2 ^ 63 - 1 < quotient then .error .nullopt
      else do
        let rounded ← signedStep quotient
        if units < 0 then signedStep (-rounded) else .ok rounded

/-- The units of a result, or that there are none. -/
def outcome (result : Option Int64) : Except Stop ℤ :=
  result.elim (.error .nullopt) fun units => .ok units.toInt

/-- A value of the signed range is kept by the step. -/
theorem signedStep_eq {value : ℤ} (hl : -2 ^ 63 ≤ value) (hu : value < 2 ^ 63) :
    signedStep value = .ok value := if_pos ⟨hl, hu⟩

/-- A value of the unsigned range is kept by the step. -/
theorem unsignedStep_eq {value : ℤ} (hl : 0 ≤ value) (hu : value < 2 ^ 64) :
    unsignedStep value = .ok value := if_pos ⟨hl, hu⟩

/-- A result outside the signed range is reported as `nullopt`, as the code does. -/
theorem outcome_fit (z : ℤ) :
    outcome (fit z) = if -2 ^ 63 ≤ z ∧ z < 2 ^ 63 then .ok z else .error .nullopt := by
  unfold outcome fit
  split
  · next hfits =>
    rw [Option.elim_some, toInt_ofInt_of_fits hfits.1 hfits.2]
  · rfl

/-- The factors of the digits that occur are computed without overflow. -/
theorem factorSteps_eq : ∀ n ≤ 7, factorSteps n = .ok (10 ^ n) := by decide

/-- So are the powers of ten. -/
theorem powerSteps_eq : ∀ n ≤ 5, powerSteps n = .ok (10 ^ n) := by decide

/-- The magnitude of a word is its absolute value, also of the least one. -/
theorem magnitudeSteps_eq {units : ℤ} (hl : -2 ^ 63 ≤ units) (hu : units < 2 ^ 63) :
    magnitudeSteps units = .ok (units.natAbs : ℤ) := by
  unfold magnitudeSteps
  by_cases hneg : units < 0
  · rw [if_pos hneg, signedStep_eq (by omega) (by omega)]
    change (signedStep (-(units + 1)) >>= fun opposite => unsignedStep (opposite + 1)) = _
    rw [signedStep_eq (by omega) (by omega)]
    change unsignedStep (-(units + 1) + 1) = _
    rw [unsignedStep_eq (by omega) (by omega)]
    congr 1
    omega
  · rw [if_neg hneg, unsignedStep_eq (by omega) (by omega)]
    congr 1
    omega

/-- More digits than five, step by step. -/
theorem normalizeSteps_up (units : Int64) {k : ℕ} (hlow : 5 < k) (hhigh : k ≤ 12) :
    normalizeSteps units.toInt k = outcome (fit (units.toInt * 10 ^ (k - 5))) := by
  have hmax : Decimal64.maxScale = 12 := rfl
  have hl := Int64.le_toInt units
  have hu := Int64.toInt_lt units
  have hsteps : ((k : ℤ) - 5).toNat = k - 5 := by omega
  unfold normalizeSteps
  rw [if_neg (by omega), if_neg (by omega), if_pos (by omega), hsteps,
    factorSteps_eq _ (by omega)]
  have hpos : (0 : ℤ) < 10 ^ (k - 5) := by positivity
  generalize (10 : ℤ) ^ (k - 5) = factor at hpos ⊢
  have hmost : (2 ^ 63 - 1) / factor ≤ 2 ^ 63 - 1 := Int.ediv_le_self _ (by norm_num)
  have hmost' : 0 ≤ (2 ^ 63 - 1) / factor := Int.ediv_nonneg (by norm_num) hpos.le
  have hleast : (2 ^ 63 : ℤ) / factor ≤ 2 ^ 63 := Int.ediv_le_self _ (by norm_num)
  have hleast' : 0 ≤ (2 ^ 63 : ℤ) / factor := Int.ediv_nonneg (by norm_num) hpos.le
  have htdiv : (-2 ^ 63 : ℤ).tdiv factor = -(2 ^ 63 / factor) := by
    rw [Int.neg_tdiv, Int.tdiv_eq_ediv_of_nonneg (by norm_num)]
  have hproduct := @product_fits_iff units.toInt _ hpos
  rw [ok_bind, htdiv, signedStep_eq (by omega) (by omega), ok_bind,
    signedStep_eq (by omega) (by omega), ok_bind, outcome_fit]
  by_cases hfits : -2 ^ 63 ≤ units.toInt * factor ∧ units.toInt * factor < 2 ^ 63
  · obtain ⟨hover, hunder⟩ := hproduct.mp hfits
    rw [if_pos hfits, if_neg hover, if_neg hunder, signedStep_eq hfits.1 hfits.2]
  · rw [if_neg hfits]
    rw [hproduct, not_and_not_right] at hfits
    split
    · rfl
    · next hover => rw [if_pos (hfits hover)]

/-- Fewer digits than five, step by step. -/
theorem normalizeSteps_down (units : Int64) {k : ℕ} (hlow : k < 5) :
    normalizeSteps units.toInt k = outcome (fit (signed (decide (units < 0))
      ((2 * units.toInt.natAbs + 10 ^ (5 - k)) / (2 * 10 ^ (5 - k))))) := by
  have hmax : Decimal64.maxScale = 12 := rfl
  have hl := Int64.le_toInt units
  have hu := Int64.toInt_lt units
  have hsteps : (5 - (k : ℤ)).toNat = 5 - k := by omega
  have hbounds : ∀ k < 5, 10 ≤ 10 ^ (5 - k) ∧ 10 ^ (5 - k) ≤ 100000 := by decide
  obtain ⟨hten, hmost⟩ := hbounds k hlow
  unfold normalizeSteps
  rw [if_neg (by omega), if_neg (by omega), if_neg (by omega), hsteps,
    powerSteps_eq _ (by omega), ok_bind, magnitudeSteps_eq hl hu, ok_bind]
  have hcast : (10 : ℤ) ^ (5 - k) = ((10 ^ (5 - k) : ℕ) : ℤ) := by norm_num
  rw [hcast]
  generalize 10 ^ (5 - k) = f at hten hmost ⊢
  have hnearest := nearest_quotient (by omega : 0 < f) units.toInt.natAbs
  have hmod : units.toInt.natAbs % f < f := Nat.mod_lt _ (by omega)
  have hdiv : units.toInt.natAbs / f ≤ 2 ^ 63 / 10 :=
    (Nat.div_le_div_right (by omega)).trans (Nat.div_le_div_left hten (by omega))
  rw [← Int.natCast_ediv, ← Int.natCast_emod]
  generalize (2 * units.toInt.natAbs + f) / (2 * f) = q at hnearest ⊢
  generalize units.toInt.natAbs / f = quotient at hnearest hdiv ⊢
  generalize units.toInt.natAbs % f = remainder at hnearest hmod ⊢
  rw [unsignedStep_eq (by omega) (by omega), ok_bind, unsignedStep_eq (by omega) (by omega),
    ok_bind, unsignedStep_eq (by omega) (by omega), ok_bind, if_neg (by omega)]
  have hround : roundSteps f (remainder * 2) quotient = .ok (q : ℤ) := by
    unfold roundSteps
    by_cases h : f ≤ 2 * remainder
    · rw [if_pos (by omega), unsignedStep_eq (by omega) (by omega), hnearest, if_pos h]
      rfl
    · rw [if_neg (by omega), hnearest, if_neg h, Nat.add_zero]
  have hsmall : q ≤ 2 ^ 63 / 10 + 1 := by
    rw [hnearest]
    split <;> omega
  rw [hround, ok_bind, if_neg (by omega), signedStep_eq (by omega) (by omega), ok_bind, outcome_fit,
    signed]
  have hsign : decide (units < 0) = true ↔ units.toInt < 0 := by
    rw [decide_eq_true_iff, Int64.lt_iff_toInt_lt]
    rfl
  by_cases hneg : units.toInt < 0
  · rw [if_pos hneg, if_pos (hsign.mpr hneg), signedStep_eq (by omega) (by omega),
      if_pos (by omega)]
  · rw [if_neg hneg, if_neg (mt hsign.mp hneg), if_pos (by omega)]

/-- **No overflow.** Every value of `normalizeSignedScale5` on the way to its result is one of
its type. -/
theorem normalizeSteps_eq (units : Int64) {digits : Int32} (hl : 0 ≤ digits.toInt)
    (hu : digits.toInt ≤ Decimal64.maxScale) :
    normalizeSteps units.toInt digits.toInt = outcome (normalizeSignedScale5 units digits) := by
  obtain ⟨k, hk, rfl, hvalue⟩ := exists_digits hl hu
  rw [hvalue]
  rcases Nat.lt_trichotomy k 5 with hlt | rfl | hgt
  · rw [normalizeSteps_down units hlt, normalizeSignedScale5_down units hlt]
  · rfl
  · rw [normalizeSteps_up units hgt hk, normalizeSignedScale5_up units hgt hk]

end Steps

section Prices

/-- Order is kept. -/
theorem normalizeSignedScale5_mono {digits : Int32} (hl : 0 ≤ digits.toInt)
    (hu : digits.toInt ≤ Decimal64.maxScale) {units units' result result' : Int64}
    (hle : units ≤ units') (h : normalizeSignedScale5 units digits = some result)
    (h' : normalizeSignedScale5 units' digits = some result') : result ≤ result' := by
  obtain ⟨z, hround, heq⟩ := normalizeSignedScale5_eq_fit units hl hu
  obtain ⟨z', hround', heq'⟩ := normalizeSignedScale5_eq_fit units' hl hu
  rw [heq, fit_eq_some_iff] at h
  rw [heq', fit_eq_some_iff] at h'
  rw [Int64.le_iff_toInt_le] at hle ⊢
  rw [h, h']
  apply hround.mono hround'
  have hle : (units.toInt : ℚ) ≤ units'.toInt := by exact_mod_cast hle
  exact mul_le_mul_of_nonneg_right hle (zpow_pos (by norm_num) _).le

/-- A wire value is normalised as the signed word of the same number. -/
theorem normalizeSpotPrice_eq (raw : UInt64) (digits : Int32) :
    normalizeSpotPrice raw digits =
      if 0 < raw.toNat ∧ raw.toNat < 2 ^ 63 then
        (normalizeSignedScale5 (Int64.ofNat raw.toNat) digits).map
          fun units => ⟨units, digits.toInt.toNat⟩
      else none := by
  have hzero : raw = 0 ↔ raw.toNat = 0 := UInt64.toNat_inj.symm
  have hmax : Int64.maxValue.toUInt64.toNat = 2 ^ 63 - 1 := rfl
  have hword : raw.toInt64 = Int64.ofNat raw.toNat := by
    rw [← UInt64.toInt64_ofNat', UInt64.ofNat_toNat]
  unfold normalizeSpotPrice
  by_cases hraw : 0 < raw.toNat ∧ raw.toNat < 2 ^ 63
  · rw [if_pos hraw, if_neg, hword]
    · cases normalizeSignedScale5 (Int64.ofNat raw.toNat) digits <;> rfl
    · rw [hzero, UInt64.lt_iff_toNat_lt, hmax]
      omega
  · rw [if_neg hraw, if_pos]
    rw [hzero, UInt64.lt_iff_toNat_lt, hmax]
    omega

/-- **Prices at the scale of a symbol.** At every number of digits that a symbol can have: each
signed word is taken to its exact value rounded with ties away from zero, or to nothing where
that is no signed word; no step on the way overflows; order is kept; and a wire value gives the
same units as the signed word that it is, and nothing where it is none or zero. -/
theorem normalizeSignedScale5_exact {digits : Int32} (hl : 0 ≤ digits.toInt)
    (hu : digits.toInt ≤ Decimal64.maxScale) :
    (∀ units : Int64, ∃ z, RoundsTo (atDigits units.toInt digits.toInt) z ∧
      normalizeSignedScale5 units digits = fit z) ∧
    (∀ units : Int64,
      normalizeSteps units.toInt digits.toInt = outcome (normalizeSignedScale5 units digits)) ∧
    (∀ units units' result result' : Int64, units ≤ units' →
      normalizeSignedScale5 units digits = some result →
      normalizeSignedScale5 units' digits = some result' → result ≤ result') ∧
    ∀ raw : UInt64, normalizeSpotPrice raw digits =
      if 0 < raw.toNat ∧ raw.toNat < 2 ^ 63 then
        (normalizeSignedScale5 (Int64.ofNat raw.toNat) digits).map
          fun units => ⟨units, digits.toInt.toNat⟩
      else none :=
  ⟨fun units => normalizeSignedScale5_eq_fit units hl hu,
    fun units => normalizeSteps_eq units hl hu,
    fun _ _ _ _ hle => normalizeSignedScale5_mono hl hu hle,
    fun raw => normalizeSpotPrice_eq raw digits⟩

/-- Prices of two digits, the digits of most symbols. -/
theorem normalizeSignedScale5_exact_two :
    (∀ units : Int64, ∃ z, RoundsTo (atDigits units.toInt (2 : Int32).toInt) z ∧
      normalizeSignedScale5 units 2 = fit z) ∧
    (∀ units : Int64,
      normalizeSteps units.toInt (2 : Int32).toInt = outcome (normalizeSignedScale5 units 2)) ∧
    (∀ units units' result result' : Int64, units ≤ units' →
      normalizeSignedScale5 units 2 = some result →
      normalizeSignedScale5 units' 2 = some result' → result ≤ result') ∧
    ∀ raw : UInt64, normalizeSpotPrice raw 2 =
      if 0 < raw.toNat ∧ raw.toNat < 2 ^ 63 then
        (normalizeSignedScale5 (Int64.ofNat raw.toNat) 2).map
          fun units => ⟨units, (2 : Int32).toInt.toNat⟩
      else none :=
  normalizeSignedScale5_exact (by decide) (by decide)

/-- Ties go away from zero on both sides, and the least word keeps its magnitude. -/
example : normalizeSignedScale5 123455 4 = some 12346 ∧
    normalizeSignedScale5 (-123455) 4 = some (-12346) ∧
    normalizeSignedScale5 Int64.minValue 5 = some Int64.minValue ∧
    normalizeSignedScale5 Int64.minValue 6 = none := by decide

end Prices

end CTraderGate7Proof

end TradeBot
