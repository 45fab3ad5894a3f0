import TradeBot.BrokerAdapterContracts
import TradeBot.FinancialExactness

/-!
# Amounts that survive a double

An amount leaves the fixed-point arithmetic through a `double` of 53 significant bits and comes
back through a `long double` of 64. Of at most `2 ^ 52` units it comes back as it was; beyond that
it can come back as another one.
-/

namespace TradeBot

open Library Financial

/-- A double that is read as a value whose double it is. -/
def Double.Steady [FloatFormat] (tag : Tag) (number : Double) : Prop :=
  ∃ value : Value tag, normalized tag number .rejectUnaligned = some value ∧
    value.toDouble = number

namespace Financial

variable {tag : Tag} {value : Value tag}

section Survival

variable [FloatFormat]

/-- The value comes back from its double as it was, even where unaligned values are rejected. -/
def Value.Survives (value : Value tag) : Prop :=
  normalize value.toDouble .rejectUnaligned = some value.units

instance : Decidable value.Survives := inferInstanceAs (Decidable (_ = _))

/-- A value that survives is read under every rounding but truncation. -/
theorem Value.Survives.read (h : value.Survives) {rounding : Rounding}
    (hrounding : rounding ≠ .towardZero) : normalized tag value.toDouble rounding = some value := by
  have hunits : normalize value.toDouble rounding = some value.units := by
    cases rounding with
    | towardZero => exact absurd rfl hrounding
    | rejectUnaligned => exact h
    | nearestTiesAwayFromZero => exact normalize_reject_eq_some h
  rw [normalized, hunits, Option.map_some]

/-- A price that survives the conversions is read back as itself. -/
theorem Value.Survives.price_eq {value : Price} (h : value.Survives) :
    price value.toDouble .rejectUnaligned = some value := h.read (by decide)

/-- A quantity that survives the conversions is read back as itself. -/
theorem Value.Survives.quantity_eq {value : Quantity} (h : value.Survives) :
    quantity value.toDouble .rejectUnaligned = some value := h.read (by decide)

/-- An amount of money that survives the conversions is read back as itself. -/
theorem Value.Survives.money_eq {value : Money} (h : value.Survives) :
    money value.toDouble .rejectUnaligned = some value := h.read (by decide)

/-- Under exact conversions every value survives. -/
theorem survives_of_exact [ExactFormat] (value : Value tag) : value.Survives :=
  normalize_toDouble value .rejectUnaligned

/-- What a surviving value is written as, is read and written back as the same double. -/
theorem Value.Survives.steady (h : value.Survives) : value.toDouble.Steady tag :=
  ⟨value, h.read (by decide), rfl⟩

/-- Larger values are read as larger ones. -/
theorem normalize_toDouble_mono {value other : Value tag} {units units' : Int64}
    (h : value.units.toInt ≤ other.units.toInt)
    (hvalue : normalize value.toDouble .rejectUnaligned = some units)
    (hother : normalize other.toDouble .rejectUnaligned = some units') :
    units.toInt ≤ units'.toInt := by
  have hdouble := toDouble_mono h
  rw [Value.toDouble, Value.toDouble, Double.finite_le_finite] at hdouble
  rw [Value.toDouble, normalize_reject_eq_some_iff] at hvalue hother
  rw [hvalue.1, hother.1]
  apply Double.round_mono
  apply FloatFormat.longDouble_mono
  exact mul_le_mul_of_nonneg_right hdouble scaleFactor_pos.le

/-- A value that comes back after being read twice had come back the first time. -/
theorem survives_of_read_back {other : Value tag}
    (hread : normalized tag value.toDouble .rejectUnaligned = some other)
    (hback : normalized tag other.toDouble .rejectUnaligned = some value) : value.Survives := by
  obtain ⟨units, hunits, rfl⟩ := Option.map_eq_some_iff.mp hread
  obtain ⟨units', hunits', rfl⟩ := Option.map_eq_some_iff.mp hback
  -- reading is monotone, so it cannot move a value up and then down again
  rcases le_total units'.toInt units.toInt with hle | hle
  · have hge := normalize_toDouble_mono hle hunits hunits'
    rw [Value.Survives, hunits, Int64.toInt_inj.mp (le_antisymm hle hge)]
  · have hge := normalize_toDouble_mono hle hunits' hunits
    rw [Value.Survives, hunits, Int64.toInt_inj.mp (le_antisymm hle hge)]

/-- The doubles of values that survive compare as their units do. -/
theorem Value.Survives.toDouble_le_iff {other : Value tag} (h : value.Survives)
    (hother : other.Survives) :
    value.toDouble ≤ other.toDouble ↔ value.units.toInt ≤ other.units.toInt := by
  refine ⟨fun hle => ?_, toDouble_mono⟩
  by_contra hlt
  have hge := toDouble_mono (not_le.mp hlt).le
  rw [Value.toDouble, Value.toDouble, Double.finite_le_finite] at hle hge
  have hsame : value.toDouble = other.toDouble := by
    rw [Value.toDouble, Value.toDouble, le_antisymm hle hge]
  have hunits := h
  rw [Value.Survives, hsame, hother, Option.some.injEq] at hunits
  rw [hunits] at hlt
  exact hlt le_rfl

/-- A price that is read of a double is not below the surviving prices that the double is not
below. -/
theorem Value.Survives.le_of_price {value : Double} {read v : Price} (h : v.Survives)
    (hread : price value = some read) (hle : ¬value < v.toDouble) :
    v.units.toInt ≤ read.units.toInt := by
  have hback := h.read (show Rounding.nearestTiesAwayFromZero ≠ .towardZero by decide)
  cases value with
  | nan => cases hread
  | infinite negative => cases hread
  | finite q =>
    obtain ⟨units, hunits, rfl⟩ := Option.map_eq_some_iff.mp hread
    obtain ⟨units', hunits', hv⟩ := Option.map_eq_some_iff.mp hback
    rw [Value.toDouble, Double.finite_lt_finite, not_lt] at hle
    rw [Value.toDouble, normalize_ties_eq_some_iff] at hunits'
    rw [normalize_ties_eq_some_iff] at hunits
    rw [← hv]
    change units'.toInt ≤ units.toInt
    rw [hunits', hunits]
    apply Double.round_mono
    apply FloatFormat.longDouble_mono
    exact mul_le_mul_of_nonneg_right hle scaleFactor_pos.le

/-- Zero survives in every format. -/
theorem survives_zero : (0 : Value tag).Survives := by
  unfold Value.Survives
  rw [toDouble_zero, normalize_zero]
  rfl

end Survival

/-! ### The formats of the platform -/

/-- A double is off its argument by at most one part in `2 ^ 53`. -/
theorem abs_double_sub_le (x : ℚ) : |FloatFormat.double x - x| ≤ |x| * (1 / 2 ^ 53) := by
  have h := abs_roundTo_sub_le_mul 53 x
  have hpow : (2 : ℚ) ^ (-(53 : ℕ) : ℤ) = 1 / 2 ^ 53 := by norm_num
  rwa [hpow] at h

/-- A long double is off its argument by at most one part in `2 ^ 64`. -/
theorem abs_longDouble_sub_le (x : ℚ) : |FloatFormat.longDouble x - x| ≤ |x| * (1 / 2 ^ 64) := by
  have h := abs_roundTo_sub_le_mul 64 x
  have hpow : (2 : ℚ) ^ (-(64 : ℕ) : ℤ) = 1 / 2 ^ 64 := by norm_num
  rwa [hpow] at h

/-- Below a power of two a double is off by the 54th bit at most. -/
theorem abs_double_sub_le_of_lt {x : ℚ} {k : ℕ} (h : |x| < 2 ^ k) :
    |FloatFormat.double x - x| ≤ 2 ^ k / 2 ^ 54 := by
  have hlt : |x| < (2 : ℚ) ^ ((k - 1 : ℤ) + 1) := by
    rw [sub_add_cancel, zpow_natCast]
    exact h
  have herror := @abs_roundTo_sub_le_of_lt 53 x (k - 1) hlt
  have hpow : (2 : ℚ) ^ ((k - 1 : ℤ) - (53 : ℕ)) = 2 ^ k / 2 ^ 54 := by
    rw [sub_sub, zpow_sub₀ (by norm_num), zpow_natCast]
    norm_num
  rwa [hpow] at herror

/-- Integers of fewer than 53 bits are doubles themselves. -/
theorem double_intCast {n : ℤ} (h : |n| < 2 ^ 53) : FloatFormat.double (n : ℚ) = n :=
  roundTo_intCast h

/-- The double of a value of less than `2 ^ 53` units is that of its exact decimal. -/
theorem toDouble_eq (h : |value.units.toInt| < 2 ^ 53) :
    value.toDouble = .finite (FloatFormat.double value.toRat) := by
  rw [Value.toDouble, double_intCast h, Value.toRat]

/-- **Small amounts survive.** -/
theorem survives_of_le (h : |value.units.toInt| ≤ 2 ^ 52) : value.Survives := by
  have hscale : (scaleFactor.toInt : ℚ) = 10 ^ 8 := scaleFactor_eq
  have hn : |(value.units.toInt : ℚ)| ≤ 2 ^ 52 := by exact_mod_cast h
  set n : ℚ := (value.units.toInt : ℚ) with hn_def
  have hquotient : |n / 10 ^ 8| = |n| / 10 ^ 8 := by
    rw [abs_div, abs_of_pos (by norm_num : (0 : ℚ) < 10 ^ 8)]
  -- the double is near to the decimal, absolutely and relatively
  have hnear : |FloatFormat.double (n / 10 ^ 8) - n / 10 ^ 8| ≤ 2 ^ 26 / 2 ^ 54 := by
    apply abs_double_sub_le_of_lt
    rw [hquotient, div_lt_iff₀ (by norm_num)]
    exact hn.trans_lt (by norm_num)
  have hrelative := abs_double_sub_le (n / 10 ^ 8)
  rw [hquotient] at hrelative
  set scaled := FloatFormat.double (n / 10 ^ 8) * 10 ^ 8 with hscaled_def
  have hscaled : scaled - n = (FloatFormat.double (n / 10 ^ 8) - n / 10 ^ 8) * 10 ^ 8 := by
    rw [hscaled_def]
    ring
  have hunits : |scaled - n| ≤ 10 ^ 8 * (2 ^ 26 / 2 ^ 54) := by
    rw [hscaled, abs_mul, abs_of_pos (by norm_num : (0 : ℚ) < 10 ^ 8)]
    linarith
  have hpart : |scaled - n| ≤ |n| * (1 / 2 ^ 53) := by
    rw [hscaled, abs_mul, abs_of_pos (by norm_num : (0 : ℚ) < 10 ^ 8)]
    linarith
  -- so is what comes back
  have hlong := abs_longDouble_sub_le scaled
  have hmagnitude : |scaled| ≤ |n| + |scaled - n| := by
    have h := abs_add_le n (scaled - n)
    rwa [add_sub_cancel] at h
  have hback : |FloatFormat.longDouble scaled - n| ≤
      |FloatFormat.longDouble scaled - scaled| + |scaled - n| := abs_sub_le _ _ _
  have hread : |n| ≤ |FloatFormat.longDouble scaled| + |FloatFormat.longDouble scaled - n| := by
    have h := abs_sub_le n (FloatFormat.longDouble scaled) 0
    rw [sub_zero, sub_zero, abs_sub_comm n] at h
    linarith
  have habs := abs_nonneg n
  unfold Value.Survives
  rw [Value.toDouble, double_intCast (h.trans_lt (by norm_num)), hscale, ← hn_def]
  refine normalize_finite ?_ ?_ (by decide)
  · rw [hscale, ← hscaled_def]
    apply Double.round_eq_of_abs_lt
    rw [← hn_def]
    linarith
  · rw [hscale, ← hscaled_def, ← hn_def]
    linarith

/-- Prices of at most ten million are subtracted exactly, once the difference is read back. -/
theorem price_sub_of_small {a b c : Price} (ha : |a.units.toInt| ≤ 10 ^ 15)
    (hb : |b.units.toInt| ≤ 10 ^ 15) (hc : c.units.toInt = a.units.toInt - b.units.toInt) :
    price (a.toDouble - b.toDouble).rounded = some c := by
  have hscale : (scaleFactor.toInt : ℚ) = 10 ^ 8 := scaleFactor_eq
  have hsmall {v : Price} (h : |v.units.toInt| ≤ 10 ^ 15) : |v.toRat| ≤ 10 ^ 7 := by
    have hcast : |(v.units.toInt : ℚ)| ≤ 10 ^ 15 := by exact_mod_cast h
    rw [Value.toRat, hscale, abs_div, abs_of_pos (by norm_num : (0 : ℚ) < 10 ^ 8),
      div_le_iff₀ (by norm_num)]
    exact hcast.trans (by norm_num)
  have hdouble {v : Price} (h : |v.units.toInt| ≤ 10 ^ 15) :
      |FloatFormat.double v.toRat - v.toRat| ≤ 2 ^ 24 / 2 ^ 54 :=
    abs_double_sub_le_of_lt ((hsmall h).trans_lt (by norm_num))
  have hca : c.toRat = a.toRat - b.toRat := by
    rw [Value.toRat, Value.toRat, Value.toRat, hc, Int.cast_sub, sub_div]
  rw [toDouble_eq (ha.trans_lt (by norm_num)), toDouble_eq (hb.trans_lt (by norm_num))]
  change price (.finite (FloatFormat.double
    (FloatFormat.double a.toRat + -FloatFormat.double b.toRat))) = some c
  obtain ⟨ha₁, ha₂⟩ := abs_le.mp (hsmall ha)
  obtain ⟨hb₁, hb₂⟩ := abs_le.mp (hsmall hb)
  obtain ⟨hda₁, hda₂⟩ := abs_le.mp (hdouble ha)
  obtain ⟨hdb₁, hdb₂⟩ := abs_le.mp (hdouble hb)
  set difference := FloatFormat.double a.toRat + -FloatFormat.double b.toRat with hdifference
  have hbound : |difference| < 2 ^ 25 := by
    rw [abs_lt]
    constructor <;> linarith
  obtain ⟨hd₁, hd₂⟩ := abs_le.mp (abs_double_sub_le_of_lt hbound)
  set rounded := FloatFormat.double difference
  have hrounded : |rounded * 10 ^ 8| ≤ 3 * 10 ^ 15 := by
    rw [abs_le]
    constructor <;> linarith
  have hlong := (abs_longDouble_sub_le (rounded * 10 ^ 8)).trans
    (mul_le_mul_of_nonneg_right hrounded (by norm_num))
  obtain ⟨hl₁, hl₂⟩ := abs_le.mp hlong
  have hunits : (c.units.toInt : ℚ) = (a.toRat - b.toRat) * 10 ^ 8 := by
    rw [← hca, Value.toRat, hscale, div_mul_cancel₀ _ (by norm_num)]
  rw [price, normalized, Option.map_eq_some_iff]
  refine ⟨c.units, normalize_ties_eq_some_iff.mpr ?_, rfl⟩
  rw [hscale]
  symm
  apply Double.round_eq_of_abs_lt
  rw [hunits, abs_lt]
  constructor <;> linarith

/-- Rounding keeps at least half of a number that is not negative. -/
theorem half_le_double {x : ℚ} (h : 0 ≤ x) : x / 2 ≤ FloatFormat.double x := by
  have herror := abs_double_sub_le x
  rw [abs_of_nonneg h, abs_le] at herror
  linarith [herror.1]

/-- Rounding to a long double keeps at least half of a nonnegative number. -/
theorem half_le_longDouble {x : ℚ} (h : 0 ≤ x) : x / 2 ≤ FloatFormat.longDouble x := by
  have herror := abs_longDouble_sub_le x
  rw [abs_of_nonneg h, abs_le] at herror
  linarith [herror.1]

end Financial

/-! ### Broker decimals -/

/-- The powers of ten that a broker decimal is divided by are exact. -/
theorem Decimal64.factor_eq {scale : ℕ} (h : scale ≤ maxScale) : factor scale = 10 ^ scale := by
  induction scale with
  | zero => rw [factor, pow_zero]
  | succ scale ih =>
    have hexact : ((10 ^ (scale + 1) : ℤ) : ℚ) = 10 ^ scale * 10 := by
      push_cast
      ring
    have hle : (10 : ℤ) ^ (scale + 1) ≤ 10 ^ 12 := pow_le_pow_right₀ (by norm_num) h
    rw [factor, ih (by omega), ← hexact, double_intCast]
    · push_cast
      rfl
    · rw [abs_of_pos (by positivity)]
      exact hle.trans_lt (by norm_num)

/-- The double of a decimal of less than `2 ^ 53` units is that of its exact value. -/
theorem Decimal64.toDouble_eq {d : Decimal64} (hscale : d.scale ≤ maxScale)
    (hunits : |d.units.toInt| < 2 ^ 53) :
    d.toDouble = .finite (FloatFormat.double d.toRat) := by
  rw [toDouble, factor_eq hscale, double_intCast hunits, toRat]

/-- A decimal that is a whole number of units is read as that number, where both are small. -/
theorem quantity_of_toRat {d : Decimal64} {q : Quantity} (hscale : d.scale ≤ Decimal64.maxScale)
    (hunits : |d.units.toInt| < 2 ^ 53) (hsmall : |q.units.toInt| ≤ 2 ^ 52)
    (h : q.toRat = d.toRat) : quantity d.toDouble .rejectUnaligned = some q := by
  have hdouble : d.toDouble = q.toDouble := by
    rw [Decimal64.toDouble_eq hscale hunits, toDouble_eq (hsmall.trans_lt (by norm_num)), h]
  rw [hdouble]
  exact (survives_of_le hsmall).read (by decide)

/-- A decimal of at most the engine's scale and of at most `2 ^ 52` units at that scale is read
exactly. -/
theorem quantity_of_small {d : Decimal64} (hscale : d.scale ≤ scale)
    (hsmall : |d.toRat * 10 ^ scale| ≤ 2 ^ 52) :
    ∃ q : Quantity, q.toRat = d.toRat ∧ |q.units.toInt| ≤ 2 ^ 52 ∧
      quantity d.toDouble .rejectUnaligned = some q := by
  have hwhole : d.toRat * 10 ^ scale = ((d.units.toInt * 10 ^ (scale - d.scale) : ℤ) : ℚ) := by
    have hpow : (10 : ℚ) ^ scale = 10 ^ d.scale * 10 ^ (scale - d.scale) := by
      rw [← pow_add, Nat.add_sub_cancel' hscale]
    rw [Decimal64.toRat, hpow]
    push_cast
    field_simp
  have hbound : |d.units.toInt * 10 ^ (scale - d.scale)| ≤ 2 ^ 52 := by
    rw [hwhole] at hsmall
    exact_mod_cast hsmall
  have hunits : |d.units.toInt| ≤ 2 ^ 52 := by
    have hone : 1 ≤ |(10 : ℤ) ^ (scale - d.scale)| := by
      rw [abs_of_pos (by positivity)]
      exact one_le_pow₀ (by norm_num)
    rw [abs_mul] at hbound
    exact (le_mul_of_one_le_right (abs_nonneg _) hone).trans hbound
  obtain ⟨q, hq⟩ := exists_value .quantity (z := d.units.toInt * 10 ^ (scale - d.scale))
    (by linarith [(abs_le.mp hbound).1]) (by linarith [(abs_le.mp hbound).2])
  have htoRat : q.toRat = d.toRat := by
    rw [Value.toRat, hq, scaleFactor_eq, ← hwhole, mul_div_cancel_right₀ _ (by positivity)]
  have hq_small : |q.units.toInt| ≤ 2 ^ 52 := by
    rw [hq]
    exact hbound
  exact ⟨q, htoRat, hq_small,
    quantity_of_toRat (hscale.trans (by decide)) (hunits.trans_lt (by norm_num)) hq_small htoRat⟩

/-- A small decimal is read as it is, and so is what is new in it. -/
theorem increment_of_small {d : Decimal64} {sold applied increment moved : Quantity}
    (hscale : d.scale ≤ scale) (hsmall : |d.toRat * 10 ^ scale| ≤ 2 ^ 52)
    (happlied : 0 ≤ applied.units.toInt)
    (hsold : quantity d.toDouble .rejectUnaligned = some sold)
    (hincrement : subtract sold applied = some increment) (hpositive : increment.isPositive = true)
    (hmoved : quantity increment.toDouble .rejectUnaligned = some moved) :
    sold.toRat = d.toRat ∧ moved = increment := by
  obtain ⟨q, hq, hunits, hquantity⟩ := quantity_of_small hscale hsmall
  obtain rfl : q = sold := Option.some.inj (hquantity.symm.trans hsold)
  -- an increment is positive and at most the cumulative quantity
  have hdifference := subtract_eq_some_iff.mp hincrement
  have hpos := (isPositive_iff _).mp hpositive
  have hincrementSmall : |increment.units.toInt| ≤ 2 ^ 52 := by
    rw [abs_of_pos hpos]
    exact (by omega : increment.units.toInt ≤ q.units.toInt).trans ((le_abs_self _).trans hunits)
  have hread := (survives_of_le hincrementSmall).quantity_eq
  exact ⟨hq, Option.some.inj (hmoved.symm.trans hread)⟩

/-- What is read of a number that is not negative is not negative. -/
theorem normalize_nonneg {v : ℚ} (hv : 0 ≤ v) {units : Int64}
    (h : normalize (.finite v) .rejectUnaligned = some units) : 0 ≤ units.toInt := by
  obtain ⟨hround, -⟩ := normalize_reject_eq_some_iff.mp h
  have hproduct := mul_nonneg hv scaleFactor_pos.le
  have hscaled : 0 ≤ FloatFormat.longDouble (v * scaleFactor.toInt) := by
    linarith [half_le_longDouble hproduct]
  rw [hround, Double.round, if_pos hscaled]
  exact Int.floor_nonneg.mpr (by linarith)

/-- A positive quantity is not read as a negative one. -/
theorem quantity_nonneg {q moved : Quantity} (hpositive : q.isPositive = true)
    (h : quantity q.toDouble .rejectUnaligned = some moved) : 0 ≤ moved.toRat := by
  obtain ⟨units, hunits, rfl⟩ := Option.map_eq_some_iff.mp h
  have hdouble := (zero_lt_toDouble q).mpr ((isPositive_iff q).mp hpositive)
  rw [Double.zero_eq, Value.toDouble, Double.finite_lt_finite] at hdouble
  have hnonneg := normalize_nonneg hdouble.le hunits
  exact div_nonneg (by exact_mod_cast hnonneg) scaleFactor_pos.le

/-- The conversion of a nonnegative decimal keeps its sign: the tolerance is smaller
than the least decimal that is not zero. -/
theorem quantity_sign {d : Decimal64} {q : Quantity} (hscale : d.scale ≤ Decimal64.maxScale)
    (hnonneg : 0 ≤ d.units.toInt) (h : quantity d.toDouble .rejectUnaligned = some q) :
    q.isNegative = false ∧ (q.isPositive = true ↔ 0 < d.units.toInt) := by
  obtain ⟨units, hunits, rfl⟩ := Option.map_eq_some_iff.mp h
  have hfactor : (scaleFactor.toInt : ℚ) = 10 ^ 8 := scaleFactor_eq
  have hpow : (0 : ℚ) < 10 ^ d.scale := by positivity
  rw [Decimal64.toDouble, Decimal64.factor_eq hscale] at hunits
  obtain ⟨hround, htolerance⟩ := normalize_reject_eq_some_iff.mp hunits
  rw [hfactor] at hround htolerance
  have hwords : 0 ≤ FloatFormat.double (d.units.toInt : ℚ) := by
    have hcast : (0 : ℚ) ≤ d.units.toInt := by exact_mod_cast hnonneg
    linarith [half_le_double hcast]
  have hquotient : 0 ≤ FloatFormat.double (d.units.toInt : ℚ) / 10 ^ d.scale := by positivity
  have hdecimal := half_le_double hquotient
  set decimal := FloatFormat.double (FloatFormat.double (d.units.toInt : ℚ) / 10 ^ d.scale)
  have hdecimal_nonneg : 0 ≤ decimal := by linarith
  have hscaled := half_le_longDouble (mul_nonneg hdecimal_nonneg (by positivity : (0 : ℚ) ≤ 10 ^ 8))
  set scaled := FloatFormat.longDouble (decimal * 10 ^ 8)
  have hscaled_nonneg : 0 ≤ scaled := by linarith
  have hge : 0 ≤ units.toInt := normalize_nonneg hdecimal_nonneg hunits
  refine ⟨?_, ?_⟩
  · rw [Bool.eq_false_iff, ne_eq, isNegative_iff]
    exact not_lt.mpr hge
  · rw [isPositive_iff]
    change 0 < units.toInt ↔ _
    constructor
    · intro hpositive
      by_contra hzero
      have hd : d.units.toInt = 0 := by omega
      have hdecimal_zero : decimal = 0 := by
        change FloatFormat.double (FloatFormat.double (d.units.toInt : ℚ) / 10 ^ d.scale) = 0
        rw [hd, Int.cast_zero, FloatFormat.double_zero, zero_div, FloatFormat.double_zero]
      have hround_zero : units.toInt = 0 := by
        rw [hround]
        change Double.round (FloatFormat.longDouble (decimal * 10 ^ 8)) = 0
        rw [hdecimal_zero, zero_mul, FloatFormat.longDouble_zero]
        exact Double.round_intCast 0
      omega
    · intro hpositive
      by_contra hzero
      have hunits_zero : units.toInt = 0 := by omega
      -- a least unit of scale twelve is far above the tolerance
      have hone : (1 : ℚ) ≤ d.units.toInt := by exact_mod_cast hpositive
      have hhalf := half_le_double (zero_le_one.trans hone)
      have hle : (10 : ℚ) ^ d.scale ≤ 10 ^ 12 := pow_le_pow_right₀ (by norm_num) hscale
      have hleast : (1 : ℚ) / (2 * 10 ^ 12) ≤
          FloatFormat.double (d.units.toInt : ℚ) / 10 ^ d.scale := by
        rw [div_le_div_iff₀ (by norm_num) hpow]
        linarith
      have htenth : FloatFormat.longDouble (1 / 10 ^ 7) ≤ 2 / 10 ^ 7 := by
        have herror := abs_longDouble_sub_le (1 / 10 ^ 7)
        rw [abs_of_pos (by norm_num : (0 : ℚ) < 1 / 10 ^ 7), abs_le] at herror
        linarith [herror.2]
      rw [hunits_zero, Int.cast_zero, sub_zero, abs_of_nonneg hscaled_nonneg, le_max_iff]
        at htolerance
      rcases htolerance with hsmall | hsmall
      · linarith
      · linarith

end TradeBot
