import Mathlib.Data.Rat.Floor
import Mathlib.Tactic.Linarith
import TradeBot.Library.FloatRounding

/-!
# Floating point

The program keeps money in 64-bit units of `10⁻⁸` and passes it between
components as `double`. A finite `Double` is modelled by its rational value. The
conversions between units and doubles are rounded as the platform rounds them, so
that amounts beyond `2 ^ 52` units can come back as other amounts. Sums and products
of finite values are exact, except where a definition says otherwise. Infinities and
NaN are kept, since the input checks of the program test for them. Comparisons with
NaN are false.
-/

namespace TradeBot

open Library

/-- How a platform rounds results to its `double` and to its `long double`. -/
class FloatFormat where
  double : ℚ → ℚ
  longDouble : ℚ → ℚ
  double_zero : double 0 = 0
  longDouble_zero : longDouble 0 = 0
  double_pos : ∀ {x}, 0 < x → 0 < double x
  double_neg : ∀ {x}, x < 0 → double x < 0
  double_mono : ∀ {x y}, x ≤ y → double x ≤ double y
  longDouble_mono : ∀ {x y}, x ≤ y → longDouble x ≤ longDouble y

namespace FloatFormat

section Signs

variable [FloatFormat] {x : ℚ}

/-- Rounding keeps the sign: positive results come from positive numbers. -/
theorem zero_lt_double : 0 < double x ↔ 0 < x := by
  refine ⟨fun h => ?_, double_pos⟩
  by_contra hle
  obtain hneg | hzero := (not_lt.mp hle).lt_or_eq
  · exact (double_neg hneg).not_gt h
  · rw [hzero, double_zero] at h
    exact lt_irrefl 0 h

/-- And negative ones from negative numbers. -/
theorem double_lt_zero : double x < 0 ↔ x < 0 := by
  refine ⟨fun h => ?_, double_neg⟩
  by_contra hle
  obtain hpos | hzero := (not_lt.mp hle).lt_or_eq
  · exact (double_pos hpos).not_gt h
  · rw [← hzero, double_zero] at h
    exact lt_irrefl 0 h

end Signs

/-- The formats of x86-64: binary64, and the extended format of 64 significant bits. -/
instance ieee : FloatFormat where
  double := roundTo 53
  longDouble := roundTo 64
  double_zero := roundTo_zero 53
  longDouble_zero := roundTo_zero 64
  double_pos := roundTo_pos (by norm_num)
  double_neg := roundTo_neg_of_neg (by norm_num)
  double_mono := roundTo_mono (by norm_num)
  longDouble_mono := roundTo_mono (by norm_num)

/-- Formats in which nothing is rounded. -/
@[reducible] def exact : FloatFormat where
  double := id
  longDouble := id
  double_zero := rfl
  longDouble_zero := rfl
  double_pos := id
  double_neg := id
  double_mono := id
  longDouble_mono := id

end FloatFormat

/-- The conversions between units and doubles are taken as exact. -/
class ExactFormat [FloatFormat] : Prop where
  double_eq : ∀ x, FloatFormat.double x = x
  longDouble_eq : ∀ x, FloatFormat.longDouble x = x

instance : @ExactFormat .exact := @ExactFormat.mk .exact (fun _ => rfl) fun _ => rfl

/-- A C++ `double`. -/
inductive Double where
  | finite (value : ℚ)
  | infinite (negative : Bool)
  | nan
  deriving DecidableEq, Repr

namespace Double

instance : Zero Double := ⟨.finite 0⟩

instance : Inhabited Double := ⟨0⟩

/-- `std::isfinite` -/
def isFinite : Double → Bool
  | .finite _ => true
  | _ => false

/-- The operator `<`. -/
def lt : Double → Double → Bool
  | .finite a, .finite b => decide (a < b)
  | .finite _, .infinite n => !n
  | .infinite m, .finite _ => m
  | .infinite m, .infinite n => m && !n
  | _, _ => false

/-- The operator `<=`. -/
def le : Double → Double → Bool
  | .finite a, .finite b => decide (a ≤ b)
  | .finite _, .infinite n => !n
  | .infinite m, .finite _ => m
  | .infinite m, .infinite n => m || !n
  | _, _ => false

instance : LT Double := ⟨fun a b => a.lt b = true⟩

instance : LE Double := ⟨fun a b => a.le b = true⟩

instance (a b : Double) : Decidable (a < b) := inferInstanceAs (Decidable (a.lt b = true))

instance (a b : Double) : Decidable (a ≤ b) := inferInstanceAs (Decidable (a.le b = true))

/-- Finite doubles compare as the numbers they are. -/
@[simp] theorem finite_lt_finite (a b : ℚ) : Double.finite a < .finite b ↔ a < b := by
  change decide (a < b) = true ↔ a < b
  exact decide_eq_true_iff

/-- Finite doubles compare as the numbers they are. -/
@[simp] theorem finite_le_finite (a b : ℚ) : Double.finite a ≤ .finite b ↔ a ≤ b := by
  change decide (a ≤ b) = true ↔ a ≤ b
  exact decide_eq_true_iff

/-- The zero of the source is the finite one. -/
theorem zero_eq : (0 : Double) = .finite 0 := rfl

/-- Only numbers compare. -/
theorem ne_nan_of_le {a b : Double} (h : a ≤ b) : a ≠ .nan ∧ b ≠ .nan := by
  constructor
  · rintro rfl
    cases b <;> cases h
  · rintro rfl
    cases a <;> cases h

/-- Of two numbers one is not below the other exactly when it is above it. -/
theorem not_le {a b : Double} (ha : a ≠ .nan) (hb : b ≠ .nan) : ¬a ≤ b ↔ b < a := by
  cases a with
  | finite x =>
    cases b with
    | finite y => rw [finite_le_finite, finite_lt_finite, Rat.not_le]
    | infinite n =>
      change ¬(!n) = true ↔ n = true
      cases n <;> decide
    | nan => exact absurd rfl hb
  | infinite m =>
    cases b with
    | finite y =>
      change ¬m = true ↔ (!m) = true
      cases m <;> decide
    | infinite n => cases m <;> cases n <;> decide
    | nan => exact absurd rfl hb
  | nan => exact absurd rfl ha

/-- The operator `+`. -/
def add : Double → Double → Double
  | .finite a, .finite b => .finite (a + b)
  | .finite _, .infinite n => .infinite n
  | .infinite m, .finite _ => .infinite m
  | .infinite m, .infinite n => if m = n then .infinite m else .nan
  | _, _ => .nan

/-- Unary minus. -/
def neg : Double → Double
  | .finite a => .finite (-a)
  | .infinite m => .infinite !m
  | .nan => .nan

/-- The operator `*`. -/
def mul : Double → Double → Double
  | .finite a, .finite b => .finite (a * b)
  | .finite a, .infinite n => if a = 0 then .nan else .infinite (decide (a < 0) != n)
  | .infinite m, .finite b => if b = 0 then .nan else .infinite (m != decide (b < 0))
  | .infinite m, .infinite n => .infinite (m != n)
  | _, _ => .nan

/-- The operator `/`. The sign of a zero divisor is not tracked. -/
def div : Double → Double → Double
  | .finite a, .finite b =>
    if b = 0 then (if a = 0 then .nan else .infinite (decide (a < 0))) else .finite (a / b)
  | .finite _, .infinite _ => .finite 0
  | .infinite m, .finite b => .infinite (m != decide (b < 0))
  | _, _ => .nan

instance : Add Double := ⟨add⟩

instance : Neg Double := ⟨neg⟩

instance : Sub Double := ⟨fun a b => a.add b.neg⟩

instance : Mul Double := ⟨mul⟩

instance : Div Double := ⟨div⟩

/-- `std::max` -/
def max (a b : Double) : Double := if a < b then b else a

/-- `std::min` -/
def min (a b : Double) : Double := if b < a then b else a

/-- `std::fabs` -/
def abs : Double → Double
  | .finite a => .finite |a|
  | .infinite _ => .infinite false
  | .nan => .nan

/-- A result in the format of a `double`. -/
def rounded [FloatFormat] : Double → Double
  | .finite a => .finite (FloatFormat.double a)
  | value => value

/-- `std::trunc` on a finite value. -/
def trunc (value : ℚ) : ℤ := if 0 ≤ value then ⌊value⌋ else ⌈value⌉

/-- `std::round` on a finite value: to the nearest integer, ties away from zero. -/
def round (value : ℚ) : ℤ := if 0 ≤ value then ⌊value + 1 / 2⌋ else ⌈value - 1 / 2⌉

/-- Truncation keeps integers. -/
@[simp] theorem trunc_intCast (n : ℤ) : trunc (n : ℚ) = n := by
  unfold trunc
  split <;> simp

/-- Rounding keeps integers. -/
@[simp] theorem round_intCast (n : ℤ) : round (n : ℚ) = n := by
  unfold round
  split
  · rw [Int.floor_eq_iff]
    constructor <;> linarith
  · rw [Int.ceil_eq_iff]
    constructor <;> linarith

/-- Larger numbers are rounded to larger integers. -/
theorem round_mono {x y : ℚ} (h : x ≤ y) : round x ≤ round y := by
  unfold round
  split
  · next hx =>
    rw [if_pos (hx.trans h)]
    exact Int.floor_mono (by linarith)
  · next hx =>
    split
    · next hy =>
      have hceil : ⌈x - 1 / 2⌉ ≤ 0 := Int.ceil_le.mpr (by push_cast; linarith)
      exact hceil.trans (Int.floor_nonneg.mpr (by linarith))
    · exact Int.ceil_mono (by linarith)

/-- A number less than half away from an integer is rounded to it. -/
theorem round_eq_of_abs_lt {value : ℚ} {n : ℤ} (h : |value - n| < 1 / 2) : round value = n := by
  obtain ⟨hlow, hhigh⟩ := abs_lt.mp h
  unfold round
  split
  · rw [Int.floor_eq_iff]
    constructor <;> linarith
  · rw [Int.ceil_eq_iff]
    constructor <;> linarith

end Double

end TradeBot
