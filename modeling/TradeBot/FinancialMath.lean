import TradeBot.Double

/-!
# Fixed-point money arithmetic

`FinancialMath.cpp`: prices, quantities, money and fractions are signed 64-bit
units of `10⁻⁸`. Products and quotients go through a 128-bit intermediate that is
multiplied limb by limb and divided bit by bit. Every operation whose result does
not fit returns `none`.
-/

namespace TradeBot.Financial

/-- `SCALE` -/
def scale : ℕ := 8

/-- `SCALE_FACTOR` -/
def scaleFactor : Int64 := 100000000

/-- `Rounding` -/
inductive Rounding where
  | towardZero
  | rejectUnaligned
  | nearestTiesAwayFromZero
  deriving DecidableEq, Repr

/-- The tag types that keep prices, quantities, money and fractions apart. -/
inductive Tag where
  | price
  | quantity
  | money
  | fraction
  deriving DecidableEq, Repr

/-- `Value`: signed units of `10⁻⁸`. -/
structure Value (tag : Tag) where
  units : Int64
  deriving DecidableEq, Repr

abbrev Price := Value .price
abbrev Quantity := Value .quantity
abbrev Money := Value .money
abbrev Fraction := Value .fraction

namespace Value

variable {tag : Tag}

instance : Zero (Value tag) := ⟨⟨0⟩⟩

instance : Inhabited (Value tag) := ⟨0⟩

/-- The exact decimal value. -/
def toRat (value : Value tag) : ℚ := value.units.toInt / scaleFactor.toInt

/-- `toDouble`: the units are cast to a `double` and divided by one. -/
def toDouble [FloatFormat] (value : Value tag) : Double :=
  .finite (FloatFormat.double
    (FloatFormat.double value.units.toInt / (scaleFactor.toInt : ℚ)))

/-- `isPositive` -/
def isPositive (value : Value tag) : Bool := decide (0 < value.units)

/-- `isNegative` -/
def isNegative (value : Value tag) : Bool := decide (value.units < 0)

/-- `isZero` -/
def isZero (value : Value tag) : Bool := decide (value.units = 0)

end Value

/-- The 128-bit intermediate of products and quotients. -/
structure UInt128 where
  high : UInt64
  low : UInt64
  deriving DecidableEq, Repr

/-- `magnitude` -/
def magnitude (value : Int64) : UInt64 :=
  if 0 ≤ value then value.toUInt64 else (-(value + 1)).toUInt64 + 1

/-- `multiplyWide`: schoolbook multiplication of 32-bit limbs. -/
def multiplyWide (lhs rhs : UInt64) : UInt128 :=
  let mask : UInt64 := 0xffffffff
  let lhsLow := lhs &&& mask
  let lhsHigh := lhs >>> 32
  let rhsLow := rhs &&& mask
  let rhsHigh := rhs >>> 32
  let lowLow := lhsLow * rhsLow
  let lowHigh := lhsLow * rhsHigh
  let highLow := lhsHigh * rhsLow
  let highHigh := lhsHigh * rhsHigh
  let middle := (lowLow >>> 32) + (lowHigh &&& mask) + (highLow &&& mask)
  { high := highHigh + (lowHigh >>> 32) + (highLow >>> 32) + (middle >>> 32)
    low := (middle <<< 32) ||| (lowLow &&& mask) }

/-- `bitAt` -/
def bitAt (value : UInt128) (index : ℕ) : Bool :=
  if 64 ≤ index then (value.high >>> UInt64.ofNat (index - 64)) &&& 1 != 0
  else (value.low >>> UInt64.ofNat index) &&& 1 != 0

/-- The loop of `divideWide` over the bits below `bits`, from the highest down.
The result is the final quotient and remainder. -/
def divideLoop (numerator : UInt128) (denominator : UInt64) :
    ℕ → UInt64 → UInt64 → Option (UInt64 × UInt64)
  | 0, quotient, remainder => some (quotient, remainder)
  | bit + 1, quotient, remainder =>
    let incoming := bitAt numerator bit
    let carry := remainder >>> 63 != 0
    let shifted := (remainder <<< 1) ||| (if incoming then 1 else 0)
    if carry || decide (denominator ≤ shifted) then
      if 64 ≤ bit then none
      else
        divideLoop numerator denominator bit (quotient ||| (1 <<< UInt64.ofNat bit))
          (shifted - denominator)
    else divideLoop numerator denominator bit quotient shifted

/-- `divideWide`, with the remainder that the source returns by reference. -/
def divideWide (numerator : UInt128) (denominator : UInt64) : Option (UInt64 × UInt64) :=
  if denominator = 0 then none else divideLoop numerator denominator 128 0 0

/-- `signedQuotient` -/
def signedQuotient (numerator : UInt128) (denominator : UInt64) (negative : Bool)
    (rounding : Rounding) : Option Int64 :=
  match divideWide numerator denominator with
  | none => none
  | some (quotient, remainder) =>
    if rounding = .rejectUnaligned ∧ remainder ≠ 0 then none
    else
      let roundsAway : Bool := rounding = .nearestTiesAwayFromZero ∧
        denominator / 2 + denominator % 2 ≤ remainder
      if roundsAway ∧ quotient = 0xffffffffffffffff then none
      else
        let quotient := if roundsAway then quotient + 1 else quotient
        let positiveLimit := Int64.maxValue.toUInt64
        let negativeLimit := positiveLimit + 1
        if (¬negative ∧ positiveLimit < quotient) ∨ (negative ∧ negativeLimit < quotient) then
          none
        else if negative ∧ quotient = negativeLimit then some Int64.minValue
        else
          let signedValue := quotient.toInt64
          some (if negative then -signedValue else signedValue)

section Conversions

variable [FloatFormat]

/-- `normalize`: the units of a double under a rounding mode, through a `long double`. -/
def normalize (value : Double) (rounding : Rounding) : Option Int64 :=
  match value with
  | .finite v =>
    let scaled := FloatFormat.longDouble (v * scaleFactor.toInt)
    let rounded? : Option ℤ := match rounding with
      | .towardZero => some (Double.trunc scaled)
      | .rejectUnaligned =>
        let rounded := Double.round scaled
        -- twice the machine epsilon, relative to the scaled value
        let tolerance := max (FloatFormat.longDouble (1 / 10 ^ 7)) (|scaled| * (1 / 2 ^ 52) * 2)
        if tolerance < |scaled - rounded| then none else some rounded
      | .nearestTiesAwayFromZero => some (Double.round scaled)
    match rounded? with
    | none => none
    | some rounded =>
      if rounded < Int64.minValue.toInt ∨ Int64.maxValue.toInt < rounded then none
      else some (Int64.ofInt rounded)
  | _ => none

end Conversions

/-- `checkedAdd` -/
def checkedAdd (lhs rhs : Int64) : Option Int64 :=
  if (0 < rhs ∧ Int64.maxValue - rhs < lhs) ∨ (rhs < 0 ∧ lhs < Int64.minValue - rhs) then none
  else some (lhs + rhs)

/-- `checkedSubtract` -/
def checkedSubtract (lhs rhs : Int64) : Option Int64 :=
  if (0 < rhs ∧ lhs < Int64.minValue + rhs) ∨ (rhs < 0 ∧ Int64.maxValue + rhs < lhs) then none
  else some (lhs - rhs)

/-- `scaledProduct` -/
def scaledProduct (lhs rhs : Int64) (rounding : Rounding) : Option Int64 :=
  let negative := decide (lhs < 0) != decide (rhs < 0)
  signedQuotient (multiplyWide (magnitude lhs) (magnitude rhs)) scaleFactor.toUInt64 negative
    rounding

/-- `scaledRatio` -/
def scaledRatio (numerator denominator : Int64) (rounding : Rounding) : Option Int64 :=
  if denominator = 0 then none
  else
    let negative := decide (numerator < 0) != decide (denominator < 0)
    signedQuotient (multiplyWide (magnitude numerator) scaleFactor.toUInt64)
      (magnitude denominator) negative rounding

/-- `proportionalUnits` -/
def proportionalUnits (total part whole : Int64) (rounding : Rounding) : Option Int64 :=
  if whole = 0 then none
  else
    let negative := (decide (total < 0) != decide (part < 0)) != decide (whole < 0)
    signedQuotient (multiplyWide (magnitude total) (magnitude part)) (magnitude whole) negative
      rounding

section Conversions

variable [FloatFormat]

/-- `normalized`: the typed value of a double. -/
def normalized (tag : Tag) (value : Double) (rounding : Rounding) : Option (Value tag) :=
  (normalize value rounding).map Value.mk

/-- `price` -/
def price (value : Double) (rounding : Rounding := .nearestTiesAwayFromZero) : Option Price :=
  normalized .price value rounding

/-- `quantity` -/
def quantity (value : Double) (rounding : Rounding := .towardZero) : Option Quantity :=
  normalized .quantity value rounding

/-- `money` -/
def money (value : Double) (rounding : Rounding := .nearestTiesAwayFromZero) : Option Money :=
  normalized .money value rounding

/-- `fraction` -/
def fraction (value : Double) (rounding : Rounding := .nearestTiesAwayFromZero) :
    Option Fraction :=
  normalized .fraction value rounding

end Conversions

/-- `add`, for money and for quantities. -/
def add {tag : Tag} (lhs rhs : Value tag) : Option (Value tag) :=
  (checkedAdd lhs.units rhs.units).map Value.mk

/-- `subtract`, for money and for quantities. -/
def subtract {tag : Tag} (lhs rhs : Value tag) : Option (Value tag) :=
  (checkedSubtract lhs.units rhs.units).map Value.mk

/-- `notional` -/
def notional (priceValue : Price) (quantityValue : Quantity)
    (rounding : Rounding := .nearestTiesAwayFromZero) : Option Money :=
  (scaledProduct priceValue.units quantityValue.units rounding).map Value.mk

/-- `fee` -/
def fee (notionalValue : Money) (rate : Fraction)
    (rounding : Rounding := .nearestTiesAwayFromZero) : Option Money :=
  (scaledProduct notionalValue.units rate.units rounding).map Value.mk

/-- `applySlippage` -/
def applySlippage (marketPrice : Price) (slippageRate : Fraction) (buySide : Bool)
    (rounding : Rounding := .nearestTiesAwayFromZero) : Option Price :=
  if !marketPrice.isPositive || slippageRate.isNegative
      || decide (scaleFactor ≤ slippageRate.units) then none
  else
    let multiplier := if buySide then scaleFactor + slippageRate.units
      else scaleFactor - slippageRate.units
    match scaledProduct marketPrice.units multiplier rounding with
    | none => none
    | some units => if 0 < units then some ⟨units⟩ else none

/-- `quantityForNotional` -/
def quantityForNotional (notionalBudget : Money) (priceValue : Price)
    (rounding : Rounding := .towardZero) : Option Quantity :=
  if notionalBudget.isNegative || !priceValue.isPositive then none
  else (scaledRatio notionalBudget.units priceValue.units rounding).map Value.mk

/-- `notionalBeforeFee` -/
def notionalBeforeFee (totalBudget : Money) (feeRate : Fraction)
    (rounding : Rounding := .towardZero) : Option Money :=
  if totalBudget.isNegative || feeRate.isNegative then none
  else match checkedAdd scaleFactor feeRate.units with
    | none => none
    | some denominator =>
      if denominator ≤ 0 then none
      else (scaledRatio totalBudget.units denominator rounding).map Value.mk

/-- `averagePrice` -/
def averagePrice (costBasis : Money) (quantityValue : Quantity)
    (rounding : Rounding := .nearestTiesAwayFromZero) : Option Price :=
  if costBasis.isNegative || !quantityValue.isPositive then none
  else (scaledRatio costBasis.units quantityValue.units rounding).map Value.mk

/-- `proportional` -/
def proportional (total : Money) (part whole : Quantity)
    (rounding : Rounding := .nearestTiesAwayFromZero) : Option Money :=
  if part.isNegative || !whole.isPositive || decide (whole.units < part.units) then none
  else (proportionalUnits total.units part.units whole.units rounding).map Value.mk

/-- A fee or slippage rate: a fraction from zero to below one. -/
structure Rate where
  value : Fraction
  nonneg : value.isNegative = false
  lt_one : value.units < scaleFactor

/-- The rate of a fraction that is one. -/
def Rate.ofFraction (fraction : Option Fraction) : Option Rate :=
  match fraction with
  | none => none
  | some value =>
    if h : value.isNegative = false ∧ value.units < scaleFactor then some ⟨value, h.1, h.2⟩
    else none

end TradeBot.Financial
