import TradeBot.TriggerOrderManager
import TradeBot.Library.CachedBest
import TradeBot.Library.Machine
import Mathlib.Data.Rat.Floor

/-!
# The order book

`L2OrderBook.cpp`: sizes on a grid of price levels around a movable base price. Each side keeps
the index of its best level and that of the level set by the last best bid and offer, with -1
for none. The casts of a floating-point number that no `int64_t` holds are left to the machine.
-/

namespace TradeBot

open Library

/-- `std::floor` -/
def Double.floor : Double → Double
  | .finite a => .finite ⌊a⌋
  | d => d

/-- `static_cast<int64_t>`: the value without its fraction, where an `int64_t` holds it, and
else what the machine gives. -/
def Double.toInt64 (outOfRange : Double → Int64) (d : Double) : Int64 :=
  match d with
  | .finite a =>
    if -2 ^ 63 ≤ Double.trunc a ∧ Double.trunc a < 2 ^ 63 then Int64.ofInt (Double.trunc a)
    else outOfRange d
  | _ => outOfRange d

/-- What is less is not at least. -/
theorem Double.not_le_of_lt {a b : Double} (h : a < b) : ¬b ≤ a := by
  cases a with
  | finite x =>
    cases b with
    | finite y =>
      rw [finite_lt_finite] at h
      rw [finite_le_finite]
      exact Rat.not_le.mpr h
    | infinite n =>
      change (!n) = true at h
      change ¬n = true
      cases n <;> simp at h ⊢
    | nan => cases h
  | infinite m =>
    cases b with
    | finite y =>
      change m = true at h
      change ¬(!m) = true
      cases m <;> simp at h ⊢
    | infinite n => revert h; cases m <;> cases n <;> decide
    | nan => cases h
  | nan => cases b <;> cases h

/-- The number of levels on each side. A vector of doubles holds fewer than `2 ^ 60`. -/
structure LevelCount where
  count : ℕ
  pos : 0 < count
  lt : count < 2 ^ 60

/-- The two sides of a book. -/
inductive QuoteSide where
  | bid
  | ask
  deriving DecidableEq

/-- The members of one side: its levels, its best index and the index of the last best bid or
offer. -/
structure BookSide (n : ℕ) where
  levels : Fin n → Double := fun _ => 0
  bestIdx : ℤ := -1
  lastBboIdx : ℤ := -1

/-- `L2OrderBook` -/
structure L2OrderBook (size : LevelCount) where
  tickSize : Double
  tickSize_pos : 0 < tickSize
  bid : BookSide size.count := {}
  ask : BookSide size.count := {}
  basePrice : Double := 0
  initialized : Bool := false
  recenters : UInt64 := 0

section Sides

variable {n : ℕ}

/-- A level holds a size. -/
def Filled (levels : Fin n → Double) (i : Fin n) : Prop := 0 < levels i

instance (levels : Fin n → Double) : DecidablePred (Filled levels) := fun i =>
  inferInstanceAs (Decidable (0 < levels i))

/-- `refreshBestBidFrom`: the best index after a scan below the start. -/
def refreshBestBidFrom (levels : Fin n → Double) (startIdx : ℕ) : ℤ :=
  if h : n ≤ startIdx then -1
  else lastBelow (Filled levels) startIdx (Nat.le_of_lt (Nat.lt_of_not_le h))

/-- `refreshBestAskFrom`: the best index after a scan from the start on. -/
def refreshBestAskFrom (levels : Fin n → Double) (startIdx : ℕ) : ℤ :=
  if n ≤ startIdx then -1
  else firstAmongLast (Filled levels) (n - startIdx) (Nat.sub_le n startIdx)

namespace QuoteSide

/-- An index is better than another one on this side. -/
def Improves : QuoteSide → ℤ → ℤ → Prop
  | .bid, idx, bestIdx => bestIdx < idx
  | .ask, idx, bestIdx => idx < bestIdx

instance (side : QuoteSide) (idx bestIdx : ℤ) : Decidable (side.Improves idx bestIdx) :=
  match side with
  | .bid => inferInstanceAs (Decidable (bestIdx < idx))
  | .ask => inferInstanceAs (Decidable (idx < bestIdx))

/-- The scan for the best index of this side. -/
def refreshBestFrom : QuoteSide → (Fin n → Double) → ℕ → ℤ
  | .bid => refreshBestBidFrom
  | .ask => refreshBestAskFrom

end QuoteSide

namespace BookSide

/-- `static_cast<std::size_t>` of an index. -/
def toSize (idx : ℤ) : ℕ := (idx % 2 ^ 64).toNat

/-- The end of `applyBidLevel` and `applyAskLevel`: the size is stored and the best index
follows. -/
def applyLevel (side : QuoteSide) (s : BookSide n) (idx : Fin n) (quantity : Double) :
    BookSide n :=
  let levels := Function.update s.levels idx quantity
  let bestIdx :=
    if 0 < quantity then
      if s.bestIdx < 0 ∨ side.Improves (idx : ℕ) s.bestIdx then ((idx : ℕ) : ℤ) else s.bestIdx
    else if s.bestIdx = (idx : ℕ) then side.refreshBestFrom levels idx
    else s.bestIdx
  { s with levels, bestIdx }

/-- The levels after the one of the last best bid or offer is emptied. -/
def clearLast (s : BookSide n) : Fin n → Double :=
  if 0 ≤ s.lastBboIdx then
    if h : toSize s.lastBboIdx < n then Function.update s.levels ⟨toSize s.lastBboIdx, h⟩ 0
    else s.levels
  else s.levels

/-- What `applyBbo` does on one side, for a size that is not negative. -/
def applyBbo (side : QuoteSide) (s : BookSide n) (idx : Fin n) (quantity : Double) :
    BookSide n :=
  let levels :=
    if 0 < quantity then Function.update s.clearLast idx quantity else s.clearLast
  let bestIdx :=
    if 0 < quantity then
      if s.bestIdx < 0 ∨ s.bestIdx = s.lastBboIdx ∨ side.Improves (idx : ℕ) s.bestIdx then
        ((idx : ℕ) : ℤ)
      else s.bestIdx
    else if s.bestIdx = s.lastBboIdx then
      side.refreshBestFrom levels (toSize s.lastBboIdx)
    else s.bestIdx
  { levels, bestIdx, lastBboIdx := if 0 < quantity then ((idx : ℕ) : ℤ) else -1 }

end BookSide

end Sides

namespace L2OrderBook

variable {size : LevelCount}

/-- The constructor. -/
def new (tickSize : Double) (size : LevelCount) : L2OrderBook size :=
  if h : 0 < tickSize then { tickSize, tickSize_pos := h }
  else { tickSize := .finite (1 / 100), tickSize_pos := by decide +kernel }

/-- `recenter` -/
def recenter (book : L2OrderBook size) (referencePrice : Double) : L2OrderBook size :=
  if referencePrice ≤ 0 ∨ book.tickSize ≤ 0 then book
  else { book with
    basePrice := referencePrice
    initialized := true
    bid := {}
    ask := {}
    recenters := book.recenters + 1 }

/-- `reset` -/
def reset (book : L2OrderBook size) (referencePrice : Double) : L2OrderBook size :=
  let cleared := { book with bid := {}, ask := {} }
  if 0 < referencePrice then cleared.recenter referencePrice
  else { cleared with basePrice := 0, initialized := false }

/-- The base price is set and the price at most a quarter of the levels away from it. -/
def NearBase (book : L2OrderBook size) (price : Double) : Prop :=
  book.initialized = true ∧
    ¬.finite ((size.count / 4 : ℕ) : ℚ) < (price - book.basePrice).abs / book.tickSize

instance (book : L2OrderBook size) (price : Double) : Decidable (book.NearBase price) :=
  inferInstanceAs (Decidable (_ ∧ _))

/-- `ensureMappable` -/
def ensureMappable (book : L2OrderBook size) (price : Double) : L2OrderBook size × Bool :=
  if price ≤ 0 then (book, false)
  else if book.NearBase price then (book, true)
  else (book.recenter price, true)

variable (outOfRange : Double → Int64)

/-- `toIndex` -/
def toIndex (book : L2OrderBook size) (price : Double) : Fin size.count :=
  if price ≤ 0 ∨ book.tickSize ≤ 0 then ⟨0, size.pos⟩
  else
    let ticks := ((price - book.basePrice) / book.tickSize + .finite (1 / 2)).floor
    let mid := size.count / 2
    let idx := max 0 (min (Int64.ofNat mid + ticks.toInt64 outOfRange).toInt (size.count - 1))
    ⟨idx.toNat, by have := size.pos; omega⟩

/-- `toPrice` -/
def toPrice (book : L2OrderBook size) (idx : ℕ) : Double :=
  let mid := size.count / 2
  let ticks : ℤ := idx - mid
  book.basePrice + .finite (ticks : ℚ) * book.tickSize

/-- `applyBidLevel` -/
def applyBidLevel (book : L2OrderBook size) (price quantity : Double) : L2OrderBook size × Bool :=
  if price ≤ 0 ∨ quantity < 0 then (book, false)
  else
    match book.ensureMappable price with
    | (book, false) => (book, false)
    | (book, true) =>
      ({ book with bid := book.bid.applyLevel .bid (book.toIndex outOfRange price) quantity }, true)

/-- `applyAskLevel` -/
def applyAskLevel (book : L2OrderBook size) (price quantity : Double) : L2OrderBook size × Bool :=
  if price ≤ 0 ∨ quantity < 0 then (book, false)
  else
    match book.ensureMappable price with
    | (book, false) => (book, false)
    | (book, true) =>
      ({ book with ask := book.ask.applyLevel .ask (book.toIndex outOfRange price) quantity }, true)

/-- `applyBbo` -/
def applyBbo (book : L2OrderBook size) (bidPrice bidQty askPrice askQty : Double) :
    L2OrderBook size × Bool :=
  if bidPrice ≤ 0 ∨ askPrice ≤ 0 ∨ askPrice < bidPrice then (book, false)
  else
    match book.ensureMappable bidPrice with
    | (book, false) => (book, false)
    | (book, true) =>
      match book.ensureMappable askPrice with
      | (book, false) => (book, false)
      | (book, true) =>
        ({ book with
          bid := book.bid.applyBbo .bid (book.toIndex outOfRange bidPrice) (Double.max 0 bidQty)
          ask := book.ask.applyBbo .ask (book.toIndex outOfRange askPrice) (Double.max 0 askQty) },
          true)

/-- `bbo` -/
def bbo (book : L2OrderBook size) : BestQuote :=
  if book.bid.bestIdx < 0 ∨ book.ask.bestIdx < 0 then {}
  else if h : BookSide.toSize book.bid.bestIdx < size.count ∧
      BookSide.toSize book.ask.bestIdx < size.count then
    { valid := true
      bidPrice := book.toPrice (BookSide.toSize book.bid.bestIdx)
      bidSize := book.bid.levels ⟨_, h.1⟩
      askPrice := book.toPrice (BookSide.toSize book.ask.bestIdx)
      askSize := book.ask.levels ⟨_, h.2⟩ }
  else {}

/-- The calls that change a book. -/
inductive Call where
  | reset (referencePrice : Double)
  | applyBidLevel (price quantity : Double)
  | applyAskLevel (price quantity : Double)
  | applyBbo (bidPrice bidQty askPrice askQty : Double)

/-- A book under its calls. `reset` answers nothing. -/
def machine (size : LevelCount) : Machine (L2OrderBook size) Call (Option Bool) where
  step book
    | .reset referencePrice => (book.reset referencePrice, none)
    | .applyBidLevel price quantity =>
      let (book, ok) := book.applyBidLevel outOfRange price quantity
      (book, some ok)
    | .applyAskLevel price quantity =>
      let (book, ok) := book.applyAskLevel outOfRange price quantity
      (book, some ok)
    | .applyBbo bidPrice bidQty askPrice askQty =>
      let (book, ok) := book.applyBbo outOfRange bidPrice bidQty askPrice askQty
      (book, some ok)

end L2OrderBook

end TradeBot
