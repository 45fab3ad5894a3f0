import TradeBot.MarketData.BestQuotes
import Mathlib.Algebra.Order.Round

/-!
# The prices an order book reports

A price that fits on the grid of a book is stored at the level nearest to it, at most half a
tick away. A best bid and offer is reported at the levels of its own prices, unless a level set
otherwise is better.
-/

namespace TradeBot

open Library

namespace Double

/-- Finite numbers are subtracted as rationals. -/
theorem finite_sub_finite (a b : ℚ) : Double.finite a - .finite b = .finite (a - b) := by
  change Double.finite (a + -b) = _
  rw [← sub_eq_add_neg]

/-- Finite numbers are added as rationals. -/
theorem finite_add_finite (a b : ℚ) : Double.finite a + .finite b = .finite (a + b) := rfl

/-- Finite numbers are multiplied as rationals. -/
theorem finite_mul_finite (a b : ℚ) : Double.finite a * .finite b = .finite (a * b) := rfl

/-- Finite numbers are divided as rationals, unless the divisor is zero. -/
theorem finite_div_finite (a : ℚ) {b : ℚ} (hb : b ≠ 0) :
    Double.finite a / .finite b = .finite (a / b) := if_neg hb

/-- A whole number in the range of 64 bits is kept by the conversion to an index. -/
theorem toInt64_intCast {z : ℤ} (outOfRange : Double → Int64) (hlow : -2 ^ 63 ≤ z)
    (hhigh : z < 2 ^ 63) : (toInt64 outOfRange (.finite z)).toInt = z := by
  unfold toInt64
  dsimp only
  rw [trunc_intCast, if_pos ⟨hlow, hhigh⟩]
  exact Int64.toInt_ofInt_of_le hlow hhigh

end Double

namespace L2OrderBook

variable {size : LevelCount} {outOfRange : Double → Int64} {book : L2OrderBook size}
  {tick base : ℚ}

section Grid

/-- The grid of a book: its tick, and its base price once it is set. -/
structure OnGrid (book : L2OrderBook size) (tick base : ℚ) : Prop where
  tick_eq : book.tickSize = .finite tick
  base_eq : book.basePrice = .finite base

/-- The tick of a book on a grid is positive. -/
theorem OnGrid.tick_pos (h : OnGrid book tick base) : 0 < tick := by
  have hpos := book.tickSize_pos
  rwa [h.tick_eq, Double.zero_eq, Double.finite_lt_finite] at hpos

/-- A price that passes the check of the book is positive. -/
theorem pos_of_not_le {price : ℚ} (h : ¬Double.finite price ≤ 0) : 0 < price := by
  rw [Double.zero_eq, Double.finite_le_finite] at h
  exact Rat.not_le.mp h

/-- A positive price passes the check of the book. -/
theorem not_le_of_pos {price : ℚ} (h : 0 < price) : ¬Double.finite price ≤ 0 := by
  rw [Double.zero_eq, Double.finite_le_finite]
  exact Rat.not_le.mpr h

/-- The level nearest to a price, which may lie outside of the grid. -/
def nearestLevel (size : LevelCount) (tick base price : ℚ) : ℤ :=
  (size.count / 2 : ℕ) + round ((price - base) / tick)

/-- **The level of a price.** Where the nearest level is on the grid, the price is stored there,
at most half a tick away. -/
theorem toIndex_near (h : OnGrid book tick base) {price : ℚ} (hprice : 0 < price)
    (hlow : 0 ≤ nearestLevel size tick base price)
    (hhigh : nearestLevel size tick base price < size.count) :
    ((book.toIndex outOfRange (.finite price) : ℕ) : ℤ) = nearestLevel size tick base price ∧
      ∃ stored : ℚ, book.toPrice (book.toIndex outOfRange (.finite price)) = .finite stored ∧
        |stored - price| ≤ tick / 2 := by
  have htick := h.tick_pos
  have hpos : ¬(Double.finite price ≤ 0 ∨ book.tickSize ≤ 0) := by
    rw [h.tick_eq]
    exact not_or.mpr ⟨not_le_of_pos hprice, not_le_of_pos htick⟩
  have hticks : (.finite price - book.basePrice) / book.tickSize + .finite (1 / 2) =
      .finite ((price - base) / tick + 1 / 2) := by
    rw [h.tick_eq, h.base_eq, Double.finite_sub_finite, Double.finite_div_finite _ htick.ne',
      Double.finite_add_finite]
  have hfloor : Double.floor (.finite ((price - base) / tick + 1 / 2)) =
      .finite (round ((price - base) / tick) : ℤ) := by
    rw [round_eq]
    rfl
  have hlt := size.lt
  have hidx : ((book.toIndex outOfRange (.finite price) : ℕ) : ℤ) =
      nearestLevel size tick base price := by
    unfold nearestLevel at hlow hhigh ⊢
    unfold toIndex
    rw [if_neg hpos]
    dsimp only
    rw [hticks, hfloor]
    generalize round ((price - base) / tick) = z at hlow hhigh ⊢
    have hz := Double.toInt64_intCast (z := z) outOfRange (by omega) (by omega)
    have hmid : (Int64.ofNat (size.count / 2)).toInt = (size.count / 2 : ℕ) :=
      Int64.toInt_ofNat_of_lt (by omega)
    rw [Int64.toInt_add, hz, hmid, Int.bmod_eq_of_le (by omega) (by omega)]
    omega
  refine ⟨hidx, base + round ((price - base) / tick) * tick, ?_, ?_⟩
  · unfold toPrice
    dsimp only
    rw [hidx, h.base_eq, h.tick_eq]
    unfold nearestLevel
    rw [add_sub_cancel_left, Double.finite_mul_finite, Double.finite_add_finite]
  · have herror := abs_sub_round ((price - base) / tick)
    have hscaled : base + round ((price - base) / tick) * tick - price =
        -(((price - base) / tick - round ((price - base) / tick)) * tick) := by
      field_simp
      ring
    rw [hscaled, abs_neg, abs_mul, abs_of_pos htick]
    calc |(price - base) / tick - round ((price - base) / tick)| * tick
        ≤ 1 / 2 * tick := mul_le_mul_of_nonneg_right herror htick.le
      _ = tick / 2 := by ring

/-- A price at most a quarter of the levels away from the base has a level. -/
theorem nearestLevel_near (h : OnGrid book tick base) {price : ℚ}
    (hnear : book.NearBase (.finite price)) :
    0 ≤ nearestLevel size tick base price ∧ nearestLevel size tick base price < size.count := by
  have htick := h.tick_pos
  have hdistance := hnear.2
  have habs : (Double.finite price - .finite base).abs = .finite |price - base| := by
    rw [Double.finite_sub_finite]
    rfl
  rw [h.tick_eq, h.base_eq, habs, Double.finite_div_finite _ htick.ne', Double.finite_lt_finite,
    not_lt, ← abs_of_pos htick, ← abs_div, abs_le] at hdistance
  obtain ⟨hbelow, habove⟩ := hdistance
  have hle := round_le_add_half ((price - base) / tick)
  have hlt := sub_half_lt_round ((price - base) / tick)
  unfold nearestLevel
  generalize round ((price - base) / tick) = z at hle hlt ⊢
  have hupper : z < (size.count / 4 : ℕ) + 1 := by
    have hcast : (z : ℚ) < ((size.count / 4 : ℕ) : ℤ) + 1 := by
      rw [Int.cast_natCast]
      linarith
    exact_mod_cast hcast
  have hlower : -((size.count / 4 : ℕ) : ℤ) - 1 < z := by
    have hcast : -(((size.count / 4 : ℕ) : ℤ) : ℚ) - 1 < z := by
      rw [Int.cast_natCast]
      linarith
    exact_mod_cast hcast
  have hpos := size.pos
  omega

/-- A price below the base at which the book was centred has a level as long as it is at most
half of the levels and half a tick away. -/
theorem nearestLevel_below {bid ask : ℚ} (htick : 0 < tick) (horder : bid ≤ ask)
    (hspread : ask - bid ≤ ((size.count / 2 : ℕ) + 1 / 2) * tick) :
    0 ≤ nearestLevel size tick ask bid ∧ nearestLevel size tick ask bid < size.count := by
  have hquotient : -(((size.count / 2 : ℕ) : ℚ) + 1 / 2) ≤ (bid - ask) / tick := by
    rw [le_div_iff₀ htick]
    linarith
  have hnonpos : (bid - ask) / tick ≤ 0 := div_nonpos_of_nonpos_of_nonneg (by linarith) htick.le
  have hle := round_le_add_half ((bid - ask) / tick)
  have hfloor : -((size.count / 2 : ℕ) : ℤ) ≤ round ((bid - ask) / tick) := by
    rw [round_eq, Int.le_floor, Int.cast_neg, Int.cast_natCast]
    linarith
  unfold nearestLevel
  generalize round ((bid - ask) / tick) = z at hle hfloor ⊢
  have hupper : z < 1 := by
    have hcast : (z : ℚ) < 1 := by linarith
    exact_mod_cast hcast
  have hpos := size.pos
  omega

/-- Mapping a positive price keeps the grid: the base stays, or becomes the price, and the price is
near to it. -/
theorem OnGrid.mapped (h : OnGrid book tick base) {price : ℚ} (hprice : 0 < price) :
    (∃ base', OnGrid (book.mapped (.finite price)) tick base' ∧
      (base' = base ∧ book.mapped (.finite price) = book ∨ base' = price)) ∧
      (book.mapped (.finite price)).NearBase (.finite price) := by
  have htick := h.tick_pos
  have hpos := not_le_of_pos hprice
  rcases @mapped_cases _ book _ hpos with ⟨hnear, heq⟩ | ⟨-, heq, -, -⟩
  · rw [heq]
    exact ⟨⟨base, h, .inl ⟨rfl, rfl⟩⟩, hnear⟩
  · rw [heq, recenter_eq hpos]
    refine ⟨⟨price, ⟨h.tick_eq, rfl⟩, .inr rfl⟩, rfl, ?_⟩
    change ¬Double.finite _ < (Double.finite price - .finite price).abs / book.tickSize
    rw [Double.finite_sub_finite, sub_self, h.tick_eq]
    change ¬Double.finite _ < Double.finite |0| / .finite tick
    rw [abs_zero, Double.finite_div_finite _ htick.ne', zero_div, Double.finite_lt_finite, not_lt]
    exact Nat.cast_nonneg _

end Grid

section Levels

/-- A price that the book reports is at most half a tick away from a given one. -/
def WithinHalfTick (tick : ℚ) (reported : Double) (price : ℚ) : Prop :=
  ∃ stored : ℚ, reported = .finite stored ∧ |stored - price| ≤ tick / 2

/-- A size is stored at a level at most half a tick away from its price. -/
def StoredNear (book : L2OrderBook size) (tick : ℚ) (levels : Fin size.count → Double)
    (price : ℚ) (quantity : Double) : Prop :=
  ∃ i, levels i = quantity ∧ WithinHalfTick tick (book.toPrice i) price

/-- The level of a price on a book that it fits on. -/
theorem toIndex_mapped (h : OnGrid book tick base) {price : ℚ} (hprice : 0 < price) :
    WithinHalfTick tick ((book.mapped (.finite price)).toPrice
      ((book.mapped (.finite price)).toIndex outOfRange (.finite price))) price := by
  obtain ⟨⟨base', hgrid, -⟩, hnear⟩ := h.mapped hprice
  obtain ⟨hlow, hhigh⟩ := nearestLevel_near hgrid hnear
  exact (toIndex_near hgrid hprice hlow hhigh).2

/-- An accepted bid is stored at a level within half a tick of its price. -/
theorem applyBidLevel_stores (h : OnGrid book tick base) {price : ℚ} {quantity : Double}
    {after : L2OrderBook size}
    (hok : book.applyBidLevel outOfRange (.finite price) quantity = (after, true)) :
    StoredNear after tick after.bid.levels price quantity := by
  rw [applyBidLevel_eq] at hok
  split at hok
  · cases hok
  · next hvalid =>
    cases hok
    have hprice := pos_of_not_le (not_or.mp hvalid).1
    exact ⟨_, Function.update_self _ _ _, toIndex_mapped h hprice⟩

/-- An accepted ask is stored at a level within half a tick of its price. -/
theorem applyAskLevel_stores (h : OnGrid book tick base) {price : ℚ} {quantity : Double}
    {after : L2OrderBook size}
    (hok : book.applyAskLevel outOfRange (.finite price) quantity = (after, true)) :
    StoredNear after tick after.ask.levels price quantity := by
  rw [applyAskLevel_eq] at hok
  split at hok
  · cases hok
  · next hvalid =>
    cases hok
    have hprice := pos_of_not_le (not_or.mp hvalid).1
    exact ⟨_, Function.update_self _ _ _, toIndex_mapped h hprice⟩

end Levels

section Quotes

/-- The sizes of a price pair are on a book that both prices fit on, or whose base is the ask. -/
theorem OnGrid.mapped_mapped (h : OnGrid book tick base) {bid ask : ℚ} (hbid : 0 < bid)
    (hask : 0 < ask) :
    ∃ base', OnGrid ((book.mapped (.finite bid)).mapped (.finite ask)) tick base' ∧
      ((book.mapped (.finite bid)).mapped (.finite ask)).NearBase (.finite ask) ∧
      (((book.mapped (.finite bid)).mapped (.finite ask)).NearBase (.finite bid) ∨
        base' = ask) := by
  obtain ⟨⟨base₁, hgrid₁, -⟩, hnear₁⟩ := h.mapped hbid
  obtain ⟨⟨base₂, hgrid₂, hbase⟩, hnear₂⟩ := hgrid₁.mapped hask
  refine ⟨base₂, hgrid₂, hnear₂, ?_⟩
  rcases hbase with ⟨-, hsame⟩ | hcentred
  · left
    rwa [hsame]
  · exact .inr hcentred

/-- The levels of an accepted best bid and offer: the ask has one always, the bid as long as the
spread is no wider than half of the grid below the ask. -/
theorem toIndex_mapped_mapped (h : OnGrid book tick base) {bid ask : ℚ} (hbid : 0 < bid)
    (hask : 0 < ask) (horder : bid ≤ ask) :
    let mapped := (book.mapped (.finite bid)).mapped (.finite ask)
    WithinHalfTick tick (mapped.toPrice (mapped.toIndex outOfRange (.finite ask))) ask ∧
      (ask - bid ≤ ((size.count / 2 : ℕ) + 1 / 2) * tick →
        WithinHalfTick tick (mapped.toPrice (mapped.toIndex outOfRange (.finite bid))) bid) := by
  intro mapped
  obtain ⟨base', hgrid, hnearAsk, hnearBid⟩ := h.mapped_mapped hbid hask
  constructor
  · obtain ⟨hlow, hhigh⟩ := nearestLevel_near hgrid hnearAsk
    exact (toIndex_near hgrid hask hlow hhigh).2
  · intro hspread
    rcases hnearBid with hnear | rfl
    · obtain ⟨hlow, hhigh⟩ := nearestLevel_near hgrid hnear
      exact (toIndex_near hgrid hbid hlow hhigh).2
    · obtain ⟨hlow, hhigh⟩ := nearestLevel_below h.tick_pos horder hspread
      exact (toIndex_near hgrid hbid hlow hhigh).2

end Quotes

end L2OrderBook

namespace BookSide

section Indices

variable {n : ℕ} {side : QuoteSide} {s : BookSide n}

/-- The best level of a side was not set by the last best bid or offer and is better than a new
level. -/
def Covers (side : QuoteSide) (s : BookSide n) (idx : Fin n) : Prop :=
  0 ≤ s.bestIdx ∧ s.bestIdx ≠ s.lastBboIdx ∧ side.Improves s.bestIdx (idx : ℕ)

instance (side : QuoteSide) (s : BookSide n) (idx : Fin n) : Decidable (Covers side s idx) :=
  inferInstanceAs (Decidable (_ ∧ _ ∧ _))

/-- An empty side has no best level that covers anything. -/
theorem not_covers_empty (side : QuoteSide) (idx : Fin n) : ¬Covers side {} idx := by
  rintro ⟨hnonneg, -⟩
  change (0 : ℤ) ≤ -1 at hnonneg
  omega

/-- The best index after a new best bid or offer with a positive size. -/
theorem applyBbo_bestIdx (s : BookSide n) (idx : Fin n) {quantity : Double}
    (hquantity : 0 < quantity) :
    (applyBbo side s idx quantity).bestIdx =
      if Covers side s idx then s.bestIdx else ((idx : ℕ) : ℤ) := by
  unfold applyBbo
  dsimp only
  rw [if_pos hquantity]
  by_cases hcovers : Covers side s idx
  · obtain ⟨hnonneg, hlast, himproves⟩ := hcovers
    have hworse : ¬side.Improves (idx : ℕ) s.bestIdx := by
      rw [QuoteSide.improves_iff] at himproves ⊢
      omega
    have hnew : ¬(s.bestIdx < 0 ∨ s.bestIdx = s.lastBboIdx ∨
        side.Improves (idx : ℕ) s.bestIdx) := by
      simp only [hlast, hworse, or_self, or_false]
      omega
    rw [if_neg hnew, if_pos ⟨hnonneg, hlast, himproves⟩]
  · rw [if_neg hcovers]
    split
    · rfl
    · next hold =>
      simp only [not_or] at hold
      unfold Covers at hcovers
      simp only [not_and] at hcovers
      have hno := hcovers (by omega) hold.2.1
      have hno' := hold.2.2
      cases side <;> unfold QuoteSide.Improves at hno hno' <;> dsimp only at hno hno' <;> omega

/-- The best index of a side is one of its levels or -1. -/
def Ranged (s : BookSide n) : Prop := -1 ≤ s.bestIdx ∧ s.bestIdx < n

/-- The search for the best level ends at a level of the book, or at none. -/
theorem refreshBestFrom_range (side : QuoteSide) (levels : Fin n → Double) (start : ℕ) :
    -1 ≤ side.refreshBestFrom levels start ∧ side.refreshBestFrom levels start < n := by
  have hnonneg : (0 : ℤ) ≤ n := Int.natCast_nonneg n
  cases side with
  | bid =>
    unfold QuoteSide.refreshBestFrom refreshBestBidFrom
    dsimp only
    split
    · omega
    · exact (lastBelow_isBest _ _).range
  | ask =>
    unfold QuoteSide.refreshBestFrom refreshBestAskFrom
    dsimp only
    split
    · omega
    · exact (firstAmongLast_isBest _ _).range

/-- The best level of an empty side is none. -/
theorem ranged_empty : Ranged ({} : BookSide n) := by
  have hnonneg : (0 : ℤ) ≤ n := Int.natCast_nonneg n
  exact ⟨le_rfl, by change (-1 : ℤ) < n; omega⟩

/-- After a level is applied the best one is a level of the book, or none. -/
theorem Ranged.applyLevel (h : Ranged s) (idx : Fin n) (quantity : Double) :
    Ranged (applyLevel side s idx quantity) := by
  have hidx : -1 ≤ ((idx : ℕ) : ℤ) ∧ ((idx : ℕ) : ℤ) < n := by omega
  unfold BookSide.applyLevel Ranged
  dsimp only
  split
  · split
    · exact hidx
    · exact h
  · split
    · exact refreshBestFrom_range side _ _
    · exact h

/-- After a quote the best level is a level of the book, or none. -/
theorem Ranged.applyBbo (h : Ranged s) (idx : Fin n) (quantity : Double) :
    Ranged (applyBbo side s idx quantity) := by
  have hidx : -1 ≤ ((idx : ℕ) : ℤ) ∧ ((idx : ℕ) : ℤ) < n := by omega
  unfold BookSide.applyBbo Ranged
  dsimp only
  split
  · split
    · exact hidx
    · exact h
  · split
    · exact refreshBestFrom_range side _ _
    · exact h

end Indices

end BookSide

namespace L2OrderBook

variable {size : LevelCount} {outOfRange : Double → Int64} {book : L2OrderBook size} {tick : ℚ}

section Reports

/-- A book on a grid with its best indices in range. -/
structure Plain (book : L2OrderBook size) (tick : ℚ) : Prop where
  grid : ∃ base, OnGrid book tick base
  bid : book.bid.Ranged
  ask : book.ask.Ranged

/-- Mapping a positive price keeps a book plain. -/
theorem Plain.mapped (h : Plain book tick) {price : ℚ} (hprice : 0 < price) :
    Plain (book.mapped (.finite price)) tick := by
  obtain ⟨base, hgrid⟩ := h.grid
  obtain ⟨⟨base', hgrid', -⟩, -⟩ := hgrid.mapped hprice
  rcases @mapped_cases _ book _ (not_le_of_pos hprice) with ⟨-, heq⟩ | ⟨-, -, hbid, hask⟩
  · rwa [heq]
  · refine ⟨⟨base', hgrid'⟩, ?_, ?_⟩
    · rw [hbid]
      exact BookSide.ranged_empty
    · rw [hask]
      exact BookSide.ranged_empty

/-- The tick of a book that is built with a tick size. -/
def tickOf (tickSize : ℚ) : ℚ := if 0 < tickSize then tickSize else 1 / 100

/-- A new book is plain. -/
theorem plain_new (tickSize : ℚ) (size : LevelCount) :
    Plain (new (.finite tickSize) size) (tickOf tickSize) := by
  unfold new tickOf
  simp only [Double.zero_eq, Double.finite_lt_finite]
  split
  · exact ⟨⟨0, rfl, rfl⟩, BookSide.ranged_empty, BookSide.ranged_empty⟩
  · exact ⟨⟨0, rfl, rfl⟩, BookSide.ranged_empty, BookSide.ranged_empty⟩

/-- The prices of a call are numbers. -/
def Call.FinitePrices : Call → Prop
  | .reset price | .applyBidLevel price _ | .applyAskLevel price _ => ∃ q : ℚ, price = .finite q
  | .applyBbo bidPrice _ askPrice _ =>
    (∃ q : ℚ, bidPrice = .finite q) ∧ ∃ q : ℚ, askPrice = .finite q

/-- What an accepted best bid and offer leaves. -/
theorem applyBbo_accepted {bid ask : ℚ} (haccepts : AcceptsBbo (.finite bid) (.finite ask)) :
    0 < bid ∧ 0 < ask ∧ bid ≤ ask := by
  obtain ⟨hbid, hask, horder⟩ := haccepts
  rw [Double.finite_lt_finite] at horder
  exact ⟨pos_of_not_le hbid, pos_of_not_le hask, Rat.not_lt.mp horder⟩

/-- A quote keeps a book plain. -/
theorem Plain.withBbo (h : Plain book tick) (bidPrice bidQty askPrice askQty : Double) :
    Plain (book.withBbo outOfRange bidPrice bidQty askPrice askQty) tick := by
  obtain ⟨base, hgrid⟩ := h.grid
  exact ⟨⟨base, hgrid.tick_eq, hgrid.base_eq⟩, h.bid.applyBbo _ _, h.ask.applyBbo _ _⟩

/-- Resetting a book to a price keeps it plain. -/
theorem plain_reset (h : Plain book tick) (price : ℚ) :
    Plain (book.reset (.finite price)) tick := by
  obtain ⟨base, hgrid⟩ := h.grid
  unfold reset recenter
  dsimp only
  split
  · split
    · exact ⟨⟨base, hgrid.tick_eq, hgrid.base_eq⟩, BookSide.ranged_empty, BookSide.ranged_empty⟩
    · exact ⟨⟨price, hgrid.tick_eq, rfl⟩, BookSide.ranged_empty, BookSide.ranged_empty⟩
  · exact ⟨⟨0, hgrid.tick_eq, rfl⟩, BookSide.ranged_empty, BookSide.ranged_empty⟩

/-- **The step.** A call with numbers for prices keeps a book on its grid. -/
theorem plain_next (h : Plain book tick) {call : Call} (hcall : call.FinitePrices) :
    Plain ((machine outOfRange size).next book call) tick := by
  have hmoves := @moves_next _ outOfRange book call
  generalize (machine outOfRange size).next book call = after at hmoves ⊢
  cases hmoves with
  | refused => exact h
  | reset price =>
    obtain ⟨q, rfl⟩ := hcall
    exact plain_reset h q
  | bidLevel hprice quantity =>
    obtain ⟨q, rfl⟩ := hcall
    have hmapped := h.mapped (pos_of_not_le hprice)
    obtain ⟨base, hgrid⟩ := hmapped.grid
    exact ⟨⟨base, hgrid.tick_eq, hgrid.base_eq⟩, hmapped.bid.applyLevel _ _, hmapped.ask⟩
  | askLevel hprice quantity =>
    obtain ⟨q, rfl⟩ := hcall
    have hmapped := h.mapped (pos_of_not_le hprice)
    obtain ⟨base, hgrid⟩ := hmapped.grid
    exact ⟨⟨base, hgrid.tick_eq, hgrid.base_eq⟩, hmapped.bid, hmapped.ask.applyLevel _ _⟩
  | bbo haccepts bidQty askQty =>
    obtain ⟨⟨bid, rfl⟩, ask, rfl⟩ := hcall
    obtain ⟨hbid, hask, -⟩ := applyBbo_accepted haccepts
    exact ((h.mapped hbid).mapped hask).withBbo _ _ _ _

/-- A book with a best level on both sides reports their prices. -/
theorem bbo_of_nonneg (hbid : book.bid.Ranged) (hask : book.ask.Ranged)
    (hbest : 0 ≤ book.bid.bestIdx) (hbest' : 0 ≤ book.ask.bestIdx) :
    book.bbo.valid = true ∧ book.bbo.bidPrice = book.toPrice book.bid.bestIdx.toNat ∧
      book.bbo.askPrice = book.toPrice book.ask.bestIdx.toNat := by
  have hlt := size.lt
  have hbidSize : BookSide.toSize book.bid.bestIdx = book.bid.bestIdx.toNat := by
    have := BookSide.toSize_of_nonneg hbest (by have := hbid.2; omega)
    omega
  have haskSize : BookSide.toSize book.ask.bestIdx = book.ask.bestIdx.toNat := by
    have := BookSide.toSize_of_nonneg hbest' (by have := hask.2; omega)
    omega
  have hsizes : BookSide.toSize book.bid.bestIdx < size.count ∧
      BookSide.toSize book.ask.bestIdx < size.count := by
    have := hbid.2
    have := hask.2
    omega
  unfold bbo
  rw [if_neg (by omega), dif_pos hsizes]
  exact ⟨rfl, congrArg book.toPrice hbidSize, congrArg book.toPrice haskSize⟩

/-- The best bid is not that of the last best bid and offer, is better than a new bid, and is
kept since both new prices fit on the grid. -/
def CoversBid (outOfRange : Double → Int64) (book : L2OrderBook size) (bid ask : Double) : Prop :=
  book.NearBase bid ∧ book.NearBase ask ∧ book.bid.Covers .bid (book.toIndex outOfRange bid)

/-- The same for the best ask. -/
def CoversAsk (outOfRange : Double → Int64) (book : L2OrderBook size) (bid ask : Double) : Prop :=
  book.NearBase bid ∧ book.NearBase ask ∧ book.ask.Covers .ask (book.toIndex outOfRange ask)

/-- What a book reports after a best bid and offer: their prices up to half a tick, or the best
level that covers one of them. A bid further below the ask than the grid reaches is left out. -/
structure Reports (outOfRange : Double → Int64) (tick : ℚ) (before after : L2OrderBook size)
    (bid ask : ℚ) : Prop where
  valid : after.bbo.valid = true
  nearBid : ¬CoversBid outOfRange before (.finite bid) (.finite ask) →
    ask - bid ≤ ((size.count / 2 : ℕ) + 1 / 2) * tick →
      WithinHalfTick tick after.bbo.bidPrice bid
  nearAsk : ¬CoversAsk outOfRange before (.finite bid) (.finite ask) →
    WithinHalfTick tick after.bbo.askPrice ask
  coveredBid : CoversBid outOfRange before (.finite bid) (.finite ask) →
    after.bbo.bidPrice = before.toPrice before.bid.bestIdx.toNat
  coveredAsk : CoversAsk outOfRange before (.finite bid) (.finite ask) →
    after.bbo.askPrice = before.toPrice before.ask.bestIdx.toNat

/-- The report after a best bid and offer: each side that covers the new price reports its best
level, and else the level of the new price. -/
theorem Plain.withBbo_bbo (h : Plain book tick) (bid ask : Double) {bidQty askQty : Double}
    (hbidQty : 0 < bidQty) (haskQty : 0 < askQty) :
    let bidIdx := book.toIndex outOfRange bid
    let askIdx := book.toIndex outOfRange ask
    let report := (book.withBbo outOfRange bid bidQty ask askQty).bbo
    report.valid = true ∧
      report.bidPrice =
        book.toPrice (if book.bid.Covers .bid bidIdx then book.bid.bestIdx.toNat else bidIdx) ∧
      report.askPrice =
        book.toPrice (if book.ask.Covers .ask askIdx then book.ask.bestIdx.toNat else askIdx) := by
  intro bidIdx askIdx report
  have hafter : Plain (book.withBbo outOfRange bid bidQty ask askQty) tick := h.withBbo _ _ _ _
  have hbest : (book.withBbo outOfRange bid bidQty ask askQty).bid.bestIdx =
      if book.bid.Covers .bid bidIdx then book.bid.bestIdx else ((bidIdx : ℕ) : ℤ) := by
    have hsize : Double.max 0 bidQty = bidQty := if_pos hbidQty
    unfold L2OrderBook.withBbo
    rw [hsize]
    exact BookSide.applyBbo_bestIdx book.bid bidIdx hbidQty
  have hbest' : (book.withBbo outOfRange bid bidQty ask askQty).ask.bestIdx =
      if book.ask.Covers .ask askIdx then book.ask.bestIdx else ((askIdx : ℕ) : ℤ) := by
    have hsize : Double.max 0 askQty = askQty := if_pos haskQty
    unfold L2OrderBook.withBbo
    rw [hsize]
    exact BookSide.applyBbo_bestIdx book.ask askIdx haskQty
  have hnonneg : 0 ≤ (book.withBbo outOfRange bid bidQty ask askQty).bid.bestIdx := by
    rw [hbest]
    split
    · next hcovers => exact hcovers.1
    · omega
  have hnonneg' : 0 ≤ (book.withBbo outOfRange bid bidQty ask askQty).ask.bestIdx := by
    rw [hbest']
    split
    · next hcovers => exact hcovers.1
    · omega
  obtain ⟨hvalid, hbidPrice, haskPrice⟩ := bbo_of_nonneg hafter.bid hafter.ask hnonneg hnonneg'
  refine ⟨hvalid, hbidPrice.trans ?_, haskPrice.trans ?_⟩
  · rw [hbest, apply_ite Int.toNat, Int.toNat_natCast]
    rfl
  · rw [hbest', apply_ite Int.toNat, Int.toNat_natCast]
    rfl

/-- **What is reported.** An accepted best bid and offer with positive sizes is reported. -/
theorem Plain.reports (h : Plain book tick) {bid ask : ℚ} {bidQty askQty : Double}
    (hbidQty : 0 < bidQty) (haskQty : 0 < askQty) {after : L2OrderBook size}
    (hok : book.applyBbo outOfRange (.finite bid) bidQty (.finite ask) askQty = (after, true)) :
    Reports outOfRange tick book after bid ask := by
  by_cases haccepts : AcceptsBbo (.finite bid) (.finite ask)
  swap
  · rw [applyBbo_of_refuses haccepts] at hok
    cases hok
  rw [applyBbo_of_accepts haccepts] at hok
  cases hok
  obtain ⟨hbid, hask, horder⟩ := applyBbo_accepted haccepts
  obtain ⟨base, hgrid⟩ := h.grid
  obtain ⟨hnearAsk, hnearBid⟩ :=
    @toIndex_mapped_mapped _ outOfRange _ _ _ hgrid _ _ hbid hask horder
  obtain ⟨hvalid, hbidPrice, haskPrice⟩ := @Plain.withBbo_bbo _ outOfRange _ _
    ((h.mapped hbid).mapped hask) (.finite bid) (.finite ask) _ _ hbidQty haskQty
  rcases @mapped_mapped_cases _ book _ _ haccepts.1 haccepts.2.1 with
    ⟨hb, ha, heq⟩ | ⟨hfar, hbids, hasks⟩
  · rw [heq] at hvalid hbidPrice haskPrice hnearAsk hnearBid ⊢
    constructor
    · exact hvalid
    · intro hcovers hspread
      rw [hbidPrice, if_neg fun hc => hcovers ⟨hb, ha, hc⟩]
      exact hnearBid hspread
    · intro hcovers
      rw [haskPrice, if_neg fun hc => hcovers ⟨hb, ha, hc⟩]
      exact hnearAsk
    · rintro ⟨-, -, hcovers⟩
      rw [hbidPrice, if_pos hcovers]
    · rintro ⟨-, -, hcovers⟩
      rw [haskPrice, if_pos hcovers]
  · -- an emptied book covers nothing
    rw [hbids, if_neg (BookSide.not_covers_empty _ _)] at hbidPrice
    rw [hasks, if_neg (BookSide.not_covers_empty _ _)] at haskPrice
    constructor
    · exact hvalid
    · intro _ hspread
      rw [hbidPrice]
      exact hnearBid hspread
    · intro _
      rw [haskPrice]
      exact hnearAsk
    · exact fun hc => (hfar ⟨hc.1, hc.2.1⟩).elim
    · exact fun hc => (hfar ⟨hc.1, hc.2.1⟩).elim

/-- **Prices up to half a tick.** On a book that has received any calls with numbers for prices,
an accepted best bid and offer with positive sizes is reported, and an accepted size is stored,
at levels at most half a tick away. -/
theorem prices_within_half_tick (outOfRange : Double → Int64) (tickSize : ℚ) (size : LevelCount)
    (calls : List Call) (hcalls : ∀ call ∈ calls, call.FinitePrices) :
    let book := (machine outOfRange size).run (new (.finite tickSize) size) calls
    (∀ (bid ask : ℚ) (bidQty askQty : Double) (after : L2OrderBook size),
      0 < bidQty → 0 < askQty →
      book.applyBbo outOfRange (.finite bid) bidQty (.finite ask) askQty = (after, true) →
        Reports outOfRange (tickOf tickSize) book after bid ask) ∧
    (∀ (price : ℚ) (quantity : Double) (after : L2OrderBook size),
      book.applyBidLevel outOfRange (.finite price) quantity = (after, true) →
        StoredNear after (tickOf tickSize) after.bid.levels price quantity) ∧
    ∀ (price : ℚ) (quantity : Double) (after : L2OrderBook size),
      book.applyAskLevel outOfRange (.finite price) quantity = (after, true) →
        StoredNear after (tickOf tickSize) after.ask.levels price quantity := by
  intro book
  have hplain : Plain book (tickOf tickSize) :=
    Machine.invariant_run_of_along (M := machine outOfRange size)
      (I := fun book => Plain book (tickOf tickSize)) (C := fun _ call => call.FinitePrices)
      (fun _ _ h hcall => plain_next h hcall) (plain_new tickSize size)
      (Machine.along_of_forall hcalls _)
  obtain ⟨base, hgrid⟩ := hplain.grid
  refine ⟨fun bid ask bidQty askQty after hbidQty haskQty hok => ?_,
    fun price quantity after hok => ?_, fun price quantity after hok => ?_⟩
  · exact hplain.reports hbidQty haskQty hok
  · exact applyBidLevel_stores hgrid hok
  · exact applyAskLevel_stores hgrid hok

/-- A best bid and offer and a better bid beside it. -/
def improvedBid : List Call :=
  [.applyBbo (.finite 100) (.finite 1) (.finite (10002 / 100)) (.finite 1),
    .applyBidLevel (.finite (10001 / 100)) (.finite 3)]

/-- After a better bid, the next best bid and offer is reported, and the next sizes on both sides
are stored. -/
theorem prices_within_half_tick_improved :
    let book := (machine (fun _ => 0) eightLevels).run
      (new (.finite (1 / 100)) eightLevels) improvedBid
    let quoted := (book.applyBbo (fun _ => 0) (.finite (9999 / 100)) (.finite 1)
      (.finite (10002 / 100)) (.finite 1)).1
    let bid := (book.applyBidLevel (fun _ => 0) (.finite (10000 / 100)) (.finite 2)).1
    let ask := (book.applyAskLevel (fun _ => 0) (.finite (10003 / 100)) (.finite 2)).1
    Reports (fun _ => 0) (tickOf (1 / 100)) book quoted (9999 / 100) (10002 / 100) ∧
      StoredNear bid (tickOf (1 / 100)) bid.bid.levels (10000 / 100) (.finite 2) ∧
      StoredNear ask (tickOf (1 / 100)) ask.ask.levels (10003 / 100) (.finite 2) := by
  intro book quoted bid ask
  obtain ⟨hbbo, hbid, hask⟩ :=
    prices_within_half_tick (fun _ => 0) (1 / 100) eightLevels improvedBid fun call hcall => by
      simp only [improvedBid, List.mem_cons, List.not_mem_nil, or_false] at hcall
      rcases hcall with rfl | rfl
      · exact ⟨⟨_, rfl⟩, _, rfl⟩
      · exact ⟨_, rfl⟩
  exact ⟨hbbo _ _ (.finite 1) (.finite 1) quoted (by decide +kernel) (by decide +kernel)
      (Prod.ext rfl (by decide +kernel)),
    hbid _ (.finite 2) bid (Prod.ext rfl (by decide +kernel)),
    hask _ (.finite 2) ask (Prod.ext rfl (by decide +kernel))⟩

/-- The better bid stays the reported one when the best bid and offer falls, and a bid further
below the ask than the grid reaches is reported at the end of the grid. -/
theorem prices_not_within_half_tick :
    (let book := (machine (fun _ => 0) eightLevels).run
        (new (.finite (1 / 100)) eightLevels) improvedBid
      let after := book.applyBbo (fun _ => 0) (.finite (9999 / 100)) (.finite 1)
        (.finite (10002 / 100)) (.finite 1)
      after.2 = true ∧ after.1.bbo.bidPrice = .finite (10001 / 100) ∧
        ¬WithinHalfTick (1 / 100) after.1.bbo.bidPrice (9999 / 100)) ∧
    let after := (new (.finite (1 / 100)) eightLevels).applyBbo (fun _ => 0) (.finite 100)
      (.finite 1) (.finite 101) (.finite 1)
    after.2 = true ∧ after.1.bbo.bidPrice = .finite (10096 / 100) ∧
      ¬WithinHalfTick (1 / 100) after.1.bbo.bidPrice 100 := by
  refine ⟨⟨by decide +kernel, by decide +kernel, ?_⟩, by decide +kernel, by decide +kernel, ?_⟩
  · rintro ⟨stored, hstored, herror⟩
    have hprice : ((((machine (fun _ => 0) eightLevels).run (new (.finite (1 / 100)) eightLevels)
        improvedBid).applyBbo (fun _ => 0) (.finite (9999 / 100)) (.finite 1)
        (.finite (10002 / 100)) (.finite 1)).1.bbo.bidPrice) = .finite (10001 / 100) := by
      decide +kernel
    rw [hprice, Double.finite.injEq] at hstored
    rw [← hstored] at herror
    norm_num at herror
  · rintro ⟨stored, hstored, herror⟩
    have hprice : ((new (.finite (1 / 100)) eightLevels).applyBbo (fun _ => 0) (.finite 100)
        (.finite 1) (.finite 101) (.finite 1)).1.bbo.bidPrice = .finite (10096 / 100) := by
      decide +kernel
    rw [hprice, Double.finite.injEq] at hstored
    rw [← hstored] at herror
    norm_num at herror

end Reports

end L2OrderBook

end TradeBot
