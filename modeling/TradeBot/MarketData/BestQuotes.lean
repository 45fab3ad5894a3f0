import TradeBot.L2OrderBook

/-!
# The best quotes of an order book

The cached best index of a side follows every call that changes a level, and is the index that
a scan of all levels would find. The one exception is the path of `applyBbo` that takes the
place of the last best bid or offer without a scan: it passes over the levels in between.
-/

namespace TradeBot

open Library

/-- The order of the indices of a side, from worse to better. -/
def QuoteSide.rank : QuoteSide → ℤ → ℤ
  | .bid => id
  | .ask => (- ·)

/-- One level improves on another when the rank of the other one is lower. -/
theorem QuoteSide.improves_iff (side : QuoteSide) (i j : ℤ) :
    side.Improves i j ↔ side.rank j < side.rank i := by
  cases side
  · exact Iff.rfl
  · exact neg_lt_neg_iff.symm

namespace BookSide

section Levels

variable {n : ℕ} {side : QuoteSide} {s : BookSide n}

/-- An index that is not negative is kept by the conversion to a size. -/
theorem toSize_of_nonneg {idx : ℤ} (h : 0 ≤ idx) (hlt : idx < 2 ^ 64) :
    (toSize idx : ℤ) = idx := by
  unfold toSize
  omega

/-- The best index of a side is that of its best level, and the index of its last best bid or
offer is one of its levels or -1. -/
structure Sound (side : QuoteSide) (s : BookSide n) : Prop where
  best : IsBest side.rank (Filled s.levels) s.bestIdx
  last : -1 ≤ s.lastBboIdx ∧ s.lastBboIdx < n

/-- No level of an empty side is filled. -/
theorem not_filled_empty (i : Fin n) : ¬Filled ({} : BookSide n).levels i := by
  change ¬(0 : Double) < 0
  decide +kernel

/-- An empty side is sound. -/
theorem sound_empty (side : QuoteSide) : Sound side ({} : BookSide n) := by
  have hneg : (0 : ℤ) ≤ n := Int.natCast_nonneg n
  exact ⟨.inl ⟨rfl, not_filled_empty⟩, le_rfl, by change (-1 : ℤ) < n; omega⟩

/-- Writing a level fills it when its quantity is positive, and leaves the others. -/
theorem filled_update (levels : Fin n → Double) (idx i : Fin n) (quantity : Double) :
    Filled (Function.update levels idx quantity) i ↔
      if i = idx then 0 < quantity else Filled levels i := by
  unfold Filled
  rw [Function.update_apply]
  split <;> exact Iff.rfl

/-- A scan that starts at an empty level finds the best level that is no better. -/
theorem refreshBestFrom_isBest (side : QuoteSide) {levels : Fin n → Double} {start : Fin n}
    (hempty : ¬Filled levels start) :
    IsBest side.rank
      (fun i => side.rank (i : ℕ) ≤ side.rank (start : ℕ) ∧ Filled levels i)
      (side.refreshBestFrom levels start) := by
  have hin : ¬n ≤ (start : ℕ) := Nat.not_le.mpr start.isLt
  cases side with
  | bid =>
    unfold QuoteSide.refreshBestFrom refreshBestBidFrom
    dsimp only
    rw [dif_neg hin]
    refine (lastBelow_isBest _ _).congr fun i => and_congr_left fun hi => ?_
    have hne : (i : ℕ) ≠ start := by
      intro heq
      rw [Fin.ext heq] at hi
      exact hempty hi
    change ((i : ℕ) : ℤ) ≤ (start : ℕ) ↔ _
    omega
  | ask =>
    unfold QuoteSide.refreshBestFrom refreshBestAskFrom
    dsimp only
    rw [if_neg hin]
    refine (firstAmongLast_isBest _ _).congr fun i => and_congr_left fun _ => ?_
    change -((i : ℕ) : ℤ) ≤ -((start : ℕ) : ℤ) ↔ _
    omega

/-- **A changed level.** The best index follows every size that is stored at a level. -/
theorem applyLevel_sound (hs : Sound side s) (idx : Fin n) (quantity : Double) :
    Sound side (applyLevel side s idx quantity) := by
  refine ⟨?_, hs.last⟩
  unfold applyLevel
  dsimp only
  have hothers : ∀ i, i ≠ idx →
      (Filled (Function.update s.levels idx quantity) i ↔ Filled s.levels i) := by
    intro i hi
    rw [filled_update, if_neg hi]
  by_cases hquantity : 0 < quantity
  · rw [if_pos hquantity]
    have hfilled : Filled (Function.update s.levels idx quantity) idx := by
      rw [filled_update, if_pos rfl]
      exact hquantity
    simpa only [QuoteSide.improves_iff] using hs.best.mark hfilled hothers
  · rw [if_neg hquantity]
    have hempty : ¬Filled (Function.update s.levels idx quantity) idx := by
      rw [filled_update, if_pos rfl]
      exact hquantity
    by_cases hbest : s.bestIdx = (idx : ℕ)
    · rw [if_pos hbest]
      refine hs.best.rescan (fun i hi => ?_) ?_
      · have hne : i ≠ idx := by
          rintro rfl
          exact hempty hi
        exact (hothers i hne).mp hi
      · rw [hbest]
        exact refreshBestFrom_isBest side hempty
    · rw [if_neg hbest]
      refine hs.best.clear hbest fun i => ?_
      rw [filled_update]
      split
      · next hi => exact ⟨fun h => (hquantity h).elim, fun h => (h.2 (by rw [hi])).elim⟩
      · next hi =>
        have hne : ((i : ℕ) : ℤ) ≠ (idx : ℕ) := by
          intro heq
          exact hi (Fin.ext (by omega))
        exact ⟨fun h => ⟨h, hne⟩, And.left⟩

/-- Emptying the level of the last best bid or offer leaves the others. -/
theorem filled_clearLast (hn : n < 2 ^ 60) (hs : Sound side s) (i : Fin n) :
    Filled s.clearLast i ↔ Filled s.levels i ∧ ((i : ℕ) : ℤ) ≠ s.lastBboIdx := by
  obtain ⟨hlow, hhigh⟩ := hs.last
  unfold clearLast
  by_cases hnone : 0 ≤ s.lastBboIdx
  · have hsize := toSize_of_nonneg hnone (by omega)
    have hlt : toSize s.lastBboIdx < n := by omega
    rw [if_pos hnone, dif_pos hlt, filled_update]
    by_cases hi : i = ⟨toSize s.lastBboIdx, hlt⟩
    · rw [if_pos hi, hi]
      have hzero : ¬(0 : Double) < 0 := by decide +kernel
      exact ⟨fun h => (hzero h).elim, fun h => (h.2 hsize).elim⟩
    · rw [if_neg hi]
      have hne : ((i : ℕ) : ℤ) ≠ s.lastBboIdx := by
        intro heq
        exact hi (Fin.ext (by dsimp only; omega))
      exact ⟨fun h => ⟨h, hne⟩, And.left⟩
  · rw [if_neg hnone]
    exact ⟨fun h => ⟨h, by omega⟩, And.left⟩

/-- A new best bid or offer that takes the place of the last one is no worse than any other
level of its side. -/
def KeepsBest (side : QuoteSide) (s : BookSide n) (idx : Fin n) (quantity : Double) : Prop :=
  0 < quantity → s.bestIdx = s.lastBboIdx →
    ∀ i : Fin n, Filled s.levels i → ((i : ℕ) : ℤ) ≠ s.lastBboIdx →
      ¬side.Improves (i : ℕ) (idx : ℕ)

instance (side : QuoteSide) (s : BookSide n) (idx : Fin n) (quantity : Double) :
    Decidable (KeepsBest side s idx quantity) :=
  inferInstanceAs (Decidable (_ → _ → _))

/-- Any level keeps the best one of an empty side. -/
theorem keepsBest_empty (side : QuoteSide) (idx : Fin n) (quantity : Double) :
    KeepsBest side {} idx quantity :=
  fun _ _ i hi => (not_filled_empty i hi).elim

/-- **A new best bid or offer.** The best index is right afterwards exactly when what takes the
place of the last best level is no worse than the others. -/
theorem applyBbo_isBest_iff (hn : n < 2 ^ 60) (hs : Sound side s) (idx : Fin n)
    (quantity : Double) :
    IsBest side.rank (Filled (applyBbo side s idx quantity).levels)
        (applyBbo side s idx quantity).bestIdx ↔ KeepsBest side s idx quantity := by
  have hclear := filled_clearLast hn hs
  unfold applyBbo
  dsimp only
  by_cases hquantity : 0 < quantity
  · rw [if_pos hquantity, if_pos hquantity]
    have hfilled : Filled (Function.update s.clearLast idx quantity) idx := by
      rw [filled_update, if_pos rfl]
      exact hquantity
    have hothers : ∀ i, i ≠ idx →
        (Filled (Function.update s.clearLast idx quantity) i ↔ Filled s.clearLast i) := by
      intro i hi
      rw [filled_update, if_neg hi]
    by_cases hlast : s.bestIdx = s.lastBboIdx
    · rw [if_pos (.inr (.inl hlast)), isBest_replace_iff hfilled fun i hi =>
        (hothers i hi).trans (hclear i)]
      simp only [KeepsBest, QuoteSide.improves_iff]
      exact ⟨fun h _ _ => h, fun h => h hquantity hlast⟩
    · have hcleared := hs.best.clear hlast hclear
      have hmarked := hcleared.mark hfilled hothers
      have hkeeps : KeepsBest side s idx quantity := fun _ h => (hlast h).elim
      simp only [hlast, false_or, QuoteSide.improves_iff]
      exact ⟨fun _ => hkeeps, fun _ => hmarked⟩
  · rw [if_neg hquantity, if_neg hquantity]
    have hkeeps : KeepsBest side s idx quantity := fun h => (hquantity h).elim
    refine ⟨fun _ => hkeeps, fun _ => ?_⟩
    by_cases hlast : s.bestIdx = s.lastBboIdx
    · rw [if_pos hlast]
      by_cases hnone : s.lastBboIdx < 0
      · -- no level was filled, and the scan from the largest size finds none
        have hneg : s.lastBboIdx = -1 := by
          have := hs.last.1
          omega
        have hout : n ≤ toSize s.lastBboIdx := by
          rw [hneg]
          change n ≤ 18446744073709551615
          omega
        have hscan : side.refreshBestFrom s.clearLast (toSize s.lastBboIdx) = -1 := by
          cases side
          · exact dif_pos hout
          · exact if_pos hout
        rw [hscan]
        exact .inl ⟨rfl, fun i hi =>
          hs.best.unmarked (by omega) i ((hclear i).mp hi).1⟩
      · have hsize := toSize_of_nonneg (Int.not_lt.mp hnone) (by have := hs.last.2; omega)
        have hlt : toSize s.lastBboIdx < n := by
          have := hs.last.2
          omega
        have hempty : ¬Filled s.clearLast ⟨toSize s.lastBboIdx, hlt⟩ := fun hi =>
          ((hclear _).mp hi).2 hsize
        have hscan := refreshBestFrom_isBest side hempty
        dsimp only at hscan
        rw [hsize, ← hlast] at hscan
        rw [← hlast]
        exact hs.best.rescan (fun i hi => ((hclear i).mp hi).1) hscan
    · rw [if_neg hlast]
      exact hs.best.clear hlast hclear

/-- A quote keeps a side sound when it keeps the best level. -/
theorem applyBbo_sound (hn : n < 2 ^ 60) (hs : Sound side s) {idx : Fin n} {quantity : Double}
    (hkeeps : KeepsBest side s idx quantity) : Sound side (applyBbo side s idx quantity) := by
  refine ⟨(applyBbo_isBest_iff hn hs idx quantity).mpr hkeeps, ?_⟩
  unfold applyBbo
  dsimp only
  split <;> omega

end Levels

end BookSide

namespace L2OrderBook

variable {size : LevelCount} {outOfRange : Double → Int64} {book : L2OrderBook size}

section Mapping

/-- The book after a price is made to fit on its grid. -/
def mapped (book : L2OrderBook size) (price : Double) : L2OrderBook size :=
  if book.NearBase price then book else book.recenter price

/-- A positive price is made mappable. -/
theorem ensureMappable_eq {price : Double} (hprice : ¬price ≤ 0) :
    book.ensureMappable price = (book.mapped price, true) := by
  unfold ensureMappable mapped
  rw [if_neg hprice]
  split <;> rfl

/-- Recentering at a positive price empties both sides and takes the price as the base. -/
theorem recenter_eq {price : Double} (hprice : ¬price ≤ 0) :
    book.recenter price =
      { book with
        basePrice := price
        initialized := true
        bid := {}
        ask := {}
        recenters := book.recenters + 1 } := by
  have htick : ¬book.tickSize ≤ 0 := Double.not_le_of_lt book.tickSize_pos
  unfold recenter
  rw [if_neg (not_or.mpr ⟨hprice, htick⟩)]

/-- A book whose grid a price does not fit on is emptied. -/
theorem mapped_cases {price : Double} (hprice : ¬price ≤ 0) :
    (book.NearBase price ∧ book.mapped price = book) ∨
      (¬book.NearBase price ∧ book.mapped price = book.recenter price ∧
        (book.mapped price).bid = {} ∧ (book.mapped price).ask = {}) := by
  unfold mapped
  by_cases hnear : book.NearBase price
  · exact .inl ⟨hnear, if_pos hnear⟩
  · refine .inr ⟨hnear, if_neg hnear, ?_, ?_⟩ <;> rw [if_neg hnear, recenter_eq hprice]

end Mapping

section Runs

/-- The best bid index is the highest level with a positive bid size, and the best ask index the
lowest level with a positive ask size; -1 stands for no such level. -/
structure BestQuoted (book : L2OrderBook size) : Prop where
  bid : IsBest id (Filled book.bid.levels) book.bid.bestIdx
  ask : IsBest (- ·) (Filled book.ask.levels) book.ask.bestIdx

/-- Both sides of a book are sound. -/
structure Sound (book : L2OrderBook size) : Prop where
  bid : BookSide.Sound .bid book.bid
  ask : BookSide.Sound .ask book.ask

/-- In a sound book the cached best levels are the best filled ones. -/
theorem Sound.bestQuoted (h : Sound book) : BestQuoted book :=
  ⟨h.bid.best, h.ask.best⟩

/-- A book without levels is sound. -/
theorem sound_of_empty (hbid : book.bid = {}) (hask : book.ask = {}) : Sound book := by
  constructor
  · rw [hbid]
    exact BookSide.sound_empty .bid
  · rw [hask]
    exact BookSide.sound_empty .ask

/-- A new book is sound. -/
theorem sound_new (tickSize : Double) (size : LevelCount) : Sound (new tickSize size) := by
  unfold new
  split <;> exact sound_of_empty rfl rfl

/-- Mapping a positive price keeps a book sound: it recenters, which empties the book, or changes
nothing. -/
theorem Sound.mapped (h : Sound book) {price : Double} (hprice : ¬price ≤ 0) :
    Sound (book.mapped price) := by
  rcases mapped_cases hprice with ⟨-, heq⟩ | ⟨-, -, hbid, hask⟩
  · rwa [heq]
  · exact sound_of_empty hbid hask

/-- A book that is reset is sound. -/
theorem sound_reset (book : L2OrderBook size) (referencePrice : Double) :
    Sound (book.reset referencePrice) := by
  unfold reset recenter
  dsimp only
  split
  · split <;> exact sound_of_empty rfl rfl
  · exact sound_of_empty rfl rfl

/-- A bid with a positive price and a quantity that is not negative is applied; another one is
refused. -/
theorem applyBidLevel_eq (price quantity : Double) :
    book.applyBidLevel outOfRange price quantity =
      if price ≤ 0 ∨ quantity < 0 then (book, false)
      else ({ book.mapped price with
        bid := (book.mapped price).bid.applyLevel .bid
          ((book.mapped price).toIndex outOfRange price) quantity }, true) := by
  unfold applyBidLevel
  split
  · rfl
  · next hvalid => rw [ensureMappable_eq (not_or.mp hvalid).1]

/-- An ask with a positive price and a quantity that is not negative is applied; another one is
refused. -/
theorem applyAskLevel_eq (price quantity : Double) :
    book.applyAskLevel outOfRange price quantity =
      if price ≤ 0 ∨ quantity < 0 then (book, false)
      else ({ book.mapped price with
        ask := (book.mapped price).ask.applyLevel .ask
          ((book.mapped price).toIndex outOfRange price) quantity }, true) := by
  unfold applyAskLevel
  split
  · rfl
  · next hvalid => rw [ensureMappable_eq (not_or.mp hvalid).1]

/-- The check of the prices of a best bid and offer. -/
def AcceptsBbo (bidPrice askPrice : Double) : Prop :=
  ¬bidPrice ≤ 0 ∧ ¬askPrice ≤ 0 ∧ ¬askPrice < bidPrice

instance (bidPrice askPrice : Double) : Decidable (AcceptsBbo bidPrice askPrice) :=
  inferInstanceAs (Decidable (_ ∧ _ ∧ _))

/-- A best bid and offer on a grid that its prices fit on. -/
def withBbo (outOfRange : Double → Int64) (book : L2OrderBook size)
    (bidPrice bidQty askPrice askQty : Double) : L2OrderBook size :=
  { book with
    bid := book.bid.applyBbo .bid (book.toIndex outOfRange bidPrice) (Double.max 0 bidQty)
    ask := book.ask.applyBbo .ask (book.toIndex outOfRange askPrice) (Double.max 0 askQty) }

/-- A quote that is accepted is written to the book after both prices are mapped. -/
theorem applyBbo_of_accepts {bidPrice askPrice : Double} (h : AcceptsBbo bidPrice askPrice)
    (bidQty askQty : Double) :
    book.applyBbo outOfRange bidPrice bidQty askPrice askQty =
      (((book.mapped bidPrice).mapped askPrice).withBbo outOfRange bidPrice bidQty askPrice
        askQty, true) := by
  obtain ⟨hbid, hask, horder⟩ := h
  unfold applyBbo
  rw [if_neg (by simp only [hbid, hask, horder, or_self, not_false_eq_true]),
    ensureMappable_eq hbid]
  dsimp only
  rw [ensureMappable_eq hask]
  rfl

/-- A quote that is refused leaves the book. -/
theorem applyBbo_of_refuses {bidPrice askPrice : Double} (h : ¬AcceptsBbo bidPrice askPrice)
    (bidQty askQty : Double) :
    book.applyBbo outOfRange bidPrice bidQty askPrice askQty = (book, false) := by
  unfold applyBbo
  rw [if_pos]
  by_contra hnot
  simp only [not_or] at hnot
  exact h hnot

/-- What a call makes of a book. -/
inductive Moves (outOfRange : Double → Int64) (book : L2OrderBook size) :
    Call → L2OrderBook size → Prop
  | refused (call : Call) : Moves outOfRange book call book
  | reset (price : Double) : Moves outOfRange book (.reset price) (book.reset price)
  | bidLevel {price : Double} (hprice : ¬price ≤ 0) (quantity : Double) :
    Moves outOfRange book (.applyBidLevel price quantity)
      { book.mapped price with
        bid := (book.mapped price).bid.applyLevel .bid
          ((book.mapped price).toIndex outOfRange price) quantity }
  | askLevel {price : Double} (hprice : ¬price ≤ 0) (quantity : Double) :
    Moves outOfRange book (.applyAskLevel price quantity)
      { book.mapped price with
        ask := (book.mapped price).ask.applyLevel .ask
          ((book.mapped price).toIndex outOfRange price) quantity }
  | bbo {bidPrice askPrice : Double} (haccepts : AcceptsBbo bidPrice askPrice)
      (bidQty askQty : Double) :
    Moves outOfRange book (.applyBbo bidPrice bidQty askPrice askQty)
      (((book.mapped bidPrice).mapped askPrice).withBbo outOfRange bidPrice bidQty askPrice askQty)

/-- **One call.** It is refused, empties the book, or changes one level or the best levels of a
book that its prices fit on. -/
theorem moves_next (book : L2OrderBook size) (call : Call) :
    Moves outOfRange book call ((machine outOfRange size).next book call) := by
  cases call with
  | reset price => exact .reset price
  | applyBidLevel price quantity =>
    change Moves _ _ _ (book.applyBidLevel outOfRange price quantity).1
    rw [applyBidLevel_eq]
    split
    · exact .refused _
    · next hvalid => exact .bidLevel (not_or.mp hvalid).1 quantity
  | applyAskLevel price quantity =>
    change Moves _ _ _ (book.applyAskLevel outOfRange price quantity).1
    rw [applyAskLevel_eq]
    split
    · exact .refused _
    · next hvalid => exact .askLevel (not_or.mp hvalid).1 quantity
  | applyBbo bidPrice bidQty askPrice askQty =>
    change Moves _ _ _ (book.applyBbo outOfRange bidPrice bidQty askPrice askQty).1
    by_cases haccepts : AcceptsBbo bidPrice askPrice
    · rw [applyBbo_of_accepts haccepts]
      exact .bbo haccepts bidQty askQty
    · rw [applyBbo_of_refuses haccepts]
      exact .refused _

/-- A book whose grid two prices do not both fit on is emptied. -/
theorem mapped_mapped_cases {bidPrice askPrice : Double} (hbid : ¬bidPrice ≤ 0)
    (hask : ¬askPrice ≤ 0) :
    (book.NearBase bidPrice ∧ book.NearBase askPrice ∧
        (book.mapped bidPrice).mapped askPrice = book) ∨
      (¬(book.NearBase bidPrice ∧ book.NearBase askPrice) ∧
        ((book.mapped bidPrice).mapped askPrice).bid = {} ∧
        ((book.mapped bidPrice).mapped askPrice).ask = {}) := by
  rcases @mapped_cases _ book _ hbid with ⟨hnear, heq⟩ | ⟨hfar, -, hbids, hasks⟩
  · rw [heq]
    rcases @mapped_cases _ book _ hask with ⟨hnear', heq'⟩ | ⟨hfar', -, hbids', hasks'⟩
    · exact .inl ⟨hnear, hnear', heq'⟩
    · exact .inr ⟨fun h => hfar' h.2, hbids', hasks'⟩
  · refine .inr ⟨fun h => hfar h.1, ?_⟩
    rcases @mapped_cases _ (book.mapped bidPrice) _ hask with ⟨-, heq'⟩ | ⟨-, -, hbids', hasks'⟩
    · rw [heq']
      exact ⟨hbids, hasks⟩
    · exact ⟨hbids', hasks'⟩

/-- **The condition.** A best bid and offer that is accepted and leaves the grid in place does
not jump over a filled level, when it takes the place of the last one. -/
def KeepsBest (outOfRange : Double → Int64) (book : L2OrderBook size) : Call → Prop
  | .applyBbo bidPrice bidQty askPrice askQty =>
    AcceptsBbo bidPrice askPrice → book.NearBase bidPrice → book.NearBase askPrice →
      book.bid.KeepsBest .bid (book.toIndex outOfRange bidPrice) (Double.max 0 bidQty) ∧
      book.ask.KeepsBest .ask (book.toIndex outOfRange askPrice) (Double.max 0 askQty)
  | _ => True

instance (outOfRange : Double → Int64) (book : L2OrderBook size) (call : Call) :
    Decidable (KeepsBest outOfRange book call) :=
  match call with
  | .applyBbo _ _ _ _ => inferInstanceAs (Decidable (_ → _ → _ → _ ∧ _))
  | .reset _ | .applyBidLevel _ _ | .applyAskLevel _ _ => inferInstanceAs (Decidable True)

/-- **A best bid and offer.** The best indices are right afterwards exactly when neither side
jumps over a filled level. -/
theorem withBbo_bestQuoted_iff (hs : Sound book) (bidPrice bidQty askPrice askQty : Double) :
    BestQuoted (book.withBbo outOfRange bidPrice bidQty askPrice askQty) ↔
      book.bid.KeepsBest .bid (book.toIndex outOfRange bidPrice) (Double.max 0 bidQty) ∧
      book.ask.KeepsBest .ask (book.toIndex outOfRange askPrice) (Double.max 0 askQty) := by
  have hbid := BookSide.applyBbo_isBest_iff size.lt hs.bid (book.toIndex outOfRange bidPrice)
    (Double.max 0 bidQty)
  have hask := BookSide.applyBbo_isBest_iff size.lt hs.ask (book.toIndex outOfRange askPrice)
    (Double.max 0 askQty)
  exact ⟨fun h => ⟨hbid.mp h.bid, hask.mp h.ask⟩, fun h => ⟨hbid.mpr h.1, hask.mpr h.2⟩⟩

/-- A quote keeps a book sound when it keeps the best levels of both sides. -/
theorem withBbo_sound (hs : Sound book) {bidPrice bidQty askPrice askQty : Double}
    (hbid : book.bid.KeepsBest .bid (book.toIndex outOfRange bidPrice) (Double.max 0 bidQty))
    (hask : book.ask.KeepsBest .ask (book.toIndex outOfRange askPrice) (Double.max 0 askQty)) :
    Sound (book.withBbo outOfRange bidPrice bidQty askPrice askQty) :=
  ⟨BookSide.applyBbo_sound size.lt hs.bid hbid, BookSide.applyBbo_sound size.lt hs.ask hask⟩

/-- **The step.** Under the condition a call keeps a book sound. -/
theorem sound_next (hs : Sound book) {call : Call} (hkeeps : KeepsBest outOfRange book call) :
    Sound ((machine outOfRange size).next book call) := by
  have hmoves := @moves_next _ outOfRange book call
  generalize (machine outOfRange size).next book call = after at hmoves ⊢
  cases hmoves with
  | refused => exact hs
  | reset price => exact sound_reset book price
  | bidLevel hprice quantity =>
    have hmapped := hs.mapped hprice
    exact ⟨BookSide.applyLevel_sound hmapped.bid _ _, hmapped.ask⟩
  | askLevel hprice quantity =>
    have hmapped := hs.mapped hprice
    exact ⟨hmapped.bid, BookSide.applyLevel_sound hmapped.ask _ _⟩
  | bbo haccepts bidQty askQty =>
    rcases @mapped_mapped_cases _ book _ _ haccepts.1 haccepts.2.1 with
      ⟨hbid, hask, heq⟩ | ⟨-, hbids, hasks⟩
    · rw [heq]
      obtain ⟨hkeepsBid, hkeepsAsk⟩ := hkeeps haccepts hbid hask
      exact withBbo_sound hs hkeepsBid hkeepsAsk
    · refine withBbo_sound (sound_of_empty hbids hasks) ?_ ?_
      · rw [hbids]
        exact BookSide.keepsBest_empty .bid _ _
      · rw [hasks]
        exact BookSide.keepsBest_empty .ask _ _

/-- A call that does not meet the condition leaves a wrong best index. -/
theorem not_bestQuoted_next (hs : Sound book) {call : Call}
    (hnot : ¬KeepsBest outOfRange book call) :
    ¬BestQuoted ((machine outOfRange size).next book call) := by
  cases call with
  | reset referencePrice => exact (hnot trivial).elim
  | applyBidLevel price quantity => exact (hnot trivial).elim
  | applyAskLevel price quantity => exact (hnot trivial).elim
  | applyBbo bidPrice bidQty askPrice askQty =>
    unfold KeepsBest at hnot
    simp only [Classical.not_imp] at hnot
    obtain ⟨haccepts, hbid, hask, hnot⟩ := hnot
    change ¬BestQuoted (book.applyBbo outOfRange bidPrice bidQty askPrice askQty).1
    rw [applyBbo_of_accepts haccepts]
    rcases @mapped_mapped_cases _ book _ _ haccepts.1 haccepts.2.1 with
      ⟨-, -, heq⟩ | ⟨hfar, -, -⟩
    · rw [heq, withBbo_bestQuoted_iff hs]
      exact hnot
    · exact (hfar ⟨hbid, hask⟩).elim

/-- **The best quotes.** Whatever calls a new book receives, the best index of each side is that
of its best filled level after every call exactly when no call takes the place of the last best
bid or offer and passes over a filled level. -/
theorem bestQuoted_iff (outOfRange : Double → Int64) (tickSize : Double) (size : LevelCount)
    (calls : List Call) :
    (∀ before after, calls = before ++ after →
        BestQuoted ((machine outOfRange size).run (new tickSize size) before)) ↔
      (machine outOfRange size).Along (KeepsBest outOfRange) (new tickSize size) calls :=
  Machine.forall_prefix_iff_along (fun _ hs => hs.bestQuoted) (fun _ _ hs => sound_next hs)
    (fun _ _ hs => not_bestQuoted_next hs) (sound_new tickSize size) calls

/-- Eight levels on each side. -/
def eightLevels : LevelCount := ⟨8, by decide, by decide⟩

/-- A size below the best bid, which then moves below that size. -/
def droppedBid : List Call :=
  [.applyBbo (.finite 100) (.finite 1) (.finite (10002 / 100)) (.finite 1),
    .applyBidLevel (.finite (9999 / 100)) (.finite 3),
    .applyBbo (.finite (9998 / 100)) (.finite 1) (.finite (10002 / 100)) (.finite 1)]

/-- The best bid moves to the third level although the one above it holds a size. -/
theorem bestQuoted_fails_after_drop :
    let book := (machine (fun _ => 0) eightLevels).run (new (.finite (1 / 100)) eightLevels)
      droppedBid
    book.bid.bestIdx = 2 ∧ book.bid.levels ⟨3, by decide⟩ = .finite 3 ∧ ¬BestQuoted book := by
  intro book
  have hbest : book.bid.bestIdx = 2 := by decide +kernel
  have hlevel : book.bid.levels ⟨3, by decide⟩ = .finite 3 := by decide +kernel
  refine ⟨hbest, hlevel, fun h => ?_⟩
  rcases h.bid with ⟨hnone, -⟩ | ⟨i, hi, -, hhighest⟩
  · omega
  · have hfilled : Filled book.bid.levels ⟨3, by decide⟩ := by
      unfold Filled
      rw [hlevel]
      decide +kernel
    have hle := hhighest _ hfilled
    rw [← hi, hbest] at hle
    exact absurd hle (by decide)

end Runs

end L2OrderBook

end TradeBot
