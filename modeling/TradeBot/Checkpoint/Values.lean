import TradeBot.Checkpoint.Loadable

/-!
# Checkpoints, number for number

What a checkpoint file says, before it is written as bytes and after it is read again. With
numbers that are doubles of 64 bits, writing and reading the file comes to the same; a
computation with exact numbers is checkpointed and resumed through these values.
-/

namespace TradeBot

open Library

namespace StateSerializer

instance {α : Type} (limit : α → Prop) [DecidablePred limit] (xs : List α) :
    Decidable (ListLimits limit xs) :=
  inferInstanceAs (Decidable (xs.length ≤ maxItems ∧ ∀ x ∈ xs, limit x))

instance (values : List Double) : Decidable (NumbersLimits values) :=
  inferInstanceAs (Decidable (values.length ≤ maxItems))

instance : DecidablePred PositionLimits :=
  fun p => inferInstanceAs (Decidable (p.position.symbol.length ≤ maxString ∧
    p.strategyId.length ≤ maxString))

instance : DecidablePred TradeLimits :=
  fun t => inferInstanceAs (Decidable (t.symbol.length ≤ maxString ∧
    t.strategyId.length ≤ maxString))

instance : DecidablePred OrderLimits :=
  fun o => inferInstanceAs (Decidable (o.symbol.length ≤ maxString))

instance : DecidablePred AssetLimits :=
  fun e => inferInstanceAs (Decidable (e.1.length ≤ maxString ∧ NumbersLimits e.2.returnWindow))

instance : DecidablePred PhiStateLimits :=
  fun e => inferInstanceAs (Decidable (e.1.length ≤ maxString ∧ NumbersLimits e.2.pnlWindow))

instance : DecidablePred PortfolioLimits :=
  fun s => inferInstanceAs (Decidable (ListLimits PositionLimits s.positions ∧
    ListLimits TradeLimits s.tradeLog ∧ ListLimits OrderLimits s.pendingOrders))

instance : DecidablePred RiskLimits :=
  fun s => inferInstanceAs (Decidable (NumbersLimits s.returnWindow ∧
    ListLimits AssetLimits s.assetStates.entries ∧ NumbersLimits s.covarianceMatrix ∧
    ListLimits (fun symbol => symbol.length ≤ maxString) s.assetOrder ∧
    ListLimits (fun e => e.1.length ≤ maxString) s.syncedPositions.entries))

instance : DecidablePred RegimeLimits :=
  fun s => inferInstanceAs (Decidable (NumbersLimits s.returnWindow))

instance : DecidablePred PhiLimits :=
  fun states => inferInstanceAs (Decidable (ListLimits PhiStateLimits states.entries))

instance (tag : Financial.Tag) (number : Double) : Decidable (number.Steady tag) :=
  decidable_of_iff ((Financial.normalized tag number .rejectUnaligned).any
    fun value => decide (value.toDouble = number)) (by
      rw [Option.any_eq_true]
      exact exists_congr fun value => and_congr_right fun _ => decide_eq_true_iff)

instance : DecidablePred TradeSteady := fun t =>
  decidable_of_iff (t.entryPrice.Steady .price ∧ t.exitPrice.Steady .price ∧
    t.quantity.Steady .quantity ∧ t.totalFees.Steady .money ∧ t.realizedPnL.Steady .money ∧
    t.grossPnL.Steady .money)
    ⟨fun ⟨hentry, hexit, hquantity, hfees, hrealized, hgross⟩ =>
        ⟨hentry, hexit, hquantity, hfees, hrealized, hgross⟩,
      fun ⟨hentry, hexit, hquantity, hfees, hrealized, hgross⟩ =>
        ⟨hentry, hexit, hquantity, hfees, hrealized, hgross⟩⟩

instance : DecidablePred OrderSteady := fun o =>
  decidable_of_iff (o.limitPrice.Steady .price ∧ o.trailOffset.Steady .price ∧
    o.trailBest.Steady .price ∧ o.quantity.Steady .quantity ∧ o.capitalToCommit.Steady .money)
    ⟨fun ⟨hlimit, hoffset, hbest, hquantity, hcapital⟩ =>
        ⟨hlimit, hoffset, hbest, hquantity, hcapital⟩,
      fun ⟨hlimit, hoffset, hbest, hquantity, hcapital⟩ =>
        ⟨hlimit, hoffset, hbest, hquantity, hcapital⟩⟩

/-- What a checkpoint file says. -/
structure Checkpoint where
  state : State
  extended : Option Extended

namespace Checkpoint

/-- The payload of the file. -/
def payload (checkpoint : Checkpoint) : List UInt8 :=
  writeState checkpoint.state ++ checkpoint.extended.elim [] writeExtended

/-- The limits of the readers on a file. -/
structure Readable (checkpoint : Checkpoint) : Prop where
  payload : checkpoint.payload.length ≤ maxPayload
  portfolio : PortfolioLimits checkpoint.state.portfolio
  risk : RiskLimits checkpoint.state.risk
  extended : ∀ x ∈ checkpoint.extended, RegimeLimits x.regime ∧ PhiLimits x.phi

instance (checkpoint : Checkpoint) : Decidable checkpoint.Readable :=
  decidable_of_iff (checkpoint.payload.length ≤ maxPayload ∧
    PortfolioLimits checkpoint.state.portfolio ∧ RiskLimits checkpoint.state.risk ∧
    ∀ x ∈ checkpoint.extended, RegimeLimits x.regime ∧ PhiLimits x.phi)
    ⟨fun ⟨hpayload, hportfolio, hrisk, hextended⟩ => ⟨hpayload, hportfolio, hrisk, hextended⟩,
      fun ⟨hpayload, hportfolio, hrisk, hextended⟩ => ⟨hpayload, hportfolio, hrisk, hextended⟩⟩

/-- The file as the readers hand it on: amounts have gone through their units, and maps are built
up entry by entry. -/
def reread (checkpoint : Checkpoint) : Checkpoint where
  state := rewrittenState checkpoint.state
  extended := checkpoint.extended.map fun x =>
    { x with phi := KeyedMap.insertAll ∅ (KeyedMap.sortedEntries x.phi) }

end Checkpoint

/-- `saveSnapshot` up to the writing of bytes. -/
def saveValues (portfolio : PortfolioManager) (risk : RiskMonitor) (attached : Attached)
    (checkpointTs now : ℕ) : Except String Checkpoint := do
  failIf (decide (risk.currentErrorRate now ≠ 0))
    "transient API-error window is not restart-compatible"
  validate portfolio.snapshotState risk.snapshotState
  validateAttached (extendedOf attached)
  return ⟨stateOf portfolio risk attached checkpointTs, extendedOf attached⟩

/-- `loadImpl` from what the readers hand on. -/
def loadValues (risk : RiskMonitor) (attached : Attached) (checkpoint : Checkpoint) :
    Except String Loaded := do
  failIf (attached.isSome && !checkpoint.state.extended)
    "snapshot lacks required regime/allocation state"
  validate checkpoint.state.portfolio checkpoint.state.risk
  risk.canRestoreSnapshot checkpoint.state.risk
  validateAttached checkpoint.extended
  let portfolio ← (PortfolioManager.restoreState checkpoint.state.portfolio).mapError
    StdException.what
  return {
    portfolio := portfolio
    risk := risk.restoreState checkpoint.state.risk
    attached := restoreAttached attached checkpoint.extended
    checkpointTs := checkpoint.state.checkpointTs }

/-- `loadSnapshot` of a file, where it succeeds. -/
def reload (risk : RiskMonitor) (attached : Attached) (checkpoint : Checkpoint) :
    Option Loaded :=
  if checkpoint.Readable then (loadValues risk attached checkpoint.reread).toOption else none

/-- The file that `saveSnapshot` writes. -/
theorem saveSnapshot_eq (portfolio : PortfolioManager) (risk : RiskMonitor) (attached : Attached)
    (checkpointTs now : ℕ) :
    saveSnapshot portfolio risk attached checkpointTs now =
      (saveValues portfolio risk attached checkpointTs now).map fun checkpoint =>
        (envelope checkpoint.payload).text := by
  simp only [saveSnapshot, saveValues]
  cases failIf (decide (risk.currentErrorRate now ≠ 0))
    "transient API-error window is not restart-compatible" with
  | error e => rfl
  | ok _ =>
    cases validate portfolio.snapshotState risk.snapshotState with
    | error e => rfl
    | ok _ =>
      cases validateAttached (extendedOf attached) with
      | error e => rfl
      | ok _ => rfl

/-- What loading a file that was saved leaves, and when it succeeds: the risk state and the state of
the attached objects pass their checks again. -/
theorem reload_eq_some {portfolio : PortfolioManager} {risk : RiskMonitor}
    {regime : RegimeDetector} {allocator : PortfolioAllocator} {t : Components}
    {checkpoint : Checkpoint} {checkpointTs now : ℕ}
    (hsave : saveValues portfolio risk (some (regime, allocator)) checkpointTs now = .ok checkpoint)
    {loaded : Loaded} :
    reload t.risk t.attached checkpoint = some loaded ↔
      checkpoint.Readable ∧
      t.risk.canRestoreSnapshot (sortedRisk risk.snapshotState) = .ok () ∧
      validatePortfolio (rewrittenPortfolio portfolio.snapshotState) = .ok () ∧
      PortfolioManager.restoreState (rewrittenPortfolio portfolio.snapshotState) =
        .ok loaded.portfolio ∧
      loaded = {
        portfolio := loaded.portfolio
        risk := t.risk.restoreState (sortedRisk risk.snapshotState)
        attached := some (t.regime.restoreState regime.state, t.allocator.restorePhiStates
          (KeyedMap.insertAll ∅ (KeyedMap.sortedEntries allocator.phiStates)))
        checkpointTs := checkpointTs } := by
  simp only [saveValues, bind_eq_ok, pure_eq_ok] at hsave
  obtain ⟨_, -, _, hvalid, _, hextended, rfl⟩ := hsave
  have hrisk : validateRisk (sortedRisk risk.snapshotState) = .ok () := by
    simp only [validate, bind_eq_ok] at hvalid
    obtain ⟨_, -, hrisk⟩ := hvalid
    exact validateRisk_sortedRisk.mpr hrisk
  have hextended' := validateExtended_sorted.mpr hextended
  have htoOption {result : Except String Loaded} :
      result.toOption = some loaded ↔ result = .ok loaded := by
    cases result with
    | error e => exact ⟨fun h => (by cases h), fun h => (by cases h)⟩
    | ok value => exact ⟨fun h => (by cases h; rfl), fun h => (by cases h; rfl)⟩
  unfold reload
  split
  · next hreadable =>
    rw [htoOption]
    simp only [loadValues, Checkpoint.reread, rewrittenState, stateOf, extendedOf,
      Components.attached, Option.map_some, Option.isSome_some, Bool.not_true, Bool.and_false,
      bind_eq_ok, failIf_eq_ok, mapError_eq_ok, pure_eq_ok, restoreAttached, validateAttached,
      validate]
    constructor
    · rintro ⟨_, -, _, ⟨_, hportfolio, -⟩, _, hrestore, _, -, pm, hpm, rfl⟩
      exact ⟨hreadable, hrestore, hportfolio, hpm, rfl⟩
    · rintro ⟨-, hrestore, hportfolio, hpm, hloaded⟩
      exact ⟨(), trivial, (), ⟨(), hportfolio, hrisk⟩, (), hrestore, (), hextended',
        loaded.portfolio, hpm, hloaded.symm⟩
  · next hreadable =>
    constructor
    · intro h
      cases h
    · intro h
      exact absurd h.1 hreadable

end StateSerializer

namespace PortfolioManager

instance (p : PositionState) : Decidable p.Survives :=
  decidable_of_iff (p.quantity.Survives ∧ p.averageEntryPrice.Survives ∧ p.costBasis.Survives ∧
    p.lastMarkPrice.Survives ∧ p.entryFee.Survives)
    ⟨fun ⟨hquantity, haverage, hcost, hmark, hfee⟩ => ⟨hquantity, haverage, hcost, hmark, hfee⟩,
      fun ⟨hquantity, haverage, hcost, hmark, hfee⟩ => ⟨hquantity, haverage, hcost, hmark, hfee⟩⟩

instance (pm : PortfolioManager) : Decidable pm.Steady :=
  decidable_of_iff ((pm.cash.Survives ∧ pm.unrealizedPnL.Survives ∧ pm.totalEquity.Survives ∧
    pm.maxEquity.Survives ∧ pm.totalFeesPaid.Survives ∧
    ∀ e ∈ pm.positions.entries, e.2.Survives) ∧
    (∀ record ∈ pm.tradeLog, StateSerializer.TradeSteady record) ∧
    ∀ order ∈ pm.pendingOrders, StateSerializer.OrderSteady order)
    ⟨fun ⟨⟨hcash, hprofit, hequity, hmax, hfees, hpositions⟩, hlog, horders⟩ =>
        ⟨⟨hcash, hprofit, hequity, hmax, hfees, fun symbol p hp =>
          hpositions ⟨symbol, p⟩ (AList.mem_lookup_iff.mp hp)⟩, hlog, horders⟩,
      fun ⟨⟨hcash, hprofit, hequity, hmax, hfees, hpositions⟩, hlog, horders⟩ =>
        ⟨⟨hcash, hprofit, hequity, hmax, hfees, fun e he =>
          hpositions e.1 e.2 (AList.mem_lookup_iff.mpr he)⟩, hlog, horders⟩⟩

end PortfolioManager

namespace Components

/-- The file that is saved of components. -/
def saveValues (c : Components) (checkpointTs now : ℕ) :
    Except String StateSerializer.Checkpoint :=
  StateSerializer.saveValues c.portfolio c.risk c.attached checkpointTs now

/-- Loading a file of what a checkpoint says is loading the checkpoint. -/
theorem loadSnapshot_iff_reload {c t : Components} (hreached : c.Reached)
    (hrepresentable : c.Representable) {checkpointTs now : ℕ}
    (hts : StateSerializer.Word64 checkpointTs) {checkpoint : StateSerializer.Checkpoint}
    (hsave : c.saveValues checkpointTs now = .ok checkpoint) {loaded : StateSerializer.Loaded} :
    t.loadSnapshot (StateSerializer.envelope checkpoint.payload).text = .ok loaded ↔
      StateSerializer.reload t.risk t.attached checkpoint = some loaded := by
  have hfile : c.saveSnapshot checkpointTs now =
      .ok (StateSerializer.envelope checkpoint.payload).text := by
    rw [saveSnapshot, StateSerializer.saveSnapshot_eq]
    change Except.map _ (c.saveValues checkpointTs now) = _
    rw [hsave]
    rfl
  rw [loadSnapshot_eq_ok hreached hrepresentable hts hfile, StateSerializer.reload_eq_some hsave]
  simp only [saveValues, StateSerializer.saveValues, bind_eq_ok, pure_eq_ok] at hsave
  obtain ⟨_, -, _, -, _, -, rfl⟩ := hsave
  rw [← and_assoc]
  refine and_congr_left' ⟨?_, ?_⟩
  · rintro ⟨hpayload, ⟨hportfolio, hrisk⟩, hextended⟩
    exact ⟨hpayload, hportfolio, hrisk, fun x hx => by cases hx; exact hextended⟩
  · rintro ⟨hpayload, hportfolio, hrisk, hextended⟩
    exact ⟨hpayload, ⟨hportfolio, hrisk⟩, hextended _ rfl⟩

end Components

end TradeBot
