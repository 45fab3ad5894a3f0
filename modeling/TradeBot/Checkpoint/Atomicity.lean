import TradeBot.Checkpoint.Portfolios
import TradeBot.Checkpoint.Serializer
import TradeBot.PortfolioMembers

/-!
# Loading is all or nothing

`loadImpl` as it writes what it was handed. The restore steps run one after another on the
live objects, member by member, and one that throws leaves what was written before it. The
checks come before the first of them and let none of them throw.
-/

namespace TradeBot

open Library Financial

/-- `restoreState` of the portfolio. Nothing in it reads a member. -/
def Member.restoreState (snapshot : PortfolioManager.Snapshot) : Member Unit := do
  let cash ← requireNonnegative (money snapshot.cash .rejectUnaligned)
    PortfolioManager.incompatibleSnapshot
  let unrealized ← requirePresent (money snapshot.unrealizedPnL .rejectUnaligned)
    PortfolioManager.incompatibleSnapshot
  let equity ← requireNonnegative (money snapshot.totalEquity .rejectUnaligned)
    PortfolioManager.incompatibleSnapshot
  let maxEquity ← requireNonnegative (money snapshot.maxEquity .rejectUnaligned)
    PortfolioManager.incompatibleSnapshot
  let fees ← requireNonnegative (money snapshot.totalFeesPaid .rejectUnaligned)
    PortfolioManager.incompatibleSnapshot
  let positions ← (snapshot.positions.foldlM PortfolioManager.restorePosition ∅ :
    Except StdException (KeyedMap String PositionState))
  let candidate := { PortfolioManager.fresh with
    maxEquity := maxEquity
    maxDrawdown := snapshot.maxDrawdown }
  let valuation ← candidate.valueState cash positions
  throwIf (decide (valuation.unrealizedPnL ≠ unrealized) || decide (valuation.totalEquity ≠ equity)
    || decide (valuation.maxEquity ≠ maxEquity)
    || decide (PortfolioManager.drawdownTolerance <
      (valuation.currentDrawdown - snapshot.currentDrawdown).abs)
    || decide (PortfolioManager.drawdownTolerance <
      (valuation.maxDrawdown - snapshot.maxDrawdown).abs))
    PortfolioManager.inconsistentSnapshot
  modify fun pm => { pm with cash := cash }
  modify fun pm => { pm with positions := positions }
  modify fun pm => { pm with unrealizedPnL := unrealized }
  modify fun pm => { pm with totalEquity := equity }
  modify fun pm => { pm with maxEquity := maxEquity }
  modify fun pm => { pm with currentDrawdown := snapshot.currentDrawdown }
  modify fun pm => { pm with maxDrawdown := snapshot.maxDrawdown }
  modify fun pm => { pm with tradeCount := snapshot.tradeCount }
  modify fun pm => { pm with totalFeesPaid := fees }
  modify fun pm => { pm with tradeLog := snapshot.tradeLog }
  modify fun pm => { pm with roundTripCount := snapshot.roundTripCount }
  modify fun pm => { pm with pendingOrders := snapshot.pendingOrders }
  modify fun pm => { pm with nextOrderId := snapshot.nextOrderId }

/-- A restoration writes the members after its last check. -/
theorem Member.performs_restoreState (pm : PortfolioManager)
    (snapshot : PortfolioManager.Snapshot) :
    Performs (restoreState snapshot) pm (PortfolioManager.restoreState snapshot) := by
  unfold restoreState PortfolioManager.restoreState
  iterate 8 refine Performs.bind fun _ => ?_
  rfl

namespace StateSerializer

/-- A restoration of an object that writes its members one by one. -/
abbrev Restore (σ : Type) := EStateM StdException σ

/-- `restoreState` of the risk engine. -/
def restoreRisk (snapshot : RiskMonitor.Snapshot) : Restore RiskMonitor Unit := do
  modify fun risk => { risk with totalDrawdown := snapshot.totalDrawdown }
  modify fun risk => { risk with dailyDrawdown := snapshot.dailyDrawdown }
  modify fun risk => { risk with prevEquity := snapshot.prevEquity }
  modify fun risk => { risk with prevEquityValid := snapshot.prevEquityValid }
  modify fun risk => { risk with returnWindow := snapshot.returnWindow }
  modify fun risk => { risk with currentVaR95 := snapshot.currentVaR95 }
  modify fun risk => { risk with returnStdDev := snapshot.returnStdDev }
  modify fun risk => { risk with assetStates := snapshot.assetStates }
  modify fun risk => { risk with covMatrix := snapshot.covarianceMatrix }
  modify fun risk => { risk with assetOrder := snapshot.assetOrder }
  modify fun risk => { risk with multiAssetMode := snapshot.multiAssetMode }
  modify fun risk => { risk with closeOnly := snapshot.closeOnly }
  modify fun risk => { risk with lastLatencyMs := snapshot.lastLatencyMs }
  modify fun risk => { risk with halted := snapshot.halted }
  modify fun risk => { risk with syncedPositions := snapshot.syncedPositions }
  modify fun risk => { risk with effectiveMaxPositions := snapshot.effectiveMaxPositions }
  modify fun risk => { risk with effectiveVarLimit := snapshot.effectiveVarLimit }
  modify fun risk => { risk with volatilityScaled := snapshot.volatilityScaled }
  modify fun risk => { risk with errorTimestamps := [] }

/-- `restoreState` of the regime detector and `restorePhiStates` of the allocator. -/
def restorePair (x : Extended) : Restore (RegimeDetector × PortfolioAllocator) Unit := do
  modify fun (regime, allocator) => ({ regime with state := x.regime }, allocator)
  modify fun (regime, allocator) => ({ regime with regime := x.regime.regime }, allocator)
  modify fun (regime, allocator) => ({ regime with adx := x.regime.adx }, allocator)
  modify fun (regime, allocator) => ({ regime with variance := x.regime.variance }, allocator)
  modify fun (regime, allocator) => (regime, { allocator with phiStates := x.phi })

/-- What `loadImpl` writes: the objects it is handed, and the last error. -/
structure Targets extends Loaded where
  error : String

/-- A part of `loadImpl`. An exception leaves the targets as they are by then. -/
abbrev Loading := EStateM StdException Targets

/-- A restoration of one of the targets. -/
def restoring {σ : Type} (part : Targets → σ) (write : Targets → σ → Targets)
    (restore : Restore σ Unit) : Loading Unit := fun targets =>
  match restore (part targets) with
  | .ok () restored => .ok () (write targets restored)
  | .error e reached => .error e (write targets reached)

/-- The end of `loadImpl`, after its checks. Its local variables start as empty states. -/
def commit (state : State) (extended : Option Extended) : Loading Unit := do
  restoring (·.portfolio) (fun t portfolio => { t with portfolio := portfolio })
    (Member.restoreState state.portfolio)
  restoring (·.risk) (fun t risk => { t with risk := risk }) (restoreRisk state.risk)
  let this ← get
  if let some pair := this.attached then
    restoring (fun _ => pair) (fun t pair => { t with attached := some pair })
      (restorePair (extended.getD ⟨{}, ∅⟩))
  modify fun t => { t with checkpointTs := state.checkpointTs }

/-- The part of `loadImpl` that reads the file, where it could be opened. -/
def readSnapshot (attached : Attached) (file : Option String) :
    Except String (State × Option Extended) := do
  let contents ← (file.elim (.error "cannot open snapshot") .ok : Except String String)
  let bytes ← openEnvelope contents
  let (state, rest) ← orMessage "invalid snapshot payload" (readState bytes)
  let (extended, rest) ← readAttached state.extended rest
  failIf (!Reader.done rest) "snapshot payload has trailing data"
  failIf (attached.isSome && !state.extended) "snapshot lacks required regime/allocation state"
  return (state, extended)

/-- The checks of `loadImpl` on what it has read. -/
def validateSnapshot (risk : RiskMonitor) (state : State) (extended : Option Extended) :
    Except String Unit := do
  validate state.portfolio state.risk
  risk.canRestoreSnapshot state.risk
  validateAttached extended

/-- `loadImpl` with an error that it sets. -/
def failLoad (error : String) : Loading Bool := do
  modify fun t => { t with error := error }
  return false

/-- `loadImpl`, and with it `loadSnapshot`, of a file that could be opened or not. -/
def loadImpl (file : Option String) : Loading Bool := do
  modify fun t => { t with error := "" }
  let this ← get
  match readSnapshot this.attached file with
  | .error e => failLoad e
  | .ok (state, extended) =>
    match validateSnapshot this.risk state extended with
    | .error e => failLoad e
    | .ok () =>
      commit state extended
      return true

variable {t : Targets} {state : State} {extended : Option Extended}

/-- A step that returns is followed by the rest. -/
theorem Loading.bind_of_ok {α β : Type} {x : Loading α} {rest : α → Loading β} {a : α}
    {t t' : Targets} (h : x t = .ok a t') : (x >>= rest) t = rest a t' := by
  change EStateM.bind x rest t = _
  rw [EStateM.bind, h]

/-- A validated portfolio can be restored. -/
theorem restoreState_of_validate {p : PortfolioManager.Snapshot} {r : RiskMonitor.Snapshot}
    (h : validate p r = .ok ()) : ∃ portfolio, PortfolioManager.restoreState p = .ok portfolio := by
  simp only [validate, validatePortfolio, bind_eq_ok] at h
  obtain ⟨_, ⟨_, -, _, -, _, -, _, -, _, -, hrestore⟩, -⟩ := h
  unfold checkRestoration at hrestore
  cases hrestored : PortfolioManager.restoreState p with
  | ok portfolio => exact ⟨portfolio, rfl⟩
  | error e =>
    rw [hrestored] at hrestore
    cases hrestore

/-- The targets after a load of what was read. -/
def Loaded.restored (loaded : Loaded) (portfolio : PortfolioManager) (state : State)
    (extended : Option Extended) : Loaded where
  portfolio := portfolio
  risk := loaded.risk.restoreState state.risk
  attached := loaded.attached.map fun (regime, allocator) =>
    let x := extended.getD ⟨{}, ∅⟩
    (regime.restoreState x.regime, allocator.restorePhiStates x.phi)
  checkpointTs := state.checkpointTs

/-- A portfolio that can be restored lets the whole commit return. -/
theorem commit_run {portfolio : PortfolioManager}
    (h : PortfolioManager.restoreState state.portfolio = .ok portfolio) :
    commit state extended t =
      .ok () { t with toLoaded := t.toLoaded.restored portfolio state extended } := by
  have hportfolio : Member.restoreState state.portfolio t.portfolio = .ok () portfolio := by
    have hperforms := Member.performs_restoreState t.portfolio state.portfolio
    rw [h] at hperforms
    exact hperforms
  have hfirst : restoring (·.portfolio) (fun t portfolio => { t with portfolio := portfolio })
      (Member.restoreState state.portfolio) t = .ok () { t with portfolio := portfolio } := by
    rw [restoring, hportfolio]
  unfold commit
  rw [Loading.bind_of_ok hfirst]
  obtain ⟨⟨_, risk, attached, checkpointTs⟩, error⟩ := t
  cases attached with
  | none => rfl
  | some pair => rfl

/-- Attached objects come with the second part of the payload. -/
theorem readSnapshot_attached {attached : Attached} {file : Option String}
    (h : readSnapshot attached file = .ok (state, extended)) (hattached : attached.isSome) :
    extended.isSome := by
  simp only [readSnapshot, bind_eq_ok, failIf_eq_ok, pure_eq_ok, Prod.exists, Prod.mk.injEq] at h
  obtain ⟨_, -, _, -, state, rest, -, extended, rest', hread, _, -, _, hextended, rfl, rfl⟩ := h
  rw [hattached, Bool.true_and, Bool.not_eq_false'] at hextended
  rw [readAttached, if_pos hextended] at hread
  simp only [bind_eq_ok, pure_eq_ok, Prod.exists, Prod.mk.injEq] at hread
  obtain ⟨x, _, -, rfl, -⟩ := hread
  rfl

/-- With a second part for attached objects, they are restored from it. -/
theorem restoreAttached_eq {attached : Attached} (h : attached.isSome → extended.isSome) :
    restoreAttached attached extended = attached.map fun (regime, allocator) =>
      let x := extended.getD ⟨{}, ∅⟩
      (regime.restoreState x.regime, allocator.restorePhiStates x.phi) := by
  cases attached with
  | none => rfl
  | some pair =>
    obtain ⟨x, rfl⟩ := Option.isSome_iff_exists.mp (h rfl)
    rfl

/-- `loadSnapshot` of a file that could be opened or not. -/
def loadFile (risk : RiskMonitor) (attached : Attached) (file : Option String) :
    Except String Loaded :=
  match file with
  | some contents => loadSnapshot risk attached contents
  | none => .error "cannot open snapshot"

/-- Loading a file: read it, check everything, and only then restore. -/
theorem loadFile_eq (risk : RiskMonitor) (attached : Attached) (file : Option String) :
    loadFile risk attached file = (do
      let (state, extended) ← readSnapshot attached file
      validateSnapshot risk state extended
      let portfolio ← (PortfolioManager.restoreState state.portfolio).mapError StdException.what
      return {
        portfolio := portfolio
        risk := risk.restoreState state.risk
        attached := restoreAttached attached extended
        checkpointTs := state.checkpointTs }) := by
  cases file with
  | none => rfl
  | some contents =>
    unfold loadFile loadSnapshot loadPayload readSnapshot validateSnapshot
    simp only [bind_assoc, pure_bind, Option.elim_some]
    rfl

/-- **Simulation.** `loadImpl` never throws. It leaves what the load of the file gives, or the
targets as they were and the error. -/
theorem loadImpl_cases (file : Option String) (t : Targets) :
    (∃ e, loadFile t.risk t.attached file = .error e ∧
      loadImpl file t = .ok false { t with error := e }) ∨
    ∃ loaded, loadFile t.risk t.attached file = .ok loaded ∧
      loadImpl file t = .ok true { toLoaded := loaded, error := "" } := by
  have hload : loadImpl file t = (match readSnapshot t.attached file with
      | .error e => failLoad e
      | .ok (state, extended) =>
        match validateSnapshot t.risk state extended with
        | .error e => failLoad e
        | .ok () => do
          commit state extended
          return true) { t with error := "" } := rfl
  rw [loadFile_eq, hload]
  cases hread : readSnapshot t.attached file with
  | error e => exact .inl ⟨e, rfl, rfl⟩
  | ok read =>
    obtain ⟨state, extended⟩ := read
    change (∃ e, (validateSnapshot t.risk state extended >>= _) = Except.error e ∧ _) ∨
      ∃ loaded, (validateSnapshot t.risk state extended >>= _) = Except.ok loaded ∧ _
    dsimp only
    cases hvalid : validateSnapshot t.risk state extended with
    | error e => exact .inl ⟨e, rfl, rfl⟩
    | ok _ =>
      simp only [validateSnapshot, bind_eq_ok] at hvalid
      obtain ⟨_, hvalidate, -⟩ := hvalid
      obtain ⟨portfolio, hportfolio⟩ := restoreState_of_validate hvalidate
      refine .inr ⟨t.toLoaded.restored portfolio state extended, ?_, ?_⟩
      · change
          ((PortfolioManager.restoreState state.portfolio).mapError StdException.what >>= _) = _
        rw [hportfolio, Loaded.restored, restoreAttached_eq (readSnapshot_attached hread)]
        rfl
      · change (commit state extended >>= fun _ => pure true) { t with error := "" } = _
        rw [Loading.bind_of_ok (commit_run hportfolio)]
        rfl

/-- **Atomicity.** A load returns, and what it returns says whether nothing was restored or
everything was; no restore step throws after the validation. -/
theorem loadImpl_atomic :
    (∀ (file : Option String) (t : Targets), ∃ accepted after,
      loadImpl file t = .ok accepted after ∧
      (accepted = false → after.toLoaded = t.toLoaded) ∧
      (accepted = true → ∃ contents ∈ file,
        loadSnapshot t.risk t.attached contents = .ok after.toLoaded)) ∧
    ∀ (state : State) (extended : Option Extended) (t : Targets),
      validate state.portfolio state.risk = .ok () →
        ∃ portfolio, PortfolioManager.restoreState state.portfolio = .ok portfolio ∧
          commit state extended t =
            .ok () { t with toLoaded := t.toLoaded.restored portfolio state extended } := by
  constructor
  · intro file t
    obtain ⟨e, -, hrun⟩ | ⟨loaded, hloaded, hrun⟩ := loadImpl_cases file t
    · exact ⟨false, _, hrun, fun _ => rfl, fun h => by cases h⟩
    · refine ⟨true, _, hrun, fun h => (by cases h), fun _ => ?_⟩
      cases file with
      | none => cases hloaded
      | some contents => exact ⟨contents, rfl, hloaded⟩
  · intro state extended t hvalid
    obtain ⟨portfolio, hportfolio⟩ := restoreState_of_validate hvalid
    exact ⟨portfolio, hportfolio, commit_run hportfolio⟩

/-- The state of a new portfolio passes the validation, and it is committed over another. -/
theorem loadImpl_atomic_fresh :
    let state := stateOf PortfolioManager.fresh RiskMonitor.create none 1
    let t : Targets := ⟨⟨.fresh ⟨500⟩, .create, none, 7⟩, ""⟩
    ∃ portfolio, PortfolioManager.restoreState state.portfolio = .ok portfolio ∧
      commit state none t = .ok () { t with toLoaded := t.restored portfolio state none } :=
  loadImpl_atomic.2 _ none _ (by decide +kernel)

end StateSerializer

end TradeBot
