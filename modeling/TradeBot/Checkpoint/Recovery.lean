import TradeBot.Checkpoint.Atomicity
import TradeBot.Checkpoint.CrashSafety
import TradeBot.Checkpoint.Loadable

/-!
# Recovery after a crash

What a process that is started again finds: the components of the last save that took effect,
however many saves failed or were cut off since then.
-/

namespace TradeBot

open Library StateSerializer

namespace Components

/-- What `loadImpl` is handed for components. -/
def targets (t : Components) (checkpointTs : ℕ) (error : String) : Targets where
  portfolio := t.portfolio
  risk := t.risk
  attached := t.attached
  checkpointTs := checkpointTs
  error := error

/-- The contents are those of a save of components that can be loaded into other ones. -/
structure Saved (c t : Components) (checkpointTs now : ℕ) (contents : String) : Prop where
  reached : c.Reached
  representable : c.Representable
  configured : c.Configured t
  loadable : c.Loadable
  timed : Word64 checkpointTs
  save : c.saveSnapshot checkpointTs now = .ok contents

/-- Loading a saved file leaves the components that were saved. -/
theorem Saved.load {c t : Components} {checkpointTs now : ℕ} {contents : String}
    (h : c.Saved t checkpointTs now contents) :
    ∃ loaded, t.loadSnapshot contents = .ok loaded ∧ c.Restored checkpointTs now loaded := by
  have hload (loaded : Loaded) := @loadSnapshot_eq_ok c t h.reached h.representable checkpointTs
    now h.timed contents h.save loaded
  have hsave := h.save
  simp only [saveSnapshot, StateSerializer.saveSnapshot, validate, bind_eq_ok, failIf_eq_ok,
    decide_eq_false_iff_not, not_not] at hsave
  obtain ⟨_, hrate, _, ⟨_, hportfolioValid, hriskValid⟩, -⟩ := hsave
  obtain ⟨-, -, portfolio, hportfolio⟩ := validatePortfolio_facts hportfolioValid
  have hread := rewrittenPortfolio_eq h.loadable.steady.snapshotState
  have hpayload : (payloadOf c.portfolio c.risk c.attached checkpointTs).length ≤ maxPayload :=
    (length_payloadOf c.portfolio c.risk c.regime c.allocator checkpointTs).trans_le h.loadable.size
  have hlimits := (RiskMonitor.canRestoreSnapshot_eq_ok h.configured.risk
    (validateRisk_varLimit hriskValid)).mpr
    ⟨h.loadable.effectiveMaxPositions, h.loadable.effectiveVarLimit⟩
  refine ⟨_, (hload ⟨portfolio, _, _, _⟩).mpr ⟨hpayload, ⟨⟨h.loadable.portfolio, h.loadable.risk⟩,
    h.loadable.regime, h.loadable.phi⟩, hlimits, hread.symm ▸ hportfolioValid,
    hread.symm ▸ hportfolio, rfl⟩, ?_, ?_, ?_, rfl⟩
  · exact h.reached.portfolio.same_of_restoreState h.loadable.steady.survives hportfolio
  · exact RiskMonitor.same_restoreState h.configured.risk hrate
  · have hdetector := RegimeDetector.restoreState_eq h.configured.regime h.reached.regime.copied
    have hallocator := (PortfolioAllocator.same_restorePhiStates h.configured.allocator).mpr
      ⟨h.loadable.cachedDynamicWeights, h.loadable.recomputeCount⟩
    exact ⟨_, by rw [hdetector], hallocator⟩

/-- A process that loads a saved file is in the state that was saved. -/
theorem Saved.load_targets {c t : Components} {checkpointTs now : ℕ} {contents : String}
    (h : c.Saved t checkpointTs now contents) (previousTs : ℕ) (error : String) :
    ∃ loaded, loadImpl (some contents) (t.targets previousTs error) = .ok true ⟨loaded, ""⟩ ∧
      c.Restored checkpointTs now loaded := by
  obtain ⟨loaded, hload, hrestored⟩ := h.load
  have hfile : loadFile t.risk t.attached (some contents) = .ok loaded := hload
  obtain ⟨e, herror, -⟩ | ⟨loaded', hloaded, hrun⟩ :=
    loadImpl_cases (some contents) (t.targets previousTs error)
  · cases hfile.symm.trans herror
  · cases hfile.symm.trans hloaded
    exact ⟨loaded, hrun, hrestored⟩

/-- Every save of a run is one of components that can be loaded. -/
def SavesLoadable (t : Components) : DiskInput → Prop
  | .atomicWrite _ _ contents => ∃ c checkpointTs now, Saved c t checkpointTs now contents
  | _ => True

/-- **Recovery.** When the saves of a run are of components that can be loaded, then at any point
of it, after any crashes, failures and interleavings, a file that no save has replaced is as it
was, and any other one is loaded and restores the components of the last save that took
effect. -/
theorem recovers_last_save (t : Components) (files : String → Option String)
    {inputs : List DiskInput} (hproper : ∀ input ∈ inputs, Disk.Proper input)
    (hlength : inputs.length < UInt64.size) (hsaves : ∀ input ∈ inputs, SavesLoadable t input)
    {path : String} (hplain : Plain path) (previousTs : ℕ) (error : String) :
    let events := (diskMachine.outputs (.started files) inputs).flatten
    let found := (diskMachine.run (.started files) inputs).files path
    (found = files path ∧ ∀ thread contents, .committed thread path contents ∉ events) ∨
      ∃ thread contents c checkpointTs now,
        Registers.LastCommit events path thread contents ∧
        Saved c t checkpointTs now contents ∧
        ∃ loaded, loadImpl found (t.targets previousTs error) = .ok true ⟨loaded, ""⟩ ∧
          c.Restored checkpointTs now loaded := by
  obtain ⟨r, hfollow, htracks⟩ := Disk.tracks_run files hproper hlength
  dsimp only
  rw [htracks.values path hplain]
  obtain hsame | ⟨thread, contents, hvalue, hlast⟩ :=
    (Registers.recorded_of_follow hfollow).value path
  · exact .inl hsame
  · obtain ⟨before, after, heq, hcalled, -⟩ := hlast.split
    have hevent : .called thread path contents ∈
        (diskMachine.outputs (.started files) inputs).flatten := by
      rw [heq]
      exact List.mem_append_left _ hcalled
    obtain ⟨here, input, hinput, hstep⟩ := Protocol.exists_of_mem_outputs hevent
    obtain rfl := Disk.step_of_called hstep
    obtain ⟨c, checkpointTs, now, hsaved⟩ := hsaves _ hinput
    obtain ⟨loaded, hload, hrestored⟩ := hsaved.load_targets previousTs error
    refine .inr ⟨thread, contents, c, checkpointTs, now, hlast, hsaved, loaded, ?_, hrestored⟩
    rw [hvalue, hload]

/-- A file that is saved whole before a crash. -/
def savedOnce (contents : String) : List DiskInput := [
  .atomicWrite 0 "state.json" contents,
  .reply 0 7 .done,
  .reply 0 8 .done,
  .reply 0 8 .done,
  .reply 0 9 .done,
  .crash]

/-- Fresh components, saved before a crash. -/
theorem recovers_last_save_fresh :
    let c := around (quietEngine 2 0 none false)
    ∃ contents, c.saveSnapshot 0 0 = .ok contents ∧
      let events := (diskMachine.outputs (.started fun _ => none) (savedOnce contents)).flatten
      let found :=
        (diskMachine.run (.started fun _ => none) (savedOnce contents)).files "state.json"
      (found = none ∧ ∀ thread contents, .committed thread "state.json" contents ∉ events) ∨
        ∃ thread contents c' checkpointTs now,
          Registers.LastCommit events "state.json" thread contents ∧
          Saved c' c checkpointTs now contents ∧
          ∃ loaded, loadImpl found (c.targets 5 "") = .ok true ⟨loaded, ""⟩ ∧
            c'.Restored checkpointTs now loaded := by
  have hsaved : ((around (quietEngine 2 0 none false)).saveSnapshot 0 0).isOk = true := by
    decide +kernel
  have hplain : Plain "state.json" := plain_of_getLast? (c := 'n') rfl rfl
  cases hsave : (around (quietEngine 2 0 none false)).saveSnapshot 0 0 with
  | error e =>
    rw [hsave] at hsaved
    cases hsaved
  | ok contents =>
    have hloadable : Saved (around (quietEngine 2 0 none false))
        (around (quietEngine 2 0 none false)) 0 0 contents := {
      reached := reached_around (.created 2 0 252)
      representable := representable_around (representable_quietEngine (by decide) (by decide))
      configured := configured_self rfl rfl
      loadable := loadable_around_quietEngine (by decide)
      timed := by decide
      save := hsave }
    have hlength : (savedOnce contents).length < UInt64.size := by
      change 6 < UInt64.size
      decide
    refine ⟨contents, hsave, recovers_last_save _ _ ?_ hlength ?_ hplain 5 ""⟩ <;>
      intro input hinput <;>
      simp only [savedOnce, List.mem_cons, List.not_mem_nil, or_false] at hinput <;>
      rcases hinput with rfl | rfl | rfl | rfl | rfl | rfl
    · exact hplain
    iterate 5 exact trivial
    · exact ⟨_, 0, 0, hloadable⟩
    iterate 5 exact trivial

end Components

end TradeBot
