import TradeBot.Double
import TradeBot.Library.FloatRounding
import TradeBot.Library.Machine
import TradeBot.LocalDataReplayAdapter

/-!
# The pacing of a replay

`nextTick` of `LocalDataReplayAdapter.cpp` with the time at which it returns, and the calls that
move the cursor or change the speed. A sleep ends when it is due. The delay between two ticks is
a quotient of doubles that is cast to a `uint64_t` and added to a signed 64-bit clock: it can be
too long for the cast, and then nothing is promised, or so long that it counts as negative.
-/

namespace TradeBot

open Library

/-- `ReplaySpeedMode` -/
inductive ReplaySpeedMode
  | realtime1x
  | fast10x
  | maxEffort
deriving DecidableEq

/-- `LocalDataReplayAdapter` with its pacing. `returnedNs` is when the last call returned, which
is not kept by the source. -/
structure PacedReplay extends LocalDataReplayAdapter where
  speedMode : ReplaySpeedMode := .realtime1x
  speedFactor : ℚ := 1
  lastReplayNs : ℕ := 0
  lastWallClock : Option ℤ := none
  returnedNs : ℕ := 0

/-- What a replay is asked for. -/
inductive ReplayCall
  | nextTick (nowNs : ℕ)
  | seek (idx : ℕ)
  | resetCursor
  | setSpeedMode (mode : ReplaySpeedMode)
  | setSpeedFactor (factor : Double)

/-- What a replay answers. -/
inductive ReplayAnswer
  /-- The call only changes the replay. -/
  | done
  /-- There are no more ticks. -/
  | ended
  | tick (tick : ReplayTick) (returnedNs : ℕ)
  /-- A delay or a time is too long for its type, and the behaviour is undefined. -/
  | overflow
deriving DecidableEq

/-- The delay between two ticks at a speed, as a whole number. -/
def scaledDeltaNs (speedFactor : ℚ) (prev cur : ℕ) : ℕ :=
  if cur ≤ prev then 0
  else if speedFactor ≤ 0 then 0
  else
    let scaled := roundTo 53 (roundTo 53 ((cur - prev : ℕ) : ℚ) / speedFactor)
    if scaled ≤ 0 then 0 else ⌊scaled⌋.toNat

/-- The cast of a whole number to `uint64_t`, where it is defined. -/
def castUInt64 (value : ℕ) : Option ℕ := if value < 2 ^ 64 then some value else none

/-- `std::chrono::nanoseconds` of a `uint64_t`: the count is signed. -/
def nanoseconds (count : ℕ) : ℤ := (count : ℤ).bmod (2 ^ 64)

/-- The sum of two signed 64-bit numbers, where it is defined. -/
def addInt64 (a b : ℤ) : Option ℤ := if -2 ^ 63 ≤ a + b ∧ a + b < 2 ^ 63 then some (a + b) else none

namespace PacedReplay

def clearPacing (r : PacedReplay) : PacedReplay :=
  { r with
    lastWallClock := none
    lastReplayNs := 0 }

def setSpeedMode (r : PacedReplay) (mode : ReplaySpeedMode) : PacedReplay :=
  { r with
    speedMode := mode
    speedFactor :=
      match mode with
      | .realtime1x => 1
      | .fast10x => 10
      | .maxEffort => 0 }.clearPacing

def setSpeedFactor (r : PacedReplay) (factor : Double) : PacedReplay :=
  match factor with
  | .finite value =>
    if value ≤ 0 then
      { r with
        speedMode := .maxEffort
        speedFactor := 0 }.clearPacing
    else
      { r with
        speedMode :=
          if |roundTo 53 (value - 1)| < roundTo 53 (1 / 10 ^ 12) then .realtime1x else .fast10x
        speedFactor := value }.clearPacing
  | _ =>
    { r with
      speedMode := .maxEffort
      speedFactor := 0 }.clearPacing

def seek (r : PacedReplay) (idx : ℕ) : PacedReplay × Bool :=
  if r.ticks.length ≤ idx then (r, false) else ({ r with cursor := idx }.clearPacing, true)

def resetCursor (r : PacedReplay) : PacedReplay := { r with cursor := 0 }.clearPacing

def computeReplayDelayNs (r : PacedReplay) (prev cur : ℕ) : Option ℕ :=
  castUInt64 (scaledDeltaNs r.speedFactor prev cur)

/-- The replay waits between ticks. -/
def Paced (r : PacedReplay) : Prop := r.speedMode ≠ .maxEffort ∧ 0 < r.speedFactor

instance (r : PacedReplay) : Decidable r.Paced := inferInstanceAs (Decidable (_ ∧ _))

/-- `nextTick` at a reading of the clock: the tick, and when it is returned. -/
def nextTick (r : PacedReplay) (nowNs : ℕ) : PacedReplay × ReplayAnswer :=
  match r.ticks[r.cursor]? with
  | none => (r, .ended)
  | some tick =>
    let wall := r.lastWallClock.getD nowNs
    let moved := { r with
      cursor := r.cursor + 1
      lastReplayNs := tick.timestampNs.toNat }
    if 0 < r.cursor ∧ r.Paced then
      match r.computeReplayDelayNs r.lastReplayNs tick.timestampNs.toNat with
      | none => (r, .overflow)
      | some delay =>
        if 0 < delay then
          match addInt64 wall (nanoseconds delay) with
          | none => (r, .overflow)
          | some due =>
            ({ moved with
              lastWallClock := some due
              returnedNs := max nowNs due.toNat }, .tick tick (max nowNs due.toNat))
        else ({ moved with returnedNs := nowNs }, .tick tick nowNs)
    else
      ({ moved with
        lastWallClock := some wall
        returnedNs := nowNs }, .tick tick nowNs)

/-- The tick of an answer. -/
def answeredTick : ReplayAnswer → Option ReplayTick
  | .tick tick _ => some tick
  | _ => none

/-- The pacing changes when a tick is returned and not which one. -/
theorem nextTick_forget {r : PacedReplay} {nowNs : ℕ} (h : (r.nextTick nowNs).2 ≠ .overflow) :
    ((r.nextTick nowNs).1.toLocalDataReplayAdapter, answeredTick (r.nextTick nowNs).2) =
      r.toLocalDataReplayAdapter.nextTick := by
  revert h
  unfold nextTick LocalDataReplayAdapter.nextTick
  cases r.ticks[r.cursor]? with
  | none => exact fun _ => rfl
  | some tick =>
    dsimp only
    intro h
    split_ifs at h ⊢ with hpaced
    · split
      · next hnone =>
        rw [hnone] at h
        exact absurd rfl h
      · next delay hdelay =>
        rw [hdelay] at h
        dsimp only at h
        split_ifs at h ⊢ with hlong
        · split
          · next hnone =>
            rw [hnone] at h
            exact absurd rfl h
          · rfl
        · rfl
    · rfl

def perform (r : PacedReplay) (call : ReplayCall) : PacedReplay × ReplayAnswer :=
  match call with
  | .nextTick nowNs => r.nextTick nowNs
  | .seek idx => ((r.seek idx).1, .done)
  | .resetCursor => (r.resetCursor, .done)
  | .setSpeedMode mode => (r.setSpeedMode mode, .done)
  | .setSpeedFactor factor => (r.setSpeedFactor factor, .done)

/-- The clock is read after the last call has returned. -/
def Steady (r : PacedReplay) : ReplayCall → Prop
  | .nextTick nowNs => r.returnedNs ≤ nowNs
  | _ => True

instance (r : PacedReplay) (call : ReplayCall) : Decidable (Steady r call) :=
  match call with
  | .nextTick nowNs => inferInstanceAs (Decidable (r.returnedNs ≤ nowNs))
  | .seek _ => isTrue trivial
  | .resetCursor => isTrue trivial
  | .setSpeedMode _ => isTrue trivial
  | .setSpeedFactor _ => isTrue trivial

end PacedReplay

/-- A replay as a machine. -/
def replayMachine : Machine PacedReplay ReplayCall ReplayAnswer :=
  ⟨PacedReplay.perform⟩

/-- The timestamp of a recorded tick. -/
def timestampAt (ticks : List ReplayTick) (idx : ℕ) : ℕ :=
  (ticks[idx]?).elim 0 fun tick => tick.timestampNs.toNat

/-- The delays of the ticks after the first of a stretch, added up. -/
def elapsedNs (speedFactor : ℚ) (ticks : List ReplayTick) (first : ℕ) : ℕ → ℕ
  | 0 => 0
  | k + 1 => elapsedNs speedFactor ticks first k +
    scaledDeltaNs speedFactor (timestampAt ticks (first + k)) (timestampAt ticks (first + k + 1))

namespace PacedReplay

/-- No pacing is going on. -/
structure Cleared (r : PacedReplay) : Prop where
  lastReplayNs : r.lastReplayNs = 0
  lastWallClock : r.lastWallClock = none

/-- The calls that start a stretch: a seek inside the file, a reset and a change of speed. -/
def Restarts (r : PacedReplay) : ReplayCall → Prop
  | .nextTick _ => False
  | .seek idx => idx < r.ticks.length
  | _ => True

/-- Clearing the pacing clears it. -/
theorem cleared_clearPacing (r : PacedReplay) : r.clearPacing.Cleared := ⟨rfl, rfl⟩

/-- A stretch starts with no pacing going on. -/
theorem cleared_perform {r : PacedReplay} {call : ReplayCall} (h : r.Restarts call) :
    (r.perform call).1.Cleared := by
  cases call with
  | nextTick nowNs => exact h.elim
  | seek idx =>
    change (r.seek idx).1.Cleared
    rw [seek, if_neg (Nat.not_le.mpr h)]
    exact cleared_clearPacing _
  | resetCursor => exact cleared_clearPacing _
  | setSpeedMode mode => exact cleared_clearPacing _
  | setSpeedFactor factor =>
    change (r.setSpeedFactor factor).Cleared
    unfold setSpeedFactor
    split
    · split <;> exact cleared_clearPacing _
    · exact cleared_clearPacing _

/-- Where a paced replay stands after `count + 1` ticks from the one at `first`, of which the
first counts from `anchor`. -/
structure Running (start : PacedReplay) (anchor count : ℕ) (r : PacedReplay) : Prop where
  ticks : r.ticks = start.ticks
  paced : r.Paced
  speedFactor : r.speedFactor = start.speedFactor
  cursor : r.cursor = start.cursor + count + 1
  lastReplayNs : r.lastReplayNs = timestampAt start.ticks (start.cursor + count)
  lastWallClock : r.lastWallClock =
    some ((anchor + elapsedNs start.speedFactor start.ticks start.cursor count : ℕ) : ℤ)
  returned : anchor + elapsedNs start.speedFactor start.ticks start.cursor count ≤ r.returnedNs

/-- Where the pacing of a stretch starts to count: at the first call, and for a stretch in the
middle of a file after the whole timestamp of its first tick. -/
def anchorNs (start : PacedReplay) (nowNs : ℕ) : ℕ :=
  if start.cursor = 0 then nowNs
  else nowNs + scaledDeltaNs start.speedFactor 0 (timestampAt start.ticks start.cursor)

variable {start r : PacedReplay} {anchor count nowNs : ℕ} {tick : ReplayTick}

/-- The timestamp at an index is that of its tick. -/
theorem timestampAt_of_tick {ticks : List ReplayTick} {idx : ℕ} (h : ticks[idx]? = some tick) :
    timestampAt ticks idx = tick.timestampNs.toNat := by
  rw [timestampAt, h]
  rfl

/-- A delay that the clock can take is added as it is. -/
theorem addInt64_nanoseconds {wall delay : ℕ} (h : wall + delay < 2 ^ 63) :
    castUInt64 delay = some delay ∧
      addInt64 wall (nanoseconds delay) = some ((wall + delay : ℕ) : ℤ) := by
  have hdelay : nanoseconds delay = delay := Int.bmod_eq_of_le (by omega) (by omega)
  constructor
  · rw [castUInt64, if_pos (by omega)]
  · rw [hdelay, addInt64, if_pos (by omega), Nat.cast_add]

/-- The first tick of a stretch. -/
theorem running_first (hcleared : start.Cleared) (hpaced : start.Paced)
    (htick : start.ticks[start.cursor]? = some tick)
    (hanchor : start.cursor = 0 ∨
      0 < scaledDeltaNs start.speedFactor 0 (timestampAt start.ticks start.cursor))
    (hfits : start.anchorNs nowNs < 2 ^ 63) :
    Running start (start.anchorNs nowNs) 0 (start.nextTick nowNs).1 ∧
      (start.nextTick nowNs).2 = .tick tick (start.anchorNs nowNs) := by
  have htime := timestampAt_of_tick htick
  rw [htime] at hanchor
  unfold anchorNs at hfits
  rw [htime] at hfits
  unfold nextTick anchorNs
  rw [htick, htime]
  dsimp only
  rw [computeReplayDelayNs, hcleared.lastReplayNs, hcleared.lastWallClock, Option.getD_none]
  by_cases hfirst : start.cursor = 0
  · have hnot : ¬(0 < start.cursor ∧ start.Paced) := fun h => by omega
    rw [if_neg hnot, if_pos hfirst]
    exact ⟨⟨rfl, hpaced, rfl, rfl, htime.symm, rfl, Nat.le_refl _⟩, rfl⟩
  · have hdelay := hanchor.resolve_left hfirst
    have hlater : 0 < start.cursor ∧ start.Paced := ⟨Nat.pos_of_ne_zero hfirst, hpaced⟩
    rw [if_neg hfirst] at hfits
    obtain ⟨hcast, hdue⟩ := addInt64_nanoseconds hfits
    rw [if_pos hlater, hcast]
    dsimp only
    rw [if_pos hdelay, hdue]
    dsimp only
    rw [if_neg hfirst, Int.toNat_natCast, Nat.max_eq_right (Nat.le_add_right _ _)]
    exact ⟨⟨rfl, hpaced, rfl, rfl, htime.symm, rfl, Nat.le_refl _⟩, rfl⟩

/-- Every later tick: it is due after the delay from the one before it. -/
theorem Running.next (h : Running start anchor count r)
    (htick : start.ticks[start.cursor + count + 1]? = some tick) (hsteady : r.returnedNs ≤ nowNs)
    (hfits : anchor + elapsedNs start.speedFactor start.ticks start.cursor (count + 1) < 2 ^ 63) :
    Running start anchor (count + 1) (r.nextTick nowNs).1 ∧
      (r.nextTick nowNs).2 = .tick tick (max nowNs
        (anchor + elapsedNs start.speedFactor start.ticks start.cursor (count + 1))) := by
  have htime := timestampAt_of_tick htick
  have hfound : r.ticks[r.cursor]? = some tick := by rw [h.ticks, h.cursor, htick]
  have hpaced : 0 < r.cursor ∧ r.Paced := ⟨by rw [h.cursor]; omega, h.paced⟩
  have helapsed : elapsedNs start.speedFactor start.ticks start.cursor (count + 1) =
      elapsedNs start.speedFactor start.ticks start.cursor count +
        scaledDeltaNs r.speedFactor r.lastReplayNs tick.timestampNs.toNat := by
    rw [elapsedNs, h.speedFactor, h.lastReplayNs, htime]
  have hreturned := h.returned
  rw [helapsed, ← Nat.add_assoc] at hfits
  obtain ⟨hcast, hdue⟩ := addInt64_nanoseconds hfits
  unfold nextTick
  rw [hfound]
  dsimp only
  rw [if_pos hpaced, computeReplayDelayNs, hcast, h.lastWallClock, Option.getD_some, helapsed,
    ← Nat.add_assoc]
  dsimp only
  split
  · rw [hdue]
    dsimp only
    rw [Int.toNat_natCast]
    refine ⟨⟨h.ticks, h.paced, h.speedFactor, ?_, htime.symm, ?_, ?_⟩, rfl⟩
    · exact congrArg (· + 1) h.cursor
    · rw [helapsed, ← Nat.add_assoc]
    · rw [helapsed, ← Nat.add_assoc]
      exact Nat.le_max_right _ _
  · next hnone =>
    have hzero : scaledDeltaNs r.speedFactor r.lastReplayNs tick.timestampNs.toNat = 0 := by omega
    have hsame : elapsedNs start.speedFactor start.ticks start.cursor (count + 1) =
        elapsedNs start.speedFactor start.ticks start.cursor count := by
      rw [helapsed, hzero]
      rfl
    have hlast := Nat.max_eq_left (hreturned.trans hsteady)
    rw [hzero, Nat.add_zero (anchor + _), hlast]
    refine ⟨⟨h.ticks, h.paced, h.speedFactor, ?_, htime.symm, ?_, ?_⟩, rfl⟩
    · exact congrArg (· + 1) h.cursor
    · rw [hsame]
    · rw [hsame]
      exact hreturned.trans hsteady

/-- The delays add up to more and more. -/
theorem elapsedNs_mono (speedFactor : ℚ) (ticks : List ReplayTick) (first : ℕ) :
    Monotone (elapsedNs speedFactor ticks first) :=
  monotone_nat_of_le_succ fun _ => Nat.le_add_right _ _

/-- The calls of `nextTick` at the readings of the clock. -/
def nextTicks (nows : List ℕ) : List ReplayCall := nows.map .nextTick

/-- A running replay keeps to its schedule over steady calls while the delays fit a word. -/
theorem Running.run (h : Running start anchor count r) {nows : List ℕ}
    (hsteady : replayMachine.Along Steady r (nextTicks nows))
    (hticks : start.cursor + count + nows.length < start.ticks.length)
    (hfits : anchor + elapsedNs start.speedFactor start.ticks start.cursor
      (count + nows.length) < 2 ^ 63) :
    Running start anchor (count + nows.length) (replayMachine.run r (nextTicks nows)) := by
  induction nows generalizing r count with
  | nil => exact h
  | cons now nows ih =>
    rw [List.length_cons] at hticks
    obtain ⟨hnow, hrest⟩ := hsteady
    have hlt : start.cursor + count + 1 < start.ticks.length := by omega
    have hcount : count + (now :: nows).length = count + 1 + nows.length := by
      rw [List.length_cons]
      omega
    rw [hcount] at hfits
    have hearlier : elapsedNs start.speedFactor start.ticks start.cursor (count + 1) ≤
        elapsedNs start.speedFactor start.ticks start.cursor (count + 1 + nows.length) :=
      elapsedNs_mono _ _ _ (Nat.le_add_right _ _)
    have hnext := (h.next (List.getElem?_eq_getElem hlt) hnow (by omega)).1
    have hrun := ih hnext hrest (by omega) hfits
    rw [hcount]
    exact hrun

end PacedReplay

end TradeBot
