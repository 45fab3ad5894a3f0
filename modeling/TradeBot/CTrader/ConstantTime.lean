import Mathlib.Data.List.GetD
import Mathlib.Data.Nat.Bitwise
import Mathlib.Tactic.Push
import TradeBot.Library.Bytes

/-!
# The comparison of access tokens

The comparison that decides whether an account list belongs to the access token of the session.
It reads both texts up to the longer length, as if the shorter one went on with zeros.
-/

namespace TradeBot

open Library

namespace CTraderGate7Runtime

/-- `constantTimeEqual`. The difference of the lengths is cut to the width of the accumulator. -/
def constantTimeEqual (left right : Bytes) : Bool :=
  let length := max left.length right.length
  let difference := (List.range length).foldl
    (fun difference index =>
      let leftByte := if index < left.length then left.getD index 0 else 0
      let rightByte := if index < right.length then right.getD index 0 else 0
      difference ||| (leftByte ^^^ rightByte))
    (UInt8.ofNat (left.length ^^^ right.length))
  difference = 0

/-- Accumulated differences are zero when each of them is. -/
theorem foldl_or_eq_zero_iff {f : ℕ → UInt8} {first : UInt8} {indices : List ℕ} :
    indices.foldl (fun difference index => difference ||| f index) first = 0 ↔
      first = 0 ∧ ∀ index ∈ indices, f index = 0 := by
  induction indices generalizing first with
  | nil => simp
  | cons index indices ih =>
    rw [List.foldl_cons, ih, UInt8.or_eq_zero_iff, List.forall_mem_cons, and_assoc]

/-- The accumulator sees lengths up to multiples of its range. -/
theorem ofNat_xor_eq_zero_iff {m n : ℕ} : UInt8.ofNat (m ^^^ n) = 0 ↔ m % 256 = n % 256 := by
  rw [← UInt8.toNat_inj, UInt8.toNat_ofNat', show (256 : ℕ) = 2 ^ 8 from rfl, Nat.xor_mod_two_pow]
  exact Nat.xor_eq_zero_iff

/-- What the comparison decides. -/
theorem constantTimeEqual_iff_getD {left right : Bytes} :
    constantTimeEqual left right = true ↔
      left.length % 256 = right.length % 256 ∧
        ∀ index < max left.length right.length, left.getD index 0 = right.getD index 0 := by
  have hbyte (text : Bytes) (index : ℕ) :
      (if index < text.length then text.getD index 0 else 0) = text.getD index 0 := by
    split
    · rfl
    · next h => exact (List.getD_eq_default _ _ (not_lt.mp h)).symm
  unfold constantTimeEqual
  simp only [hbyte, decide_eq_true_iff]
  rw [foldl_or_eq_zero_iff, ofNat_xor_eq_zero_iff]
  simp only [List.mem_range, UInt8.xor_eq_zero_iff]

/-- Texts that agree when the shorter one goes on with zeros. -/
theorem eq_append_replicate_iff {left right : Bytes} (hle : left.length ≤ right.length) :
    (∀ index < max left.length right.length, left.getD index 0 = right.getD index 0) ↔
      right = left ++ List.replicate (right.length - left.length) 0 := by
  rw [max_eq_right hle]
  constructor
  · intro h
    apply List.ext_getElem
    · rw [List.length_append, List.length_replicate]
      omega
    · intro index hindex hindex'
      have hsame := h index hindex
      rw [List.getD_eq_getElem _ _ hindex] at hsame
      rw [← hsame, List.getElem_append]
      split
      · next hshort => exact List.getD_eq_getElem _ _ hshort
      · next hlong =>
        rw [List.getElem_replicate]
        exact List.getD_eq_default _ _ (not_lt.mp hlong)
  · intro h index hindex
    rw [h]
    rcases lt_or_ge index left.length with hshort | hlong
    · rw [List.getD_append _ _ _ _ hshort]
    · rw [List.getD_append_right _ _ _ _ hlong, List.getD_eq_default _ _ hlong,
        List.getD_replicate 0 (by omega)]

/-- The right text is the left one with a positive multiple of 256 zero bytes after it. -/
def PaddedWith (left right : Bytes) : Prop :=
  ∃ k, 0 < k ∧ right = left ++ List.replicate (256 * k) 0

/-- The comparison does not depend on the order of its arguments. -/
theorem constantTimeEqual_comm (left right : Bytes) :
    constantTimeEqual left right = constantTimeEqual right left := by
  rw [Bool.eq_iff_iff, constantTimeEqual_iff_getD, constantTimeEqual_iff_getD, max_comm, eq_comm]
  exact and_congr_right fun _ => forall₂_congr fun _ _ => eq_comm

/-- What the comparison takes for equal, where the left text is not the longer one. -/
theorem constantTimeEqual_iff_of_le {left right : Bytes} (hle : left.length ≤ right.length) :
    constantTimeEqual left right = true ↔ left = right ∨ PaddedWith left right := by
  rw [constantTimeEqual_iff_getD, eq_append_replicate_iff hle]
  constructor
  · rintro ⟨hlength, hright⟩
    rcases Nat.eq_zero_or_pos ((right.length - left.length) / 256) with hzero | hpos
    · left
      rw [show right.length - left.length = 0 by omega, List.replicate_zero,
        List.append_nil] at hright
      exact hright.symm
    · refine Or.inr ⟨_, hpos, ?_⟩
      rwa [show 256 * ((right.length - left.length) / 256) = right.length - left.length by omega]
  · rintro (rfl | ⟨k, -, rfl⟩)
    · simp
    · rw [List.length_append, List.length_replicate]
      refine ⟨by omega, ?_⟩
      rw [Nat.add_sub_cancel_left]

/-- What the comparison takes for equal: equal texts, and those padded by a multiple of 256 zeros.
-/
theorem constantTimeEqual_eq_true_iff (left right : Bytes) :
    constantTimeEqual left right = true ↔
      left = right ∨ PaddedWith left right ∨ PaddedWith right left := by
  have hlonger {short long : Bytes} (h : PaddedWith short long) : short.length < long.length := by
    obtain ⟨k, hk, rfl⟩ := h
    rw [List.length_append, List.length_replicate]
    omega
  rcases le_total left.length right.length with hle | hle
  · rw [constantTimeEqual_iff_of_le hle]
    exact or_congr_right (or_iff_left fun h => absurd (hlonger h) (not_lt.mpr hle)).symm
  · rw [constantTimeEqual_comm, constantTimeEqual_iff_of_le hle, eq_comm]
    exact or_congr_right (or_iff_right fun h => absurd (hlonger h) (not_lt.mpr hle)).symm

/-- **Exactly where the comparison decides equality.** It does for two texts unless one of them is
the other with a positive multiple of 256 zero bytes after it. -/
theorem constantTimeEqual_decides_iff (left right : Bytes) :
    (constantTimeEqual left right = true ↔ left = right) ↔
      ¬PaddedWith left right ∧ ¬PaddedWith right left := by
  have hdiffers {short long : Bytes} (h : PaddedWith short long) : short ≠ long := by
    obtain ⟨k, hk, rfl⟩ := h
    intro heq
    have hlength := congrArg List.length heq
    rw [List.length_append, List.length_replicate] at hlength
    omega
  rw [constantTimeEqual_eq_true_iff]
  constructor
  · intro h
    refine ⟨fun hpadded => ?_, fun hpadded => ?_⟩
    · exact hdiffers hpadded (h.mp (.inr (.inl hpadded)))
    · exact hdiffers hpadded (h.mp (.inr (.inr hpadded))).symm
  · rintro ⟨hright, hleft⟩
    exact or_iff_left (not_or.mpr ⟨hright, hleft⟩)

/-- A token and the same one with 256 zero bytes after it. -/
theorem constantTimeEqual_takes_padding :
    constantTimeEqual (ascii "token" ++ List.replicate 256 0) (ascii "token") = true ∧
      ascii "token" ++ List.replicate 256 0 ≠ ascii "token" := by
  decide +kernel

end CTraderGate7Runtime

end TradeBot
