import Mathlib.Data.List.Basic
import Mathlib.Data.Nat.Notation

/-!
# Byte strings

Text that a program compares and cuts byte by byte.
-/

namespace TradeBot.Library

/-- A byte string. -/
abbrev Bytes := List UInt8

instance lawfulBEqBytes : LawfulBEq Bytes := inferInstanceAs (LawfulBEq (List UInt8))

/-- The bytes of an ASCII text. -/
def ascii (text : String) : Bytes := text.toList.map fun c => c.toNat.toUInt8

/-- The byte of an ASCII character. -/
def byteOf (c : Char) : UInt8 := c.toNat.toUInt8

/-- The pieces of a text that is cut at every separator do not have it. -/
theorem notMem_of_mem_splitOn {α : Type*} [DecidableEq α] {a : α} {xs piece : List α}
    (h : piece ∈ xs.splitOn a) : a ∉ piece := by
  induction xs generalizing piece with
  | nil =>
    rw [List.splitOn_nil, List.mem_singleton] at h
    rw [h]
    exact List.not_mem_nil
  | cons x xs ih =>
    rw [List.splitOn_cons_eq_if_modifyHead] at h
    split at h
    · rcases List.mem_cons.mp h with rfl | h
      · exact List.not_mem_nil
      · exact ih h
    · next hx =>
      cases hpieces : xs.splitOn a with
      | nil => exact (List.splitOn_ne_nil a xs hpieces).elim
      | cons first pieces =>
        rw [hpieces, List.modifyHead_cons] at h
        rw [hpieces] at ih
        rcases List.mem_cons.mp h with rfl | h
        · rw [List.mem_cons, not_or]
          refine ⟨fun heq => hx ?_, ih List.mem_cons_self⟩
          rw [heq, beq_self_eq_true]
        · exact ih (List.mem_cons_of_mem _ h)

/-- The last piece of a text that ends with the separator is empty. -/
theorem nil_mem_splitOn {α : Type*} [DecidableEq α] {a : α} {xs : List α}
    (h : xs.getLast? = some a) : [] ∈ xs.splitOn a := by
  obtain ⟨front, rfl⟩ := List.getLast?_eq_some_iff.mp h
  rw [List.splitOn_append_cons_self, List.splitOn_nil]
  exact List.mem_append_right _ List.mem_cons_self

/-- Text of at most a length, not empty, and without control bytes. -/
def boundedText (value : Bytes) (maximum : ℕ) : Bool :=
  !value.isEmpty && decide (value.length ≤ maximum) &&
    value.all fun c => !(decide (c < 0x20) || c == 0x7f)

/-- A comparison that looks at every byte: the bitwise differences are collected before they
are compared with zero. -/
def differences : Bytes → Bytes → UInt8
  | x :: xs, y :: ys => (x ^^^ y) ||| differences xs ys
  | _, _ => 0

/-- Texts of one length differ nowhere when they are equal. -/
theorem differences_eq_zero_iff : ∀ {xs ys : Bytes}, xs.length = ys.length →
    (differences xs ys = 0 ↔ xs = ys)
  | [], [], _ => by simp [differences]
  | x :: xs, y :: ys, h => by
    have ih := @differences_eq_zero_iff xs ys (by simpa using h)
    rw [differences, UInt8.or_eq_zero_iff, ih, UInt8.xor_eq_zero_iff, List.cons.injEq]

end TradeBot.Library
