import TradeBot.Library.ByteCodec

/-!
# Records of one size

A file of records that all have one size is read record by record, each from its own offset. A
reader sees all that follows the offset, and what it reads back from one written record it reads
back from all. Texts that end with a zero may be looked for beyond the record.
-/

namespace TradeBot.Library

variable {α β γ : Type*}

section Records

/-- What a reader gives at the offsets of a number of records of one size. -/
def readEach (size : ℕ) (read : List β → α) : ℕ → List β → List α
  | 0, _ => []
  | count + 1, memory => read memory :: readEach size read count (memory.drop size)

/-- As many records are read as asked for. -/
@[simp] theorem length_readEach (size : ℕ) (read : List β → α) (count : ℕ) (memory : List β) :
    (readEach size read count memory).length = count := by
  induction count generalizing memory with
  | zero => rfl
  | succ count ih => rw [readEach, List.length_cons, ih]

/-- Every record is read from its own offset. -/
theorem readEach_eq_map (size : ℕ) (read : List β → α) (count : ℕ) (memory : List β) :
    readEach size read count memory =
      (List.range count).map fun i => read (memory.drop (size * i)) := by
  induction count generalizing memory with
  | zero => rfl
  | succ count ih =>
    rw [readEach, ih, List.range_succ_eq_map, List.map_cons, List.map_map, mul_zero,
      List.drop_zero]
    congr 1
    apply List.map_congr_left
    intro i _
    rw [List.drop_drop, Function.comp_apply, Nat.mul_succ, Nat.add_comm]

/-- What is made of each record may be made while reading it. -/
theorem map_readEach (size : ℕ) (read : List β → α) (f : α → γ) (count : ℕ) (memory : List β) :
    (readEach size read count memory).map f = readEach size (f ∘ read) count memory := by
  induction count generalizing memory with
  | zero => rfl
  | succ count ih =>
    rw [readEach, List.map_cons, ih]
    rfl

/-- **Record rule.** Reading as many records as were written gives for each what the reader gives
at its offset, whatever follows there. -/
theorem readEach_flatMap {size : ℕ} {read : List β → α} {write : γ → List β} {result : γ → α}
    {xs : List γ} (hsize : ∀ x ∈ xs, (write x).length = size)
    (hread : ∀ x ∈ xs, ∀ rest, read (write x ++ rest) = result x) (rest : List β) :
    readEach size read xs.length (xs.flatMap write ++ rest) = xs.map result := by
  induction xs with
  | nil => rfl
  | cons x xs ih =>
    rw [List.forall_mem_cons] at hsize hread
    rw [List.length_cons, readEach, List.flatMap_cons, List.append_assoc, hread.1, List.map_cons,
      ← hsize.1, List.drop_left, hsize.1, ih hsize.2 hread.2]

/-- Records of one size add up. -/
theorem length_flatMap_of_size {size : ℕ} {write : γ → List β} {xs : List γ}
    (hsize : ∀ x ∈ xs, (write x).length = size) :
    (xs.flatMap write).length = size * xs.length := by
  induction xs with
  | nil => rfl
  | cons x xs ih =>
    rw [List.forall_mem_cons] at hsize
    rw [List.flatMap_cons, List.length_append, hsize.1, ih hsize.2, List.length_cons,
      Nat.mul_succ, Nat.add_comm]

end Records

section Texts

variable [DecidableEq β]

/-- The text before the first zero, and the number of symbols looked at to find it. -/
def zeroTerminated (zero : β) (memory : List β) : List β × ℕ :=
  let text := memory.takeWhile (· ≠ zero)
  (text, text.length + 1)

/-- A terminated text is read up to its end, and the terminator with it. -/
theorem zeroTerminated_append {zero : β} {text : List β} (h : zero ∉ text) (rest : List β) :
    zeroTerminated zero (text ++ zero :: rest) = (text, text.length + 1) := by
  have htext : (text ++ zero :: rest).takeWhile (· ≠ zero) = text := by
    rw [List.takeWhile_append_of_pos fun x hx => decide_eq_true (ne_of_mem_of_not_mem hx h),
      List.takeWhile_cons_of_neg (by simp), List.append_nil]
  unfold zeroTerminated
  dsimp only
  rw [htext]

/-- **Bounded search.** The search for a zero looks at no more symbols than a field has exactly
when the field has one. -/
theorem zeroTerminated_le_iff (zero : β) {field : List β} (hfield : 0 < field.length)
    (rest : List β) :
    (zeroTerminated zero (field ++ rest)).2 ≤ field.length ↔ zero ∈ field := by
  unfold zeroTerminated
  dsimp only
  constructor
  · intro hle
    by_contra hnone
    rw [List.takeWhile_append_of_pos fun x hx => decide_eq_true (ne_of_mem_of_not_mem hx hnone),
      List.length_append] at hle
    omega
  · intro hmem
    obtain ⟨text, after, rfl, hfirst⟩ := List.eq_append_cons_of_mem hmem
    have htext : (text ++ zero :: after ++ rest).takeWhile (· ≠ zero) = text := by
      rw [List.append_assoc, List.cons_append]
      exact congrArg Prod.fst (zeroTerminated_append hfirst (after ++ rest))
    rw [htext, List.length_append, List.length_cons]
    omega

end Texts

end TradeBot.Library
