import Mathlib.Tactic.Positivity
import Mathlib.Tactic.Ring
import TradeBot.Library.ByteCodec
import TradeBot.Library.Fallible

/-!
# Words with their highest byte first

Words of any width and blocks of a given length as readers: what was written is read back, and
what a reader accepts is what is written for its value.
-/

namespace TradeBot.Library

universe u v

/-- A word of a width in bytes, its highest byte first. -/
def bigEndian : ℕ → ℕ → List UInt8
  | 0, _ => []
  | width + 1, n => UInt8.ofNat (n >>> (8 * width)) :: bigEndian width n

/-- One more byte of a word. -/
def shiftIn (value : ℕ) (b : UInt8) : ℕ := (value <<< 8) ||| b.toNat

/-- The word of bytes, the highest byte first. -/
def ofBigEndian (bytes : List UInt8) : ℕ := bytes.foldl shiftIn 0

/-- A number is written in as many bytes as asked for. -/
@[simp] theorem length_bigEndian (width n : ℕ) : (bigEndian width n).length = width := by
  induction width with
  | zero => rfl
  | succ width ih => rw [bigEndian, List.length_cons, ih]

/-- Shifting a byte in multiplies by 256 and adds it. -/
theorem shiftIn_eq (value : ℕ) (b : UInt8) : shiftIn value b = value * 256 + b.toNat := by
  unfold shiftIn
  rw [← Nat.shiftLeft_add_eq_or_of_lt b.toNat_lt, Nat.shiftLeft_eq]

/-- Reading the written bytes after others gives the number, reduced to its width. -/
theorem foldl_shiftIn_bigEndian (width n value : ℕ) :
    (bigEndian width n).foldl shiftIn value = value * 256 ^ width + n % 256 ^ width := by
  induction width generalizing value with
  | zero =>
    rw [bigEndian, List.foldl_nil, pow_zero, Nat.mod_one, mul_one, add_zero]
  | succ width ih =>
    have hbyte : (UInt8.ofNat (n >>> (8 * width))).toNat = n / 256 ^ width % 256 := by
      rw [UInt8.toNat_ofNat', Nat.shiftRight_eq_div_pow, pow_mul, show 2 ^ 8 = 256 from rfl]
    rw [bigEndian, List.foldl_cons, ih, shiftIn_eq, hbyte, pow_succ, Nat.mod_mul]
    ring

/-- The bytes of a word give the word back when it fits. -/
theorem ofBigEndian_bigEndian {width n : ℕ} (h : n < 256 ^ width) :
    ofBigEndian (bigEndian width n) = n := by
  unfold ofBigEndian
  rw [foldl_shiftIn_bigEndian, zero_mul, zero_add, Nat.mod_eq_of_lt h]

/-- Reading bytes after a value appends them to it, and what they say fits their width. -/
theorem foldl_shiftIn (bytes : List UInt8) (value : ℕ) :
    bytes.foldl shiftIn value = value * 256 ^ bytes.length + ofBigEndian bytes ∧
      ofBigEndian bytes < 256 ^ bytes.length := by
  unfold ofBigEndian
  induction bytes generalizing value with
  | nil => simp
  | cons b bytes ih =>
    have hb : b.toNat < 256 := b.toNat_lt
    obtain ⟨hvalue, hbound⟩ := ih (shiftIn value b)
    have hzero := (ih (shiftIn 0 b)).1
    rw [List.foldl_cons, List.foldl_cons, hvalue, hzero, shiftIn_eq, shiftIn_eq,
      List.length_cons, pow_succ]
    constructor
    · ring
    · calc (0 * 256 + b.toNat) * 256 ^ bytes.length + bytes.foldl shiftIn 0
          < (0 * 256 + b.toNat) * 256 ^ bytes.length + 256 ^ bytes.length := by omega
        _ = (b.toNat + 1) * 256 ^ bytes.length := by ring
        _ ≤ 256 * 256 ^ bytes.length := Nat.mul_le_mul_right _ hb
        _ = 256 ^ bytes.length * 256 := Nat.mul_comm _ _

/-- The word of bytes has these bytes. -/
theorem bigEndian_ofBigEndian (bytes : List UInt8) :
    bigEndian bytes.length (ofBigEndian bytes) = bytes := by
  suffices h : ∀ value, bigEndian bytes.length (bytes.foldl shiftIn value) = bytes from h 0
  induction bytes with
  | nil => exact fun value => rfl
  | cons b bytes ih =>
    intro value
    obtain ⟨hvalue, hbound⟩ := foldl_shiftIn bytes (shiftIn value b)
    rw [List.foldl_cons, List.length_cons, bigEndian, ih, hvalue, Nat.shiftRight_eq_div_pow,
      pow_mul, show 2 ^ 8 = 256 from rfl, mul_comm, Nat.mul_add_div (by positivity),
      Nat.div_eq_of_lt hbound, add_zero, shiftIn_eq]
    congr 1
    apply UInt8.toNat_inj.mp
    have hb : b.toNat < 256 := b.toNat_lt
    rw [UInt8.toNat_ofNat']
    omega

namespace Reader

variable {β : Type u} {ε : Type v} {α γ : Type u}

/-- A sequence returns when both parts do. -/
theorem bind_run_eq_ok {r : Reader β ε α} {f : α → Reader β ε γ} {input rest : List β} {c : γ} :
    (r >>= f) input = .ok (c, rest) ↔
      ∃ a middle, r input = .ok (a, middle) ∧ f a middle = .ok (c, rest) := by
  change (r input >>= fun p => f p.1 p.2) = _ ↔ _
  rw [bind_eq_ok, Prod.exists]

/-- A reader that reads nothing leaves its input. -/
theorem pure_run_eq_ok {a b : α} {input rest : List β} :
    (pure a : Reader β ε α) input = .ok (b, rest) ↔ a = b ∧ input = rest := by
  change (Except.ok (a, input) : Except ε _) = _ ↔ _
  rw [Except.ok.injEq, Prod.mk.injEq]

/-- A requirement passes when its condition is true, and leaves the input. -/
theorem require_run_eq_ok {condition : Bool} {error : ε} {input rest : List β} {u : PUnit} :
    require condition error input = .ok (u, rest) ↔ condition = true ∧ input = rest := by
  cases condition with
  | false =>
    constructor
    · intro h
      cases h
    · intro h
      cases h.1
  | true => exact pure_run_eq_ok.trans (and_congr_left fun _ => by simp)

/-- The sequence rule where the second part reads nothing. -/
theorem ReadsBack.last {r : Reader β ε α} {f : α → Reader β ε γ} {written : List β} {a : α}
    {c : γ} (h : r.ReadsBack written a) (h' : (f a).ReadsBack [] c) :
    (r >>= f).ReadsBack written c := by
  rw [← List.append_nil written]
  exact h.bind h'

/-- A block of symbols. -/
def block (length : ℕ) (error : ε) : Reader β ε (List β) := fun input =>
  if input.length < length then .error error else .ok (input.take length, input.drop length)

/-- A block of bytes is read back as itself. -/
theorem readsBack_block (written : List β) (error : ε) :
    (block written.length error).ReadsBack written written := by
  intro rest
  rw [block, if_neg (by rw [List.length_append]; omega), List.take_left, List.drop_left]

/-- What a block reader returns is the first bytes of its input. -/
theorem block_eq_ok {length : ℕ} {error : ε} {input bytes rest : List β}
    (h : block length error input = .ok (bytes, rest)) :
    input = bytes ++ rest ∧ bytes.length = length := by
  unfold block at h
  split at h
  · cases h
  · injection h with h
    injection h with h₁ h₂
    subst h₁ h₂
    exact ⟨(List.take_append_drop length input).symm, List.length_take_of_le (by omega)⟩

/-- A word of a width in bytes, its highest byte first. -/
def word (width : ℕ) (error : ε) : Reader UInt8 ε ℕ := do
  let bytes ← block width error
  return ofBigEndian bytes

/-- A number that fits its width is read back from its bytes. -/
theorem readsBack_word {width n : ℕ} (h : n < 256 ^ width) (error : ε) :
    (word width error).ReadsBack (bigEndian width n) n := by
  have hblock := readsBack_block (bigEndian width n) error
  rw [length_bigEndian] at hblock
  apply hblock.last
  rw [ofBigEndian_bigEndian h]
  exact readsBack_pure n

/-- What a word reader returns is spelled by the first bytes of its input. -/
theorem word_eq_ok {width n : ℕ} {error : ε} {input rest : List UInt8}
    (h : word width error input = .ok (n, rest)) :
    input = bigEndian width n ++ rest ∧ n < 256 ^ width := by
  obtain ⟨bytes, middle, hblock, hpure⟩ := bind_run_eq_ok.mp h
  obtain ⟨rfl, rfl⟩ := pure_run_eq_ok.mp hpure
  obtain ⟨rfl, rfl⟩ := block_eq_ok hblock
  exact ⟨by rw [bigEndian_ofBigEndian], (foldl_shiftIn bytes 0).2⟩

end Reader

end TradeBot.Library
