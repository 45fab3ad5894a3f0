import TradeBot.Library.Bytes

/-!
# Form encoding

Percent-encoded text and what it stands for in a form, where a plus sign is a space. Both are
grammars over bytes; a program that checks or decodes such text is compared with them.
-/

namespace TradeBot.Library

/-- The hexadecimal digit of a value, in either case. -/
def HexDigit (c : UInt8) (value : ℕ) : Prop :=
  (value < 10 ∧ c.toNat = 0x30 + value) ∨
    (10 ≤ value ∧ value < 16 ∧ (c.toNat = 0x61 + (value - 10) ∨ c.toNat = 0x41 + (value - 10)))

/-- A hexadecimal digit has one value. -/
theorem HexDigit.unique {c : UInt8} {v w : ℕ} (hv : HexDigit c v) (hw : HexDigit c w) :
    v = w := by
  unfold HexDigit at hv hw
  omega

/-- The value of a digit is less than 16. -/
theorem HexDigit.lt {c : UInt8} {v : ℕ} (h : HexDigit c v) : v < 16 := by
  unfold HexDigit at h
  omega

/-- Text without control bytes whose percent signs each begin an escape. -/
inductive WellEncoded : Bytes → Prop
  | nil : WellEncoded []
  | plain {c : UInt8} {text : Bytes} : 0x20 ≤ c → c ≠ 0x7f → c ≠ byteOf '%' → WellEncoded text →
      WellEncoded (c :: text)
  | escape {high low : UInt8} {v w : ℕ} {text : Bytes} : HexDigit high v → HexDigit low w →
      WellEncoded text → WellEncoded (byteOf '%' :: high :: low :: text)

/-- The value that form-encoded text stands for. -/
inductive FormDecodes : Bytes → Bytes → Prop
  | nil : FormDecodes [] []
  | plus {text value : Bytes} : FormDecodes text value →
      FormDecodes (byteOf '+' :: text) (byteOf ' ' :: value)
  | plain {c : UInt8} {text value : Bytes} : c ≠ byteOf '%' → c ≠ byteOf '+' →
      FormDecodes text value → FormDecodes (c :: text) (c :: value)
  | escape {high low : UInt8} {v w : ℕ} {text value : Bytes} : HexDigit high v → HexDigit low w →
      FormDecodes text value →
      FormDecodes (byteOf '%' :: high :: low :: text) (UInt8.ofNat (16 * v + w) :: value)

/-- Form-encoded text has one value. -/
theorem FormDecodes.unique {text value value' : Bytes} (h : FormDecodes text value)
    (h' : FormDecodes text value') : value = value' := by
  induction h generalizing value' with
  | nil =>
    cases h'
    rfl
  | plus _ ih =>
    cases h' with
    | plus h' => rw [ih h']
    | plain _ hplus _ => exact (hplus rfl).elim
  | plain hpercent hplus _ ih =>
    cases h' with
    | plus _ => exact (hplus rfl).elim
    | plain _ _ h' => rw [ih h']
    | escape _ _ _ => exact (hpercent rfl).elim
  | escape hhigh hlow _ ih =>
    cases h' with
    | plain hpercent _ _ => exact (hpercent rfl).elim
    | escape hhigh' hlow' h' => rw [ih h', hhigh.unique hhigh', hlow.unique hlow']

/-- Well-encoded text has a value. -/
theorem WellEncoded.decodes {text : Bytes} (h : WellEncoded text) :
    ∃ value, FormDecodes text value := by
  induction h with
  | nil => exact ⟨[], .nil⟩
  | @plain c text _ _ hpercent _ ih =>
    obtain ⟨value, hvalue⟩ := ih
    by_cases hplus : c = byteOf '+'
    · subst hplus
      exact ⟨_, .plus hvalue⟩
    · exact ⟨_, .plain hpercent hplus hvalue⟩
  | escape hhigh hlow _ ih =>
    obtain ⟨value, hvalue⟩ := ih
    exact ⟨_, .escape hhigh hlow hvalue⟩

/-- Only the empty text decodes to nothing. -/
theorem FormDecodes.eq_nil_iff {text value : Bytes} (h : FormDecodes text value) :
    value = [] ↔ text = [] := by
  cases h <;> simp

end TradeBot.Library
